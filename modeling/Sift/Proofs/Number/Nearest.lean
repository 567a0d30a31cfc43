import Mathlib.Algebra.Order.Field.Rat
import Mathlib.Tactic.FieldSimp
import Mathlib.Tactic.Linarith
import Mathlib.Tactic.Ring
import Sift.Proofs.Number.Integer

/-!
# Rounding to the nearest number

Between two neighbouring magnitudes the point halfway decides: a fraction before it is rounded down,
one behind it is rounded up, and one on it is rounded to the even rank (`nearestRank_le_iff`).  So a
fraction is rounded to the rank whose magnitude is nearest, among all ranks
(`isNearest_nearestRank`).

The last finite rank is odd, and the point halfway behind it is `overflow`.  Fractions below it are
rounded to finite numbers and all others are not (`ofRatio_of_lt`, `ofRatio_of_le`).
-/

namespace Sift.Number

/-! ## The order of magnitudes -/

/-- The magnitudes of later ranks are larger. -/
private theorem units_lt_succ (rank : Nat) : units rank < units (rank + 1) := by
  -- otherwise the next rank would be rounded to this one
  refine Nat.lt_of_not_le fun hle => ?_
  have hrank := @nearestRank_mono _ _ 1 hle
  have hself := nearestRank_units rank Nat.one_pos
  have hnext := nearestRank_units (rank + 1) Nat.one_pos
  rw [Nat.mul_one] at hself hnext
  omega

/-- Magnitudes are ordered as their ranks are. -/
private theorem units_mono {rank rank' : Nat} (h : rank ≤ rank') : units rank ≤ units rank' := by
  induction h with
  | refl => exact Nat.le_refl _
  | step _ ih => exact Nat.le_trans ih (Nat.le_of_lt (units_lt_succ _))

/-- The magnitudes of a block of ranks are the multiples of one step. -/
private theorem units_block {shift m : Nat} (hm : m ≤ Nat.pow 2 53)
    (hlow : 0 < shift → Nat.pow 2 52 ≤ m) :
    units (shift * Nat.pow 2 52 + m) = m * Nat.pow 2 shift := by
  rw [Nat.add_comm]
  by_cases hshift : 0 < shift
  · rw [units_add_blocks (hlow hshift), units_of_le hm]
  · have hzero : shift = 0 := by omega
    rw [hzero, Nat.zero_mul, Nat.add_zero, units_of_le hm]
    exact (Nat.mul_one m).symm

/-! ## The ranks around a fraction -/

/-- The rank of the largest magnitude that is not above a fraction. -/
def rankBelow (num den : Nat) : Nat := spacing num den * Nat.pow 2 52 + wholeSteps num den

/-- The magnitude below a fraction is that of its whole steps. -/
private theorem units_rankBelow (num den : Nat) :
    units (rankBelow num den) = wholeSteps num den * Nat.pow 2 (spacing num den) :=
  units_block (Nat.le_of_lt (wholeSteps_lt num den)) le_wholeSteps

/-- One more step leads to the next rank, also where the next block begins there. -/
private theorem units_rankBelow_succ (num den : Nat) :
    units (rankBelow num den + 1) = (wholeSteps num den + 1) * Nat.pow 2 (spacing num den) := by
  unfold rankBelow
  rw [Nat.add_assoc]
  exact units_block (wholeSteps_lt num den) fun h => Nat.le_succ_of_le (le_wholeSteps h)

/-- A fraction lies between the magnitudes of the rank below it and of the next one. -/
private theorem units_rankBelow_le (num : Nat) {den : Nat} (hden : 0 < den) :
    units (rankBelow num den) * den ≤ num ∧ num < units (rankBelow num den + 1) * den := by
  have hstep : 0 < den * Nat.pow 2 (spacing num den) := Nat.mul_pos hden (Nat.pow_pos (by decide))
  rw [units_rankBelow, units_rankBelow_succ, Nat.mul_assoc, Nat.mul_assoc, Nat.mul_comm _ den]
  exact ⟨Nat.div_mul_le_self _ _, (Nat.div_lt_iff_lt_mul hstep).mp (Nat.lt_succ_self _)⟩

/-- Twice the point halfway between the magnitudes of a rank and of the next one, in units. -/
def doubledMidpoint (rank : Nat) : Nat := units rank + units (rank + 1)

/-- A fraction is rounded down before the point halfway, and on it if that leads to an even rank. -/
private theorem nearestRank_eq (num den : Nat) :
    nearestRank num den =
      if 2 * num < doubledMidpoint (rankBelow num den) * den ∨
          2 * num = doubledMidpoint (rankBelow num den) * den ∧ rankBelow num den % 2 = 0 then
        rankBelow num den
      else rankBelow num den + 1 := by
  -- what the fraction has beyond its whole steps is compared with half a step
  have hrest : nearestRank num den =
      if 2 * (num % (den * Nat.pow 2 (spacing num den))) < den * Nat.pow 2 (spacing num den) ∨
          2 * (num % (den * Nat.pow 2 (spacing num den))) = den * Nat.pow 2 (spacing num den) ∧
            rankBelow num den % 2 = 0 then
        rankBelow num den
      else rankBelow num den + 1 := rfl
  have hmid : doubledMidpoint (rankBelow num den) * den =
      2 * (den * Nat.pow 2 (spacing num den) * (num / (den * Nat.pow 2 (spacing num den)))) +
        den * Nat.pow 2 (spacing num den) := by
    rw [doubledMidpoint, units_rankBelow, units_rankBelow_succ]
    unfold wholeSteps
    ring
  have hnum := Nat.div_add_mod num (den * Nat.pow 2 (spacing num den))
  rw [hrest, hmid]
  generalize den * Nat.pow 2 (spacing num den) = step at *
  congr 1
  rw [eq_iff_iff]
  omega

/-- A fraction is rounded to a rank or to one below it exactly if it lies before the point halfway
    to the next rank, or on it if the rank is even. -/
theorem nearestRank_le_iff {num den rank : Nat} (hden : 0 < den) :
    nearestRank num den ≤ rank ↔
      2 * num < doubledMidpoint rank * den ∨
        2 * num = doubledMidpoint rank * den ∧ rank % 2 = 0 := by
  obtain ⟨hlow, hhigh⟩ := units_rankBelow_le num hden
  have hcases : nearestRank num den = rankBelow num den ∨
      nearestRank num den = rankBelow num den + 1 := nearestRank_cases num den
  have hself := Nat.mul_lt_mul_of_pos_right (units_lt_succ rank) hden
  rcases Nat.lt_trichotomy rank (rankBelow num den) with h | h | h
  · -- the fraction is not below the next rank, so it is behind the point halfway
    have hnext := Nat.mul_le_mul_right den (units_mono (show rank + 1 ≤ _ from h))
    have hmid : doubledMidpoint rank * den < 2 * num := by
      rw [doubledMidpoint, Nat.add_mul]
      omega
    omega
  · subst h
    rw [nearestRank_eq]
    split
    · rename_i hdown
      exact ⟨fun _ => hdown, fun _ => Nat.le_refl _⟩
    · rename_i hup
      exact ⟨fun hle => absurd hle (by omega), fun hdown => absurd hdown hup⟩
  · -- the fraction is below this rank already
    have hbefore := Nat.mul_le_mul_right den (units_mono (show _ + 1 ≤ rank from h))
    have hmid : 2 * num < doubledMidpoint rank * den := by
      rw [doubledMidpoint, Nat.add_mul]
      omega
    omega

/-! ## Magnitudes as fractions -/

/-- The magnitude of a rank. -/
def magnitude (rank : Nat) : ℚ := units rank / 2 ^ 1074

/-- The point halfway between the magnitudes of a rank and of the next one. -/
def midpoint (rank : Nat) : ℚ := (magnitude rank + magnitude (rank + 1)) / 2

/-- Each magnitude is smaller than the next one. -/
private theorem magnitude_lt_succ (rank : Nat) : magnitude rank < magnitude (rank + 1) :=
  div_lt_div_of_pos_right (Nat.cast_lt.mpr (units_lt_succ rank)) (pow_pos two_pos 1074)

/-- Magnitudes are ordered as their ranks are, as fractions too. -/
private theorem magnitude_mono {rank rank' : Nat} (h : rank ≤ rank') :
    magnitude rank ≤ magnitude rank' :=
  div_le_div_of_nonneg_right (Nat.cast_le.mpr (units_mono h)) (pow_pos two_pos 1074).le

/-- The point halfway in units, with the unit divided out. -/
private theorem midpoint_eq (rank : Nat) :
    midpoint rank = doubledMidpoint rank / (2 * 2 ^ 1074) := by
  unfold midpoint magnitude doubledMidpoint
  rw [Nat.cast_add, ← add_div, div_div, mul_comm (2 : ℚ)]

/-- The units of a natural number, as a fraction. -/
private theorem cast_wholeUnits (n : Nat) : (wholeUnits n : ℚ) = n * 2 ^ 1074 := by
  unfold wholeUnits
  simp only [Nat.pow_eq, Nat.cast_mul, Nat.cast_pow, Nat.cast_ofNat]

/-- The point halfway decides about fractions as it does about their units. -/
private theorem nearestRank_le_iff_midpoint {num den rank : Nat} (hden : 0 < den) :
    nearestRank (wholeUnits num) den ≤ rank ↔
      (num / den : ℚ) < midpoint rank ∨ (num / den : ℚ) = midpoint rank ∧ rank % 2 = 0 := by
  have hden' : (0 : ℚ) < den := Nat.cast_pos.mpr hden
  have hscale : (0 : ℚ) < 2 * 2 ^ 1074 := mul_pos two_pos (pow_pos two_pos 1074)
  have hnum : (num : ℚ) * (2 * 2 ^ 1074) = (2 * wholeUnits num : Nat) := by
    rw [Nat.cast_mul, cast_wholeUnits, mul_left_comm, Nat.cast_ofNat]
  -- both comparisons are multiplied out
  rw [nearestRank_le_iff hden, midpoint_eq, div_lt_div_iff₀ hden' hscale,
    div_eq_div_iff hden'.ne' hscale.ne', hnum, ← Nat.cast_mul, Nat.cast_lt, Nat.cast_inj]

/-! ## The nearest magnitude -/

/-- The magnitude of a rank is nearest to a fraction, and no other one is equally near, unless the
    rank is even.  All ranks are compared, also those beyond the finite ones. -/
structure IsNearest (rank : Nat) (x : ℚ) : Prop where
  distance_le : ∀ other, |magnitude rank - x| ≤ |magnitude other - x|
  even_of_tie : ∀ other ≠ rank, |magnitude rank - x| = |magnitude other - x| → rank % 2 = 0

/-- On this side of the point halfway to some point, nothing from there on is nearer. -/
private theorem distance_le_of_le_midpoint {near far other x : ℚ} (hfar : near < far)
    (hother : far ≤ other) (hx : x ≤ (near + far) / 2) :
    |near - x| ≤ |other - x| ∧ (|near - x| = |other - x| → x = (near + far) / 2) := by
  -- the point is no further from `near` than from `far`, and `other` lies beyond `far`
  have hnear : |near - x| ≤ far - x := abs_le.mpr ⟨by linarith, by linarith⟩
  have hself : other - x ≤ |other - x| := le_abs_self _
  refine ⟨by linarith, fun htie => ?_⟩
  rcases abs_cases (near - x) with ⟨h, -⟩ | ⟨h, -⟩
  · linarith
  · linarith

/-- The same on the other side. -/
private theorem distance_le_of_midpoint_le {near far other x : ℚ} (hfar : far < near)
    (hother : other ≤ far) (hx : (far + near) / 2 ≤ x) :
    |near - x| ≤ |other - x| ∧ (|near - x| = |other - x| → x = (far + near) / 2) := by
  -- the other side is this one with all signs turned
  obtain ⟨hle, htie⟩ := distance_le_of_le_midpoint (neg_lt_neg hfar) (neg_le_neg hother)
    (show -x ≤ (-near + -far) / 2 by linarith)
  rw [neg_sub_neg, neg_sub_neg, abs_sub_comm, abs_sub_comm x] at hle htie
  exact ⟨hle, fun heq => by linarith [htie heq]⟩

/-- A fraction that is rounded to a rank or below is nearer to the rank than to all later ones. -/
private theorem distance_le_later {rank other : Nat} {x : ℚ}
    (hx : x < midpoint rank ∨ x = midpoint rank ∧ rank % 2 = 0) (h : rank < other) :
    |magnitude rank - x| ≤ |magnitude other - x| ∧
      (|magnitude rank - x| = |magnitude other - x| → rank % 2 = 0) := by
  have hside : x ≤ midpoint rank := hx.elim le_of_lt fun htie => le_of_eq htie.1
  obtain ⟨hle, htie⟩ :=
    distance_le_of_le_midpoint (magnitude_lt_succ rank) (magnitude_mono h) hside
  refine ⟨hle, fun heq => ?_⟩
  rcases hx with hlt | ⟨-, heven⟩
  · exact absurd (htie heq) hlt.ne
  · exact heven

/-- A fraction that is not rounded to a rank or below is nearer to the next rank than to all earlier
    ones. -/
private theorem distance_le_earlier {rank other : Nat} {x : ℚ}
    (hx : ¬ (x < midpoint rank ∨ x = midpoint rank ∧ rank % 2 = 0)) (h : other < rank + 1) :
    |magnitude (rank + 1) - x| ≤ |magnitude other - x| ∧
      (|magnitude (rank + 1) - x| = |magnitude other - x| → (rank + 1) % 2 = 0) := by
  rw [not_or, not_lt, not_and] at hx
  obtain ⟨hle, htie⟩ := distance_le_of_midpoint_le (magnitude_lt_succ rank)
    (magnitude_mono (Nat.le_of_lt_succ h)) hx.1
  refine ⟨hle, fun heq => ?_⟩
  have hodd := hx.2 (htie heq)
  omega

/-- A fraction is rounded to the rank whose magnitude is nearest. -/
theorem isNearest_nearestRank (num : Nat) {den : Nat} (hden : 0 < den) :
    IsNearest (nearestRank (wholeUnits num) den) (num / den) := by
  have hround := fun rank => @nearestRank_le_iff_midpoint num den rank hden
  generalize nearestRank (wholeUnits num) den = rank at *
  generalize (num / den : ℚ) = x at *
  -- earlier ranks and later ones are compared through the point halfway to the next rank on their
  -- side
  have hothers : ∀ other ≠ rank, |magnitude rank - x| ≤ |magnitude other - x| ∧
      (|magnitude rank - x| = |magnitude other - x| → rank % 2 = 0) := by
    intro other hother
    rcases Nat.lt_or_gt_of_ne hother with h | h
    · -- the fraction is not rounded to the rank before this one
      obtain ⟨before, rfl⟩ := Nat.exists_eq_add_one_of_ne_zero (Nat.ne_of_gt (Nat.zero_lt_of_lt h))
      exact distance_le_earlier (mt (hround before).mpr (by omega)) h
    · exact distance_le_later ((hround rank).mp (Nat.le_refl _)) h
  refine ⟨fun other => ?_, fun other hother => (hothers other hother).2⟩
  by_cases hother : other = rank
  · rw [hother]
  · exact (hothers other hother).1

/-! ## Overflow -/

/-- The least fraction that is rounded beyond the finite numbers. -/
def overflow : ℚ := 2 ^ 1024 - 2 ^ 970

/-- It is the point halfway between the last finite rank and the one behind it. -/
private theorem midpoint_last : midpoint (rankBound - 1) = overflow := by
  have hlast : rankBound - 1 = 2045 * Nat.pow 2 52 + (Nat.pow 2 53 - 1) := rfl
  have hnext : rankBound - 1 + 1 = 2045 * Nat.pow 2 52 + Nat.pow 2 53 := rfl
  -- the exponents are variables so that no large power is computed
  have hpowers : ∀ low high scale step : Nat, high = low + 54 → step = low + scale + 1 →
      (((Nat.pow 2 53 - 1) * Nat.pow 2 step + Nat.pow 2 53 * Nat.pow 2 step : Nat) : ℚ) /
        (2 * 2 ^ scale) = 2 ^ high - 2 ^ low := by
    rintro low - scale - rfl rfl
    have hscale : (0 : ℚ) < 2 ^ scale := pow_pos two_pos scale
    simp only [Nat.pow_eq]
    push_cast
    rw [pow_add, pow_add, pow_add]
    field_simp
    ring
  rw [midpoint_eq, doubledMidpoint, hnext, hlast, units_block (by decide) (by decide),
    units_block (by decide) (by decide)]
  exact hpowers 970 1024 1074 2045 rfl rfl

/-- The fractions below the overflow are those with a finite rank. -/
private theorem nearestRank_lt_rankBound_iff {num den : Nat} (hden : 0 < den) :
    nearestRank (wholeUnits num) den < rankBound ↔ (num / den : ℚ) < overflow := by
  have hodd : (rankBound - 1) % 2 ≠ 0 := by decide
  have hpos : 0 < rankBound := by decide
  rw [← midpoint_last, ← Nat.le_sub_one_iff_lt hpos, nearestRank_le_iff_midpoint hden]
  -- on the point itself, rounding goes away from the odd rank
  exact ⟨fun h => h.elim id fun htie => absurd htie.2 hodd, .inl⟩

section

variable (negative : Bool) {num den : Nat} (hden : 0 < den)

/-- A fraction is finite if its rank is. -/
private theorem ofRatio_eq :
    ofRatio negative num den =
      if h : nearestRank (wholeUnits num) den < rankBound then
        .finite negative ⟨nearestRank (wholeUnits num) den, h⟩
      else .infinite negative := rfl

include hden

/-- Below the overflow, a fraction is rounded to the finite number that is nearest. -/
theorem ofRatio_of_lt (h : (num / den : ℚ) < overflow) :
    ∃ rank : Fin rankBound, ofRatio negative num den = .finite negative rank ∧
      IsNearest rank (num / den) := by
  have hrank := (nearestRank_lt_rankBound_iff hden).mpr h
  exact ⟨⟨_, hrank⟩, by rw [ofRatio_eq, dif_pos hrank], isNearest_nearestRank num hden⟩

/-- From the overflow on, a fraction is rounded to an infinite number. -/
theorem ofRatio_of_le (h : overflow ≤ (num / den : ℚ)) :
    ofRatio negative num den = .infinite negative := by
  have hrank := mt (nearestRank_lt_rankBound_iff hden).mp (not_lt.mpr h)
  rw [ofRatio_eq, dif_neg hrank]

end

end Sift.Number

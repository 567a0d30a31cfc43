import Sift.Proofs.Number.Whole

/-!
# Integers among the numbers

Rounding keeps the order of fractions (`nearestRank_mono`), and every natural number up to `2 ^ 53`
is a number without rounding (`exists_units_eq`).  Together this tells an integer below `2 ^ 53`
from all other integers, however far these are rounded: the next larger integer is still exact, and
what lies beyond it is rounded to nothing below (`compare?_ofInt`).
-/

namespace Sift.Number

/-! ## Rounding keeps the order -/

/-- The exponent of the step between the magnitudes around a fraction. -/
def spacing (num den : Nat) : Nat := (num / den).log2 - 52

/-- How many whole steps a fraction has. -/
def wholeSteps (num den : Nat) : Nat := num / (den * Nat.pow 2 (spacing num den))

/-- A fraction is rounded to the rank of its whole steps or to the next one. -/
theorem nearestRank_cases (num den : Nat) :
    nearestRank num den = spacing num den * Nat.pow 2 52 + wholeSteps num den ∨
      nearestRank num den = spacing num den * Nat.pow 2 52 + wholeSteps num den + 1 := by
  unfold nearestRank
  dsimp only
  split
  · exact .inl rfl
  · exact .inr rfl

/-- Steps are doubled before there are too many of them. -/
theorem wholeSteps_lt (num den : Nat) : wholeSteps num den < Nat.pow 2 53 := by
  have hpower : 0 < Nat.pow 2 (spacing num den) := Nat.pow_pos (by decide)
  have hle : (num / den).log2 + 1 ≤ 53 + spacing num den := by unfold spacing; omega
  unfold wholeSteps
  rw [← Nat.div_div_eq_div_mul, Nat.div_lt_iff_lt_mul hpower]
  calc num / den < Nat.pow 2 ((num / den).log2 + 1) := Nat.lt_log2_self
    _ ≤ Nat.pow 2 (53 + spacing num den) := Nat.pow_le_pow_right (by decide) hle
    _ = Nat.pow 2 53 * Nat.pow 2 (spacing num den) := Nat.pow_add 2 53 _

/-- Where the step is doubled at all, there are enough steps not to halve it. -/
theorem le_wholeSteps {num den : Nat} (h : 0 < spacing num den) :
    Nat.pow 2 52 ≤ wholeSteps num den := by
  have hpower : 0 < Nat.pow 2 (spacing num den) := Nat.pow_pos (by decide)
  have hne : num / den ≠ 0 := by
    intro hzero
    rw [spacing, hzero] at h
    exact absurd h (by decide)
  -- the spacing is what the quotient has beyond 53 bits
  have heq : 52 + spacing num den = (num / den).log2 := by unfold spacing at *; omega
  unfold wholeSteps
  rw [← Nat.div_div_eq_div_mul, Nat.le_div_iff_mul_le hpower]
  calc Nat.pow 2 52 * Nat.pow 2 (spacing num den)
      = Nat.pow 2 (52 + spacing num den) := (Nat.pow_add 2 52 _).symm
    _ = Nat.pow 2 (num / den).log2 := by rw [heq]
    _ ≤ num / den := Nat.log2_self_le hne

/-- A larger fraction lies among magnitudes that are no closer to one another. -/
private theorem spacing_mono {num num' den : Nat} (h : num ≤ num') :
    spacing num den ≤ spacing num' den := by
  have hle : num / den ≤ num' / den := Nat.div_le_div_right h
  unfold spacing
  -- below one there is no leading bit to compare
  by_cases hzero : num / den = 0
  · rw [hzero]
    exact Nat.zero_le _
  · have hpos : 0 < num' / den := Nat.lt_of_lt_of_le (Nat.pos_of_ne_zero hzero) hle
    have hlog : (num / den).log2 ≤ (num' / den).log2 :=
      (Nat.le_log2 (Nat.ne_of_gt hpos)).mpr (Nat.le_trans (Nat.log2_self_le hzero) hle)
    omega

/-- In steps of one length, more is not rounded to less. -/
private theorem rounded_mono {num num' step base : Nat} (h : num ≤ num') :
    (if 2 * (num % step) < step ∨ 2 * (num % step) = step ∧ (base + num / step) % 2 = 0
        then base + num / step else base + num / step + 1) ≤
      if 2 * (num' % step) < step ∨ 2 * (num' % step) = step ∧ (base + num' / step) % 2 = 0
        then base + num' / step else base + num' / step + 1 := by
  have hle : num / step ≤ num' / step := Nat.div_le_div_right h
  by_cases heq : num / step = num' / step
  · -- the one with less left over is not the only one to be rounded up
    have hrest : num % step ≤ num' % step := by
      have hnum := Nat.div_add_mod num step
      have hnum' := Nat.div_add_mod num' step
      rw [heq] at hnum
      omega
    rw [heq]
    split <;> split <;> omega
  · split <;> split <;> omega

/-- A larger fraction is not rounded to a smaller rank. -/
theorem nearestRank_mono {num num' den : Nat} (h : num ≤ num') :
    nearestRank num den ≤ nearestRank num' den := by
  have hspacing := @spacing_mono num num' den h
  by_cases heq : spacing num den = spacing num' den
  · unfold spacing at heq
    unfold nearestRank
    rw [heq]
    exact rounded_mono h
  · -- the smaller one stays below the first rank with the larger step
    have hlt := wholeSteps_lt num den
    have hle := @le_wholeSteps num' den (by omega)
    have hblock := Nat.mul_le_mul_right (Nat.pow 2 52)
      (show spacing num den + 1 ≤ spacing num' den by omega)
    rw [Nat.add_mul, Nat.one_mul] at hblock
    have hdouble : Nat.pow 2 53 = Nat.pow 2 52 + Nat.pow 2 52 := rfl
    cases nearestRank_cases num den <;> cases nearestRank_cases num' den <;> omega

/-! ## Integers without rounding -/

/-- The first magnitudes are as many units as their ranks. -/
theorem units_of_le {rank : Nat} (h : rank ≤ Nat.pow 2 53) : units rank = rank := by
  have hpow : Nat.pow 2 52 = 4503599627370496 := rfl
  have hpow' : Nat.pow 2 53 = 9007199254740992 := rfl
  unfold units
  rw [hpow] at *
  rw [hpow'] at h
  by_cases hsmall : rank < 4503599627370496
  · rw [if_pos hsmall]
  · rw [if_neg hsmall]
    -- the last of them begins a block of its own
    by_cases htop : rank = 9007199254740992
    · subst htop
      rfl
    · have hdiv : rank / 4503599627370496 = 1 := by omega
      have hmod : rank % 4503599627370496 = rank - 4503599627370496 := by omega
      rw [hdiv, hmod]
      show (4503599627370496 + (rank - 4503599627370496)) * 1 = rank
      omega

/-- From there on, magnitudes double with every block of ranks. -/
private theorem units_add_block {rank : Nat} (h : Nat.pow 2 52 ≤ rank) :
    units (rank + Nat.pow 2 52) = units rank * 2 := by
  have hpos : 0 < Nat.pow 2 52 := by decide
  have hblock : 1 ≤ rank / Nat.pow 2 52 := (Nat.one_le_div_iff hpos).mpr h
  unfold units
  rw [if_neg (by omega), if_neg (by omega), Nat.add_mod_right, Nat.add_div_right _ hpos]
  have hexponent : (rank / Nat.pow 2 52).succ - 1 = rank / Nat.pow 2 52 - 1 + 1 := by omega
  rw [hexponent, Nat.mul_assoc]
  rfl

/-- So they do with any number of blocks. -/
theorem units_add_blocks {rank : Nat} (h : Nat.pow 2 52 ≤ rank) (count : Nat) :
    units (rank + count * Nat.pow 2 52) = units rank * Nat.pow 2 count := by
  induction count with
  | zero =>
    rw [Nat.zero_mul, Nat.add_zero]
    exact (Nat.mul_one _).symm
  | succ count ih =>
    rw [Nat.succ_mul, ← Nat.add_assoc, units_add_block (by omega), ih, Nat.mul_assoc]
    rfl

/-- Up to `2 ^ 53` times a power of two is the magnitude of a rank. -/
theorem exists_units_eq (exponent : Nat) {m : Nat} (hm : m ≤ Nat.pow 2 53) :
    ∃ rank ≤ (exponent + 2) * Nat.pow 2 52, units rank = m * Nat.pow 2 exponent := by
  have hdouble : Nat.pow 2 53 = Nat.pow 2 52 + Nat.pow 2 52 := rfl
  -- on the exponent: a factor of two goes to the integer, or moves the rank by a block
  induction exponent generalizing m with
  | zero =>
    refine ⟨m, by omega, ?_⟩
    rw [units_of_le hm]
    exact (Nat.mul_one m).symm
  | succ exponent ih =>
    by_cases hhalf : m ≤ Nat.pow 2 52
    · -- there is room for a factor of two
      obtain ⟨rank, hrank, hunits⟩ := ih (m := m * 2) (by omega)
      refine ⟨rank, Nat.le_trans hrank (Nat.mul_le_mul_right _ (by omega)), ?_⟩
      rw [hunits, Nat.mul_assoc, Nat.mul_comm 2]
      rfl
    · refine ⟨m + (exponent + 1) * Nat.pow 2 52, ?_, ?_⟩
      · rw [Nat.add_mul (exponent + 1)]
        omega
      · rw [units_add_blocks (by omega), units_of_le hm]

section

variable {scale exponent : Nat} (hscale : Nat.pow 2 exponent = scale)

include hscale

/-- The unit of magnitudes is not zero. -/
private theorem scale_pos : 0 < scale := by
  rw [← hscale]
  exact Nat.pow_pos Nat.two_pos

/-- Up to `2 ^ 53` times a power of two is not rounded. -/
private theorem units_nearestRank {m : Nat} (hm : m ≤ Nat.pow 2 53) :
    units (nearestRank (m * scale) 1) = m * scale ∧
      nearestRank (m * scale) 1 ≤ (exponent + 2) * Nat.pow 2 52 := by
  obtain ⟨rank, hrank, hunits⟩ := exists_units_eq exponent hm
  rw [hscale] at hunits
  have heq : nearestRank (m * scale) 1 = rank := by
    rw [← hunits]
    have hself := nearestRank_units rank Nat.one_pos
    rwa [Nat.mul_one] at hself
  rw [heq]
  exact ⟨hunits, hrank⟩

/-- An integer below `2 ^ 53` is told from all larger ones. -/
private theorem nearestRank_lt {m n : Nat} (hm : m < Nat.pow 2 53) (h : m < n) :
    nearestRank (m * scale) 1 < nearestRank (n * scale) 1 := by
  have hpos := scale_pos hscale
  -- the next integer is exact as well, so its rank is another one
  have hnext : nearestRank (m * scale) 1 ≠ nearestRank ((m + 1) * scale) 1 := by
    intro heq
    have hunits := (units_nearestRank hscale (Nat.le_of_lt hm)).1
    rw [heq, (units_nearestRank hscale (Nat.succ_le_of_lt hm)).1, Nat.succ_mul] at hunits
    omega
  have hle : nearestRank (m * scale) 1 ≤ nearestRank ((m + 1) * scale) 1 :=
    nearestRank_mono (Nat.mul_le_mul_right _ (Nat.le_succ m))
  have hle' : nearestRank ((m + 1) * scale) 1 ≤ nearestRank (n * scale) 1 :=
    nearestRank_mono (Nat.mul_le_mul_right _ (Nat.succ_le_of_lt h))
  omega

end

/-! ## Numbers of integers -/

/-- The rank of a natural number.  It is not to be computed in proofs. -/
@[irreducible] def wholeRank (n : Nat) : Nat := nearestRank (wholeUnits n) 1

/-- A natural number up to `2 ^ 53` is the magnitude of its rank. -/
private theorem units_wholeRank {n : Nat} (h : n ≤ Nat.pow 2 53) :
    units (wholeRank n) = wholeUnits n ∧ wholeRank n ≤ 1076 * Nat.pow 2 52 := by
  unfold wholeRank wholeUnits
  generalize hscale : Nat.pow 2 1074 = scale
  exact units_nearestRank hscale h

/-- A natural number below `2 ^ 53` has a lower rank than all larger ones. -/
private theorem wholeRank_lt {m n : Nat} (hm : m < Nat.pow 2 53) (h : m < n) :
    wholeRank m < wholeRank n := by
  unfold wholeRank wholeUnits
  generalize hscale : Nat.pow 2 1074 = scale
  exact nearestRank_lt hscale hm h

/-- A natural number up to `2 ^ 53` is finite. -/
private theorem wholeRank_lt_rankBound {n : Nat} (h : n ≤ Nat.pow 2 53) :
    wholeRank n < rankBound := by
  have hle := (units_wholeRank h).2
  have hpos : 0 < Nat.pow 2 52 := by decide
  unfold rankBound
  omega

/-- A natural number is finite if its rank is one of a finite number. -/
private theorem ofRatio_one (negative : Bool) (n : Nat) :
    ofRatio negative n 1 =
      if h : wholeRank n < rankBound then .finite negative ⟨wholeRank n, h⟩
      else .infinite negative := by
  unfold wholeRank wholeUnits
  rfl

/-- The rank of a natural number, or the one behind the finite ranks. -/
def cappedRank (n : Nat) : Nat := min (wholeRank n) rankBound

/-- The order stays where ranks beyond the finite ones are taken as one. -/
private theorem cappedRank_lt {m n : Nat} (hm : m < Nat.pow 2 53) (h : m < n) :
    cappedRank m < cappedRank n := by
  have hrank := wholeRank_lt hm h
  have hbound := wholeRank_lt_rankBound (Nat.le_of_lt hm)
  unfold cappedRank
  omega

/-- Numbers are compared by their places. -/
private theorem compare?_of_place? {x y : Number} {i j : Int} (hx : x.place? = some i)
    (hy : y.place? = some j) : x.compare? y = some (compare i j) := by
  unfold compare?
  rw [hx, hy]

/-- The place of an integer; what is beyond the finite numbers has the place behind them. -/
private theorem place?_ofInt (n : Int) :
    (ofInt n).place? =
      some (if n < 0 then -(cappedRank n.natAbs : Int) else cappedRank n.natAbs) := by
  unfold cappedRank
  rw [ofInt, ofRatio_one]
  by_cases hrank : wholeRank n.natAbs < rankBound
  · rw [dif_pos hrank, Nat.min_eq_left (Nat.le_of_lt hrank)]
    simp only [place?, decide_eq_true_eq]
  · rw [dif_neg hrank, Nat.min_eq_right (Nat.le_of_not_lt hrank)]
    simp only [place?, decide_eq_true_eq]

/-- A natural number below `2 ^ 53` compares with every integer as that integer does with it. -/
theorem compare?_ofInt {m : Nat} (hm : m < Nat.pow 2 53) (n : Int) :
    (ofInt n).compare? (ofInt m) = some (compare n m) := by
  have hnonneg : ¬ (m : Int) < 0 := by omega
  rw [compare?_of_place? (place?_ofInt n) (place?_ofInt m), if_neg hnonneg, Int.natAbs_natCast]
  congr 1
  by_cases hneg : n < 0
  · -- a negative integer has a place before zero
    have hpos := @cappedRank_lt 0 n.natAbs (by decide) (by omega)
    rw [if_pos hneg, Int.compare_eq_lt.mpr (show n < m by omega), Int.compare_eq_lt]
    omega
  · rw [if_neg hneg]
    rcases Nat.lt_trichotomy n.natAbs m with h | h | h
    · have hrank := cappedRank_lt (Nat.lt_trans h hm) h
      rw [Int.compare_eq_lt.mpr (show n < m by omega), Int.compare_eq_lt]
      omega
    · rw [h, Int.compare_eq_eq.mpr (show n = m by omega), Int.compare_eq_eq]
    · have hrank := cappedRank_lt hm h
      rw [Int.compare_eq_gt.mpr (show m < n by omega), Int.compare_eq_gt]
      omega

/-- The number of a natural number up to `2 ^ 53` is finite and has no other whole value. -/
theorem ofInt_natCast {m : Nat} (hm : m ≤ Nat.pow 2 53) :
    (ofInt m).isFinite = true ∧ (ofInt m).whole? = some (m : Int) := by
  have hnonneg : decide ((m : Int) < 0) = false := by simp
  -- the magnitude is a multiple of the unit, so nothing is left over
  have hunits := (units_wholeRank hm).1
  unfold ofInt
  rw [hnonneg, Int.natAbs_natCast, ofRatio_one, dif_pos (wholeRank_lt_rankBound hm)]
  refine ⟨rfl, ?_⟩
  unfold whole?
  dsimp only
  rw [hunits]
  unfold wholeUnits
  generalize hscale : Nat.pow 2 1074 = scale
  rw [if_pos (Nat.mul_mod_left _ _), Nat.mul_div_cancel _ (scale_pos hscale)]
  rfl

/-- A whole number that 64 bits can hold is written as an integer. -/
private theorem toJson_of_whole? {x : Number} {n : Int} (hwhole : x.whole? = some n)
    (hn : n.natAbs < Nat.pow 2 63) : x.toJson = .int n := by
  unfold toJson
  rw [hwhole]
  exact if_pos hn

/-- A natural number up to `2 ^ 53` is written as it is. -/
theorem toJson_ofInt {m : Nat} (hm : m ≤ Nat.pow 2 53) : (ofInt m).toJson = .int m := by
  have hpow : Nat.pow 2 53 < Nat.pow 2 63 := by decide
  exact toJson_of_whole? (ofInt_natCast hm).2 (by omega)

end Sift.Number

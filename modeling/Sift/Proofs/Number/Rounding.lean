import Sift.Number.Basic

/-!
# Rounding to a rank

The rank that a fraction is rounded to depends on the value of the fraction only
(`nearestRank_eq_of_ratio`), and a magnitude is rounded to its own rank (`nearestRank_units`), so
different ranks have different magnitudes.
-/

namespace Sift.Number

/-- A common factor of numerator and denominator changes nothing. -/
private theorem nearestRank_mul (num den : Nat) {factor : Nat} (h : 0 < factor) :
    nearestRank (num * factor) (den * factor) = nearestRank num den := by
  have hdiv : num * factor / (den * factor) = num / den := Nat.mul_div_mul_right _ _ h
  unfold nearestRank
  dsimp only
  rw [hdiv]
  generalize Nat.pow 2 ((num / den).log2 - 52) = power
  -- the step and what is left over both grow by the factor
  have hstep : den * factor * power = den * power * factor := Nat.mul_right_comm _ _ _
  have hlt : ∀ a b, a * factor < b * factor ↔ a < b := fun a b => Nat.mul_lt_mul_right h
  have heq : ∀ a b, a * factor = b * factor ↔ a = b := fun a b => Nat.mul_left_inj (Nat.ne_of_gt h)
  rw [hstep, Nat.mul_div_mul_right _ _ h, Nat.mul_mod_mul_right, ← Nat.mul_assoc 2]
  simp only [hlt, heq]

/-- Fractions of the same value are rounded to the same rank. -/
theorem nearestRank_eq_of_ratio {num den num' den' : Nat} (hden : 0 < den) (hden' : 0 < den')
    (h : num * den' = num' * den) : nearestRank num den = nearestRank num' den' := by
  -- both fractions are brought to the product of their denominators
  calc nearestRank num den
      = nearestRank (num * den') (den * den') := (nearestRank_mul num den hden').symm
    _ = nearestRank (num' * den) (den' * den) := by rw [h, Nat.mul_comm den den']
    _ = nearestRank num' den' := nearestRank_mul num' den' hden

/-- Where the step divides the numerator, no rounding takes place. -/
private theorem nearestRank_of_exact {num den : Nat} (shift count : Nat) (hden : 0 < den)
    (hshift : (num / den).log2 - 52 = shift) (hnum : num = count * (den * Nat.pow 2 shift)) :
    nearestRank num den = shift * Nat.pow 2 52 + count := by
  have hstep : 0 < den * Nat.pow 2 shift := Nat.mul_pos hden (Nat.pow_pos (by decide))
  unfold nearestRank
  rw [hshift]
  dsimp only
  rw [hnum, Nat.mul_div_cancel _ hstep, Nat.mul_mod_left, if_pos (.inl (by omega))]

/-- A magnitude is rounded to its own rank. -/
theorem nearestRank_units (rank : Nat) {den : Nat} (h : 0 < den) :
    nearestRank (units rank * den) den = rank := by
  have hquotient : units rank * den / den = units rank := Nat.mul_div_cancel _ h
  unfold units at *
  by_cases hsmall : rank < Nat.pow 2 52
  · -- the first magnitudes are their own ranks
    rw [if_pos hsmall] at *
    have hlog : rank.log2 ≤ 52 := by
      by_cases hzero : rank = 0
      · rw [hzero]
        decide
      · exact Nat.le_of_lt ((Nat.log2_lt hzero).mpr hsmall)
    rw [nearestRank_of_exact 0 rank h (by rw [hquotient]; omega)
      (by rw [Nat.pow_eq, Nat.pow_zero, Nat.mul_one])]
    omega
  · rw [if_neg hsmall] at *
    have hpos : 0 < Nat.pow 2 52 := by decide
    have hrank := Nat.div_add_mod rank (Nat.pow 2 52)
    have hrest := Nat.mod_lt rank hpos
    have hblock : 1 ≤ rank / Nat.pow 2 52 := (Nat.one_le_div_iff hpos).mpr (by omega)
    generalize rank % Nat.pow 2 52 = rest at *
    -- from there on the leading bit is worth the doubled spacing
    have hlog : ((Nat.pow 2 52 + rest) * Nat.pow 2 (rank / Nat.pow 2 52 - 1)).log2 =
        52 + (rank / Nat.pow 2 52 - 1) := by
      generalize rank / Nat.pow 2 52 - 1 = spacing
      have hne : (Nat.pow 2 52 + rest) * Nat.pow 2 spacing ≠ 0 :=
        Nat.ne_of_gt (Nat.mul_pos (by omega) (Nat.pow_pos (by decide)))
      rw [Nat.log2_eq_iff hne, Nat.add_right_comm, Nat.pow_add, Nat.pow_add]
      exact ⟨Nat.mul_le_mul_right _ (by simp), Nat.mul_lt_mul_of_pos_right
        (by simp only [Nat.pow_eq] at *; omega) (Nat.pow_pos (by decide))⟩
    rw [nearestRank_of_exact (rank / Nat.pow 2 52 - 1) (Nat.pow 2 52 + rest) h
      (by rw [hquotient, hlog]; omega) (by rw [Nat.mul_assoc, Nat.mul_comm den])]
    have hblocks : (rank / Nat.pow 2 52 - 1) * Nat.pow 2 52 + Nat.pow 2 52 =
        Nat.pow 2 52 * (rank / Nat.pow 2 52) := by
      rw [← Nat.succ_mul, Nat.mul_comm, show (rank / Nat.pow 2 52 - 1).succ = _ from
        Nat.sub_add_cancel hblock]
    omega

/-- Different ranks have different magnitudes. -/
theorem units_injective {rank rank' : Nat} (h : units rank = units rank') : rank = rank' := by
  rw [← nearestRank_units rank Nat.one_pos, h, nearestRank_units rank' Nat.one_pos]

end Sift.Number

import Sift.Filter.Printer
import Sift.Proofs.Number.Rounding

/-!
# Whole numbers

A number without a fraction has the magnitude and the sign of the integer that it equals
(`whole?_eq_some`).  A finite number is written as that integer or as itself, so what is written
tells finite numbers apart (`toJson_injective`), except for the two signs of zero.
-/

namespace Sift.Number

/-- Zero with a negative sign. -/
def negativeZero : Number := .finite true ⟨0, by decide⟩

/-- The magnitude of a natural number, in the units of magnitudes. -/
def wholeUnits (n : Nat) : Nat := n * Nat.pow 2 1074

/-- Zero has no magnitude. -/
private theorem wholeUnits_zero : wholeUnits 0 = 0 := by simp only [wholeUnits, Nat.zero_mul]

/-- A whole number has the magnitude and the sign of the integer it equals. -/
theorem whole?_eq_some {x : Number} {n : Int} (h : x.whole? = some n) :
    ∃ negative rank, x = .finite negative rank ∧ units rank = wholeUnits n.natAbs ∧
      (n < 0 → negative = true) ∧ (0 < n → negative = false) := by
  cases x with
  | finite negative rank =>
    refine ⟨negative, rank, rfl, ?_⟩
    unfold whole? at h
    unfold wholeUnits
    dsimp only at h
    generalize units rank = magnitude at *
    -- the scale is the same on both sides, so its size does not matter
    generalize Nat.pow 2 1074 = scale at *
    split at h
    · rename_i hmod
      have hmagnitude := Nat.div_mul_cancel (Nat.dvd_of_mod_eq_zero hmod)
      generalize magnitude / scale = quotient at *
      cases negative with
      | false =>
        have hn : n = (quotient : Int) := (Option.some.inj h).symm
        rw [hn, Int.natAbs_natCast, hmagnitude]
        exact ⟨rfl, fun hneg => by omega, fun _ => rfl⟩
      | true =>
        have hn : n = -(quotient : Int) := (Option.some.inj h).symm
        rw [hn, Int.natAbs_neg, Int.natAbs_natCast, hmagnitude]
        exact ⟨rfl, fun _ => rfl, fun hpos => by omega⟩
    · cases h
  | infinite negative => cases h
  | nan => cases h

/-- Whole numbers other than negative zero are told apart by the integers they equal. -/
private theorem eq_of_whole? {x y : Number} {n : Int} (hx : x.whole? = some n)
    (hy : y.whole? = some n) (hx' : x ≠ negativeZero) (hy' : y ≠ negativeZero) : x = y := by
  obtain ⟨negative, rank, rfl, hunits, hneg, hpos⟩ := whole?_eq_some hx
  obtain ⟨negative', rank', rfl, hunits', hneg', hpos'⟩ := whole?_eq_some hy
  have hrank : rank = rank' := Fin.ext (units_injective (by rw [hunits, hunits']))
  subst hrank
  rcases Int.lt_trichotomy n 0 with hn | hn | hn
  · rw [hneg hn, hneg' hn]
  · -- zero has two signs, one of which is left out
    subst hn
    have hzero : rank = ⟨0, by decide⟩ := by
      exact Fin.ext (units_injective (hunits.trans wholeUnits_zero))
    subst hzero
    have hsign : ∀ {sign : Bool}, finite sign ⟨0, by decide⟩ ≠ negativeZero → sign = false := by
      intro sign hne
      cases sign with
      | false => rfl
      | true => exact absurd rfl hne
    rw [hsign hx', hsign hy']
  · rw [hpos hn, hpos' hn]

/-- A finite number is written as the integer it equals or as itself. -/
theorem toJson_of_isFinite {x : Number} (h : x.isFinite = true) :
    (∃ n, x.whole? = some n ∧ x.toJson = .int n) ∨ x.toJson = .float x := by
  unfold toJson
  -- an integer that 64 bits cannot hold is written as the number itself
  cases hwhole : x.whole? with
  | none => exact .inr (if_pos h)
  | some n =>
    by_cases hn : n.natAbs < Nat.pow 2 63
    · exact .inl ⟨n, rfl, if_pos hn⟩
    · exact .inr (if_neg hn)

/-- What is written for finite numbers tells them apart, unless one of them is negative zero. -/
theorem toJson_injective {x y : Number} (hx : x.isFinite = true) (hy : y.isFinite = true)
    (hx' : x ≠ negativeZero) (hy' : y ≠ negativeZero) (h : x.toJson = y.toJson) : x = y := by
  rcases toJson_of_isFinite hx with ⟨m, hm, hxjson⟩ | hxjson <;>
    rcases toJson_of_isFinite hy with ⟨n, hn, hyjson⟩ | hyjson <;> rw [hxjson, hyjson] at h
  · cases h
    exact eq_of_whole? hm hn hx' hy'
  · cases h
  · cases h
  · exact Json.float.inj h

end Sift.Number

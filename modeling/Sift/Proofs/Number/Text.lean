import Sift.Number.Decimal
import Sift.Proofs.Number.Rounding
import Sift.Proofs.Text.Digits

/-!
# Texts of numbers

Different numbers have different texts (`Number.text_injective`).  The text of a finite magnitude is
a *literal*, whose value is rounded to the rank of the magnitude: the shortest digits were chosen to
read back as that rank.  A literal always has a point or an exponent, so no number has the text of
an integer.
-/

namespace Sift

open Char (isDigit)
open Text (decimalValue)

namespace Decimal

/-! ## The rank of a decimal -/

/-- The rank of the magnitude nearest to a decimal.  It is not to be computed in proofs. -/
@[irreducible] def rank (d : Decimal) : Nat := Number.nearestRank (d.num * Nat.pow 2 1074) d.den

/-- The denominator of a decimal is a power of ten. -/
theorem den_pos (d : Decimal) : 0 < d.den := Nat.pow_pos (by decide)

/-- No digits are no magnitude, in whatever unit a decimal is measured. -/
private theorem nearestRank_zero (exponent : Int) (scale : Nat) :
    Number.nearestRank (num ⟨0, exponent⟩ * scale) (den ⟨0, exponent⟩) = 0 := by
  have hunits : Number.units 0 = 0 := rfl
  have hzero := Number.nearestRank_units 0 (den_pos ⟨0, exponent⟩)
  rw [hunits, Nat.zero_mul] at hzero
  rw [num, Nat.zero_mul, Nat.zero_mul, hzero]

/-- A decimal without digits is zero. -/
private theorem rank_eq_zero {d : Decimal} (h : d.digits = 0) : d.rank = 0 := by
  obtain ⟨digits, exponent⟩ := d
  cases h
  unfold rank
  exact nearestRank_zero exponent _

/-- Zeros behind the digits may as well be counted by the exponent. -/
private theorem nearestRank_zeros (digits count scale : Nat) (exponent : Int) :
    Number.nearestRank (num ⟨digits * Nat.pow 10 count, exponent⟩ * scale)
        (den ⟨digits * Nat.pow 10 count, exponent⟩) =
      Number.nearestRank (num ⟨digits, exponent + count⟩ * scale)
        (den ⟨digits, exponent + count⟩) := by
  refine Number.nearestRank_eq_of_ratio (den_pos _) (den_pos _) ?_
  -- on both sides the powers of ten have the same sum of exponents
  have hsum : count + exponent.toNat + (-(exponent + count)).toNat =
      (exponent + count).toNat + (-exponent).toNat := by omega
  have hpower := congrArg (Nat.pow 10) hsum
  simp only [Nat.pow_eq, Nat.pow_add] at hpower
  simp only [num, den, Nat.pow_eq]
  calc digits * 10 ^ count * 10 ^ exponent.toNat * scale * 10 ^ (-(exponent + count)).toNat
      = digits * scale *
          (10 ^ count * 10 ^ exponent.toNat * 10 ^ (-(exponent + count)).toNat) := by
        simp only [Nat.mul_assoc, Nat.mul_comm, Nat.mul_left_comm]
    _ = digits * scale * (10 ^ (exponent + count).toNat * 10 ^ (-exponent).toNat) := by
        rw [hpower]
    _ = digits * 10 ^ (exponent + count).toNat * scale * 10 ^ (-exponent).toNat := by
        simp only [Nat.mul_assoc, Nat.mul_comm, Nat.mul_left_comm]

/-- Zeros behind the digits count as much as the exponent does. -/
private theorem rank_zeros (digits count : Nat) (exponent : Int) :
    rank ⟨digits * Nat.pow 10 count, exponent⟩ = rank ⟨digits, exponent + count⟩ := by
  unfold rank
  exact nearestRank_zeros digits count _ exponent

/-! ## The shortest decimal -/

/-- A decimal that is a magnitude to the last place is rounded to the rank of the magnitude. -/
private theorem nearestRank_written {r digits scale : Nat} {exponent : Int} (h : exponent ≤ 0)
    (hdigits : digits * scale = Number.units r * Nat.pow 10 (-exponent).toNat) :
    Number.nearestRank (num ⟨digits, exponent⟩ * scale) (den ⟨digits, exponent⟩) = r := by
  have hnone : exponent.toNat = 0 := by omega
  unfold num den
  rw [hnone]
  dsimp only
  rw [show Nat.pow 10 0 = 1 from rfl, Nat.mul_one, hdigits]
  exact Number.nearestRank_units r (Nat.pow_pos (by decide))

/-- A magnitude of binary places is written with as many decimal places. -/
private theorem nearestRank_places (r places : Nat) :
    Number.nearestRank (num ⟨Number.units r * Nat.pow 5 places, -places⟩ * Nat.pow 2 places)
      (den ⟨Number.units r * Nat.pow 5 places, -places⟩) = r := by
  -- a binary place takes one decimal place, with a power of five for its digits
  have hpower : Nat.pow 5 places * Nat.pow 2 places = Nat.pow 10 places := by
    simp only [Nat.pow_eq]
    rw [← Nat.mul_pow]
  refine nearestRank_written (by omega) ?_
  rw [Nat.mul_assoc, hpower, Int.neg_neg, Int.toNat_natCast]

/-- The decimal with all its places reads back as the rank. -/
private theorem rank_exact (r : Nat) : (exact r).rank = r := by
  unfold rank exact
  exact nearestRank_places r 1074

/-- A decimal that reads as a rank has this rank. -/
private theorem rank_of_readsAs {d : Decimal} {r : Nat} (h : d.readsAs r = true) : d.rank = r := by
  unfold rank
  exact beq_iff_eq.mp h

/-- Whichever neighbour on a grid is chosen, it reads back as the rank. -/
private theorem rank_of_onGrid? {d : Decimal} {r count : Nat} (h : onGrid? r count = some d) :
    d.rank = r := by
  unfold onGrid? at h
  extract_lets magnitude exponent num den below above rest at h
  split at h
  · rename_i hbelow
    rw [← Option.some.inj h]
    exact rank_of_readsAs hbelow.1
  · split at h
    · rename_i habove
      rw [← Option.some.inj h]
      exact rank_of_readsAs habove
    · cases h

/-- The shortest decimal for a rank reads back as the rank. -/
private theorem rank_shortest (r : Nat) : (shortest r).rank = r := by
  unfold shortest
  -- some grid has a neighbour that reads back, or all places are written
  cases hfound : (List.range' 1 17).findSome? (onGrid? r) with
  | none => exact rank_exact r
  | some d =>
    obtain ⟨count, -, hcount⟩ := List.exists_of_findSome?_eq_some hfound
    exact rank_of_onGrid? hcount

end Decimal

/-! ## Literals -/

/-- A literal of a number with a fraction, an exponent or both. -/
structure Literal where
  whole : List Char
  fraction : List Char
  power : Option Int
  whole_ne_nil : whole ≠ []
  isDigit_whole : ∀ c ∈ whole, isDigit c = true
  isDigit_fraction : ∀ c ∈ fraction, isDigit c = true
  marked : fraction ≠ [] ∨ power.isSome

namespace Literal

/-- The value of a literal. -/
def decimal (l : Literal) : Decimal :=
  ⟨decimalValue (l.whole ++ l.fraction), l.power.getD 0 - l.fraction.length⟩

/-- The part of a literal from its point on. -/
def fractionChars (fraction : List Char) : List Char :=
  if fraction = [] then [] else '.' :: fraction

/-- The part of a literal from its exponent on. -/
def powerChars : Option Int → List Char
  | none => []
  | some n => 'e' :: (if n < 0 then '-' else '+') :: Nat.toDigits 10 n.natAbs

/-- The text of a literal. -/
def chars (l : Literal) : List Char := l.whole ++ (fractionChars l.fraction ++ powerChars l.power)

/-- An exponent does not begin with a digit. -/
private theorem head_powerChars (power : Option Int) :
    (powerChars power).head?.all (!isDigit ·) = true := by
  cases power <;> rfl

/-- What follows the whole part does not begin with a digit. -/
private theorem head_fractionChars (fraction : List Char) (power : Option Int) :
    (fractionChars fraction ++ powerChars power).head?.all (!isDigit ·) = true := by
  unfold fractionChars
  split
  · exact head_powerChars power
  · rfl

/-- The text of an exponent determines it. -/
private theorem powerChars_injective {power power' : Option Int}
    (h : powerChars power = powerChars power') : power = power' := by
  -- with and without an exponent the texts differ in the first character
  cases power with
  | none =>
    cases power' with
    | none => rfl
    | some n => cases h
  | some n =>
    cases power' with
    | none => cases h
    | some n' =>
      simp only [powerChars, List.cons.injEq, true_and] at h
      obtain ⟨hsign, hdigits⟩ := h
      have habs := Text.toDigits_injective hdigits
      -- the sign tells which of the two numbers with this magnitude is meant
      have hneg : n < 0 ↔ n' < 0 := by
        split at hsign <;> split at hsign
        · rename_i hn hn'
          exact iff_of_true hn hn'
        · cases hsign
        · cases hsign
        · rename_i hn hn'
          exact iff_of_false hn hn'
      congr 1
      omega

/-- The text of a literal determines its parts, and so its value. -/
private theorem decimal_eq_of_chars {l l' : Literal} (h : l.chars = l'.chars) :
    l.decimal = l'.decimal := by
  obtain ⟨hwhole, hrest⟩ := Text.run_append_inj l.isDigit_whole l'.isDigit_whole
    (head_fractionChars _ _) (head_fractionChars _ _) h
  have hparts : l.fraction = l'.fraction ∧ powerChars l.power = powerChars l'.power := by
    -- what follows the whole part is a fraction if it begins with a point
    have hpoint : ∀ {power : Option Int} {fraction : List Char},
        powerChars power ≠ '.' :: fraction := by
      intro power fraction heq
      cases power <;> cases heq
    unfold fractionChars at hrest
    -- either both literals have a fraction or neither has one
    split at hrest <;> split at hrest
    · rename_i hnil hnil'
      exact ⟨by rw [hnil, hnil'], hrest⟩
    · exact absurd hrest hpoint
    · exact absurd hrest.symm hpoint
    · exact Text.run_append_inj l.isDigit_fraction l'.isDigit_fraction (head_powerChars _)
        (head_powerChars _) (List.cons.inj hrest).2
  rw [decimal, decimal, hwhole, hparts.1, powerChars_injective hparts.2]

/-- A literal consists of digits, a point, signs and the mark of an exponent. -/
private theorem mem_chars {l : Literal} {c : Char} (h : c ∈ l.chars) :
    isDigit c = true ∨ c ∈ ['.', 'e', '+', '-'] := by
  unfold chars fractionChars at h
  simp only [List.mem_append] at h
  -- a character of the whole part, of the fraction or of the exponent
  rcases h with h | h | h
  · exact .inl (l.isDigit_whole c h)
  · split at h
    · cases h
    · rcases List.mem_cons.mp h with rfl | h
      · exact .inr (by decide)
      · exact .inl (l.isDigit_fraction c h)
  · cases hpower : l.power with
    | none =>
      rw [hpower] at h
      cases h
    | some n =>
      rw [hpower] at h
      simp only [powerChars, List.mem_cons] at h
      rcases h with rfl | rfl | h
      · exact .inr (by decide)
      · split
        · exact .inr (by decide)
        · exact .inr (by decide)
      · exact .inl (Text.isDigit_of_mem_toDigits h)

/-- The first character of a literal is a digit. -/
private theorem head_chars (l : Literal) : ∃ c rest, l.chars = c :: rest ∧ isDigit c = true := by
  obtain ⟨c, tail, hwhole⟩ := List.exists_cons_of_ne_nil l.whole_ne_nil
  refine ⟨c, _, by rw [chars, hwhole, List.cons_append], ?_⟩
  exact l.isDigit_whole c (by simp [hwhole])

/-- A literal has a point or an exponent. -/
theorem exists_mark (l : Literal) : '.' ∈ l.chars ∨ 'e' ∈ l.chars := by
  unfold chars fractionChars
  rcases l.marked with hfraction | hpower
  · rw [if_neg hfraction]
    exact .inl (by simp)
  · obtain ⟨n, hn⟩ := Option.isSome_iff_exists.mp hpower
    rw [hn]
    exact .inr (by simp [powerChars])

end Literal

/-! ## The text of a decimal -/

namespace Decimal

/-- The digits of a decimal are the significant ones and zeros behind them. -/
private theorem exists_zeros (d : Decimal) :
    ∃ count, Nat.toDigits 10 d.digits = d.significant ++ List.replicate count '0' := by
  have hzeros : ∀ c ∈ (Nat.toDigits 10 d.digits).reverse.takeWhile (· == '0'), c = '0' := by
    intro c hc
    exact beq_iff_eq.mp (List.all_eq_true.mp List.all_takeWhile c hc)
  refine ⟨((Nat.toDigits 10 d.digits).reverse.takeWhile (· == '0')).length, ?_⟩
  rw [significant, ← List.reverse_replicate, ← List.eq_replicate_of_mem hzeros,
    ← List.reverse_append, List.takeWhile_append_dropWhile, List.reverse_reverse]

/-- The significant digits of a decimal are digits. -/
private theorem isDigit_of_mem_significant {d : Decimal} {c : Char} (h : c ∈ d.significant) :
    isDigit c = true := by
  obtain ⟨count, hzeros⟩ := d.exists_zeros
  exact Text.isDigit_of_mem_toDigits (hzeros ▸ List.mem_append_left _ h)

/-- A decimal other than zero has a significant digit. -/
private theorem significant_ne_nil {d : Decimal} (h : 0 < d.digits) : d.significant ≠ [] := by
  intro hnil
  obtain ⟨count, hzeros⟩ := d.exists_zeros
  have hvalue := congrArg decimalValue hzeros
  rw [hnil, List.nil_append, Text.decimalValue_toDigits, Text.decimalValue_zeros] at hvalue
  omega

/-- The rank of a decimal, from its significant digits and the place of its point. -/
private theorem rank_eq (d : Decimal) :
    d.rank = rank ⟨decimalValue d.significant,
      length d.digits + d.exponent - d.significant.length⟩ := by
  obtain ⟨count, hzeros⟩ := d.exists_zeros
  -- the zeros move from the digits to the exponent
  have hdigits : d.digits = decimalValue d.significant * Nat.pow 10 count := by
    rw [← Text.decimalValue_append_zeros, ← hzeros, Text.decimalValue_toDigits]
  have hlength : length d.digits = d.significant.length + count := by
    rw [length, hzeros, List.length_append, List.length_replicate]
  have hexponent : (length d.digits + d.exponent - d.significant.length : Int) =
      d.exponent + count := by omega
  rw [hexponent, ← rank_zeros, ← hdigits]

/-! ### Where the point stands -/

section

variable {ds : List Char} {point : Int}

/-- Zeros are digits. -/
private theorem isDigit_zeros (count : Nat) : ∀ c ∈ List.replicate count '0', isDigit c = true := by
  intro c hc
  rw [(List.mem_replicate.mp hc).2]
  rfl

/-- Digits behind digits are digits. -/
private theorem isDigit_append {front back : List Char} (hfront : ∀ c ∈ front, isDigit c = true)
    (hback : ∀ c ∈ back, isDigit c = true) : ∀ c ∈ front ++ back, isDigit c = true := by
  intro c hc
  rcases List.mem_append.mp hc with hc | hc
  · exact hfront c hc
  · exact hback c hc

/-- The point stands before the digits. -/
private theorem literal_before (hds : ∀ c ∈ ds, isDigit c = true) (hne : ds ≠ [])
    (hpoint : point ≤ 0) :
    ∃ l : Literal, l.chars = '0' :: '.' :: (List.replicate (-point).toNat '0' ++ ds) ∧
      l.decimal.rank = rank ⟨decimalValue ds, point - ds.length⟩ := by
  have hfraction : List.replicate (-point).toNat '0' ++ ds ≠ [] := by simp [hne]
  refine ⟨⟨['0'], List.replicate (-point).toNat '0' ++ ds, none, by simp, isDigit_zeros 1,
    isDigit_append (isDigit_zeros _) hds, .inl hfraction⟩, ?_, ?_⟩
  · simp [Literal.chars, Literal.fractionChars, hfraction, Literal.powerChars]
  -- zeros in front do not change the value of the digits
  · have hvalue : decimalValue (['0'] ++ (List.replicate (-point).toNat '0' ++ ds)) =
        decimalValue ds := by
      rw [show ['0'] = List.replicate 1 '0' from rfl, Text.decimalValue_zeros_append,
        Text.decimalValue_zeros_append]
    have hexponent : (0 - (List.replicate (-point).toNat '0' ++ ds).length : Int) =
        point - ds.length := by
      rw [List.length_append, List.length_replicate]
      omega
    simp only [Literal.decimal, hvalue, Option.getD_none, hexponent]

/-- The point stands behind the digits, with zeros between them. -/
private theorem literal_behind (hds : ∀ c ∈ ds, isDigit c = true) (hne : ds ≠ [])
    (hpoint : 0 < point) (hlength : ds.length ≤ point.toNat) :
    ∃ l : Literal, l.chars = ds ++ List.replicate (point.toNat - ds.length) '0' ++ ['.', '0'] ∧
      l.decimal.rank = rank ⟨decimalValue ds, point - ds.length⟩ := by
  refine ⟨⟨ds ++ List.replicate (point.toNat - ds.length) '0', ['0'], none, by simp [hne],
    isDigit_append hds (isDigit_zeros _), isDigit_zeros 1, .inl (by simp)⟩, ?_, ?_⟩
  · simp [Literal.chars, Literal.fractionChars, Literal.powerChars]
  · -- the zero of the fraction is one more zero behind the digits
    have hvalue : decimalValue (ds ++ List.replicate (point.toNat - ds.length) '0' ++ ['0']) =
        decimalValue ds * Nat.pow 10 (point.toNat - ds.length + 1) := by
      rw [List.append_assoc, ← List.replicate_succ', Text.decimalValue_append_zeros]
    have hexponent : (0 - (['0'].length : Nat) + (point.toNat - ds.length + 1 : Nat) : Int) =
        point - ds.length := by
      rw [List.length_singleton]
      omega
    simp only [Literal.decimal, hvalue, Option.getD_none]
    rw [rank_zeros, hexponent]

/-- The point stands between two digits. -/
private theorem literal_between (hds : ∀ c ∈ ds, isDigit c = true) (hpoint : 0 < point)
    (hlength : point.toNat < ds.length) :
    ∃ l : Literal, l.chars = ds.take point.toNat ++ '.' :: ds.drop point.toNat ∧
      l.decimal.rank = rank ⟨decimalValue ds, point - ds.length⟩ := by
  -- there are digits on both sides of the point
  have hfraction : ds.drop point.toNat ≠ [] := by
    intro hnil
    have hle := List.drop_eq_nil_iff.mp hnil
    omega
  have hwhole : ds.take point.toNat ≠ [] := by
    intro hnil
    have hlen := congrArg List.length hnil
    rw [List.length_take, List.length_nil] at hlen
    omega
  refine ⟨⟨ds.take point.toNat, ds.drop point.toNat, none, hwhole,
    fun c hc => hds c (List.mem_of_mem_take hc), fun c hc => hds c (List.mem_of_mem_drop hc),
    .inl hfraction⟩, ?_, ?_⟩
  · simp [Literal.chars, Literal.fractionChars, hfraction, Literal.powerChars]
  · have hexponent : (0 - (ds.drop point.toNat).length : Int) = point - ds.length := by
      rw [List.length_drop]
      omega
    simp only [Literal.decimal, List.take_append_drop, Option.getD_none, hexponent]

/-- The point stands behind the first digit, and the exponent says where it belongs. -/
private theorem literal_power {c : Char} (point : Int) (hds : ∀ d ∈ c :: ds, isDigit d = true) :
    ∃ l : Literal,
      l.chars = c :: (Literal.fractionChars ds ++ Literal.powerChars (some (point - 1))) ∧
      l.decimal.rank = rank ⟨decimalValue (c :: ds), point - (c :: ds).length⟩ := by
  refine ⟨⟨[c], ds, some (point - 1), by simp, ?_, ?_, .inr rfl⟩, rfl, ?_⟩
  · intro d hd
    exact hds d (List.mem_cons.mpr (.inl (List.mem_singleton.mp hd)))
  · exact fun d hd => hds d (List.mem_cons_of_mem c hd)
  · have hexponent : (point - 1 - ds.length : Int) = point - (c :: ds).length := by
      rw [List.length_cons]
      omega
    simp only [Literal.decimal, List.singleton_append, Option.getD_some, hexponent]

end

/-- The text of a decimal is a literal with the same rank. -/
private theorem exists_literal {d : Decimal} (h : 0 < d.digits) :
    ∃ l : Literal, l.chars = d.text ∧ l.decimal.rank = d.rank := by
  have hne := significant_ne_nil h
  have hds : ∀ c ∈ d.significant, isDigit c = true := fun c => isDigit_of_mem_significant
  rw [rank_eq]
  unfold text
  generalize (length d.digits + d.exponent : Int) = point
  generalize d.significant = ds at *
  dsimp only
  -- one case per place of the point: before the digits, behind them, among them, and with an
  -- exponent
  split
  · split
    · rename_i hpoint
      exact literal_before hds hne hpoint
    · rename_i hpoint
      split
      · rename_i hlength
        exact literal_behind hds hne (by omega) hlength
      · rename_i hlength
        exact literal_between hds (by omega) (by omega)
  · cases ds with
    | nil => exact absurd rfl hne
    | cons c ds =>
      obtain ⟨l, hl, hrank⟩ := literal_power point hds
      refine ⟨l, ?_, hrank⟩
      rw [hl]
      cases ds <;> rfl

end Decimal

/-! ## The text of a number -/

namespace Number

/-- The text of a finite number without its sign. -/
def magnitudeChars (rank : Nat) : List Char :=
  if rank = 0 then ['0', '.', '0'] else (Decimal.shortest rank).text

/-- The text of a finite magnitude is a literal with its rank. -/
private theorem exists_literal (rank : Nat) :
    ∃ l : Literal, l.chars = magnitudeChars rank ∧ l.decimal.rank = rank := by
  unfold magnitudeChars
  split
  · rename_i hzero
    have hdigit := Decimal.isDigit_zeros 1
    refine ⟨⟨['0'], ['0'], none, by simp, hdigit, hdigit, .inl (by simp)⟩, rfl, ?_⟩
    rw [hzero]
    exact Decimal.rank_eq_zero rfl
  · rename_i hrank
    have hdigits : 0 < (Decimal.shortest rank).digits := by
      -- without digits the decimal would read back as zero
      refine Nat.pos_of_ne_zero fun hzero => hrank ?_
      rw [← Decimal.rank_eq_zero hzero, Decimal.rank_shortest]
    obtain ⟨l, hchars, hl⟩ := Decimal.exists_literal hdigits
    exact ⟨l, hchars, by rw [hl, Decimal.rank_shortest]⟩

/-- The text of a finite magnitude determines its rank. -/
private theorem magnitudeChars_injective {rank rank' : Nat}
    (h : magnitudeChars rank = magnitudeChars rank') : rank = rank' := by
  obtain ⟨l, hl, hrank⟩ := exists_literal rank
  obtain ⟨l', hl', hrank'⟩ := exists_literal rank'
  have hdecimal : l.decimal = l'.decimal := Literal.decimal_eq_of_chars (by rw [hl, h, hl'])
  rw [← hrank, hdecimal, hrank']

/-- The text of a finite magnitude begins with a digit. -/
private theorem magnitudeChars_ne {c : Char} (rank : Nat) (rest : List Char)
    (hc : isDigit c = false) : magnitudeChars rank ≠ c :: rest := by
  intro h
  obtain ⟨l, hl, -⟩ := exists_literal rank
  obtain ⟨d, tail, hchars, hd⟩ := l.head_chars
  rw [← hl, hchars] at h
  rw [(List.cons.inj h).1, hc] at hd
  cases hd

/-- Whether the text of a number begins with a sign. -/
def isNegative : Number → Bool
  | .finite negative _ => negative
  | .infinite negative => negative
  | .nan => false

/-- The text of a number without its sign. -/
def unsignedText : Number → List Char
  | .finite _ rank => magnitudeChars rank
  | .infinite _ => ['i', 'n', 'f']
  | .nan => ['N', 'a', 'N']

/-- The text of a number, with its sign split off. -/
private theorem text_eq (x : Number) :
    x.text = if x.isNegative then '-' :: x.unsignedText else x.unsignedText := by
  cases x with
  | finite negative rank => rfl
  | infinite negative => rfl
  | nan => rfl

/-- What follows the sign does not begin with another one. -/
private theorem unsignedText_ne (x : Number) (rest : List Char) : x.unsignedText ≠ '-' :: rest := by
  cases x with
  | finite negative rank => exact magnitudeChars_ne rank rest rfl
  | infinite negative => exact fun h => by cases h
  | nan => exact fun h => by cases h

/-- The text of a number determines its sign and the rest of the text. -/
private theorem text_parts {x y : Number} (h : x.text = y.text) :
    x.isNegative = y.isNegative ∧ x.unsignedText = y.unsignedText := by
  rw [text_eq, text_eq] at h
  -- a sign on one side only would begin a magnitude on the other
  cases hx : x.isNegative <;> cases hy : y.isNegative <;> rw [hx, hy] at h
  · exact ⟨rfl, h⟩
  · exact absurd h (x.unsignedText_ne _)
  · exact absurd h.symm (y.unsignedText_ne _)
  · exact ⟨rfl, (List.cons.inj h).2⟩

/-- Different numbers have different texts. -/
theorem text_injective {x y : Number} (h : x.text = y.text) : x = y := by
  -- the signs can be told apart, and then the magnitudes
  obtain ⟨hsign, hrest⟩ := text_parts h
  cases x with
  | finite negative rank =>
    cases y with
    | finite negative' rank' =>
      have hrank := Fin.ext (magnitudeChars_injective hrest)
      rw [show negative = negative' from hsign, hrank]
    | infinite negative' => exact absurd hrest (magnitudeChars_ne rank _ rfl)
    | nan => exact absurd hrest (magnitudeChars_ne rank _ rfl)
  | infinite negative =>
    cases y with
    | finite negative' rank' => exact absurd hrest.symm (magnitudeChars_ne rank' _ rfl)
    | infinite negative' => rw [show negative = negative' from hsign]
    | nan => cases hrest
  | nan =>
    cases y with
    | finite negative' rank' => exact absurd hrest.symm (magnitudeChars_ne rank' _ rfl)
    | infinite negative' => cases hrest
    | nan => rfl

/-! ### The characters of a text -/

/-- The characters in texts of numbers that are no digits. -/
def marks : List Char := ['.', 'e', '+', '-', 'i', 'n', 'f', 'N', 'a']

/-- The text of a number consists of digits and marks. -/
theorem mem_text {x : Number} {c : Char} (h : c ∈ x.text) : isDigit c = true ∨ c ∈ marks := by
  -- a sign, or one of the magnitude
  have hrest : c = '-' ∨ c ∈ x.unsignedText := by
    rw [text_eq] at h
    split at h
    · exact List.mem_cons.mp h
    · exact .inr h
  rcases hrest with rfl | hrest
  · exact .inr (by simp [marks])
  · cases x with
    | finite negative rank =>
      obtain ⟨l, hl, -⟩ := exists_literal rank
      rw [unsignedText, ← hl] at hrest
      have hsubset : ['.', 'e', '+', '-'] ⊆ marks := by simp [marks]
      exact (Literal.mem_chars hrest).imp_right fun hmark => hsubset hmark
    | infinite negative =>
      have hsubset : ['i', 'n', 'f'] ⊆ marks := by simp [marks]
      exact .inr (hsubset hrest)
    | nan =>
      have hsubset : ['N', 'a', 'N'] ⊆ marks := by simp [marks]
      exact .inr (hsubset hrest)

/-- No number has the text of an integer. -/
theorem exists_mark (x : Number) : ∃ c ∈ x.text, isDigit c = false ∧ c ≠ '-' := by
  -- a point or an exponent, or a letter where the number is not finite
  have hmark : ∃ c ∈ x.unsignedText, isDigit c = false ∧ c ≠ '-' := by
    cases x with
    | finite negative rank =>
      obtain ⟨l, hl, -⟩ := exists_literal rank
      rw [unsignedText, ← hl]
      rcases l.exists_mark with hmem | hmem
      · exact ⟨'.', hmem, rfl, by decide⟩
      · exact ⟨'e', hmem, rfl, by decide⟩
    | infinite negative => exact ⟨'i', by simp [unsignedText], rfl, by decide⟩
    | nan => exact ⟨'N', by simp [unsignedText], rfl, by decide⟩
  obtain ⟨c, hc, hne⟩ := hmark
  refine ⟨c, ?_, hne⟩
  rw [text_eq]
  split
  · exact List.mem_cons_of_mem _ hc
  · exact hc

end Number

end Sift

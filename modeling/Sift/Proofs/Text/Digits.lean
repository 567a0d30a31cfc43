import Sift.Text.Digits
import Sift.Unicode.Property

/-!
# Values of digit strings

Writing a number in decimal digits and reading the digits gives the number back
(`decimalValue_toDigits`), zeros before the digits change nothing, and zeros behind them multiply by
powers of ten.  The same for single digits of hexadecimal numerals (`hexDigitValue?_digitChar`),
whose case does not matter to the value (`hexDigitValue?_eq_some_iff`).
A run of digits ends where something else begins, so it can be told from what follows it
(`run_append_inj`).  Strings of the same number of digits are ordered as their values are
(`digits_lt_iff`).
-/

namespace Sift.Text

/-- A character of ASCII that is seen is no white space. -/
theorem isWhiteSpace_of_visible {c : Char} (h : 33 ≤ c.toNat) (h' : c.toNat ≤ 126) :
    Unicode.isWhiteSpace c = false := by
  simp only [Unicode.isWhiteSpace, Unicode.whiteSpace, Unicode.CodeSet.contains,
    Unicode.CodeSet.within, Bool.and_eq_false_iff, Bool.or_eq_false_iff, decide_eq_false_iff_not]
  omega

/-! ## Runs of characters -/

section

variable {p : Char → Bool} {run run' rest rest' : List Char}

/-- Taking all characters of one kind takes the run of them. -/
theorem takeWhile_run_append (h : ∀ c ∈ run, p c = true)
    (hrest : rest.head?.all (!p ·) = true) : (run ++ rest).takeWhile p = run := by
  rw [List.takeWhile_append_of_pos h]
  cases rest with
  | nil => simp
  | cons c rest => simp_all

/-- A run of characters of one kind ends where another kind begins. -/
theorem run_append_inj (h : ∀ c ∈ run, p c = true) (h' : ∀ c ∈ run', p c = true)
    (hrest : rest.head?.all (!p ·) = true) (hrest' : rest'.head?.all (!p ·) = true)
    (heq : run ++ rest = run' ++ rest') : run = run' ∧ rest = rest' := by
  have hrun : run = run' := by
    rw [← takeWhile_run_append h hrest, heq, takeWhile_run_append h' hrest']
  rw [hrun] at heq
  exact ⟨hrun, List.append_cancel_left heq⟩

end

/-! ## Digits -/

/-- The codes of the first and the last digits of each kind. -/
theorem digit_codes : '0'.toNat = 48 ∧ '9'.toNat = 57 ∧ 'a'.toNat = 97 ∧ 'f'.toNat = 102 ∧
    'A'.toNat = 65 ∧ 'F'.toNat = 70 :=
  ⟨rfl, rfl, rfl, rfl, rfl, rfl⟩

/-- A number is written in digits. -/
theorem isDigit_of_mem_toDigits {n : Nat} {c : Char} (h : c ∈ Nat.toDigits 10 n) :
    c.isDigit = true :=
  Nat.isDigit_of_mem_toDigits (by decide) (by decide) h

/-- The hexadecimal digit of a value has this value. -/
theorem hexDigitValue?_digitChar {n : Nat} (h : n < 16) :
    hexDigitValue? (Nat.digitChar n) = some n := by
  have hall : ∀ n < 16, hexDigitValue? (Nat.digitChar n) = some n := by decide
  exact hall n h

/-- The codes of hexadecimal digits, with their values. -/
private theorem hexDigitValue?_eq_some_iff_code {c : Char} {value : Nat} :
    hexDigitValue? c = some value ↔
      48 ≤ c.toNat ∧ c.toNat ≤ 57 ∧ value + 48 = c.toNat ∨
      97 ≤ c.toNat ∧ c.toNat ≤ 102 ∧ value + 87 = c.toNat ∨
      65 ≤ c.toNat ∧ c.toNat ≤ 70 ∧ value + 55 = c.toNat := by
  simp only [hexDigitValue?, Char.isDigit_iff_toNat, digitValue, digit_codes]
  grind

/-- A hexadecimal digit of ASCII, in either case. -/
def IsHexDigit (c : Char) : Prop :=
  c.isDigit = true ∨ 'a'.toNat ≤ c.toNat ∧ c.toNat ≤ 'f'.toNat ∨
    'A'.toNat ≤ c.toNat ∧ c.toNat ≤ 'F'.toNat

instance (c : Char) : Decidable (IsHexDigit c) := inferInstanceAs (Decidable (_ ∨ _))

/-- The characters with a value are the hexadecimal digits. -/
theorem exists_hexDigitValue?_iff {c : Char} :
    (∃ value, hexDigitValue? c = some value) ↔ IsHexDigit c := by
  simp only [hexDigitValue?_eq_some_iff_code, IsHexDigit, Char.isDigit_iff_toNat, digit_codes]
  constructor
  · rintro ⟨value, h⟩
    omega
  · rintro (h | h | h)
    · exact ⟨c.toNat - 48, by omega⟩
    · exact ⟨c.toNat - 87, by omega⟩
    · exact ⟨c.toNat - 55, by omega⟩

/-- Letters in upper case stand 32 codes before those in lower case. -/
private theorem toNat_toLower_cases (c : Char) :
    65 ≤ c.toNat ∧ c.toNat ≤ 90 ∧ c.toLower.toNat = c.toNat + 32 ∨
      (c.toNat < 65 ∨ 90 < c.toNat) ∧ c.toLower.toNat = c.toNat := by
  have hupper : c.val ≥ 'A'.val ∧ c.val ≤ 'Z'.val ↔ 65 ≤ c.toNat ∧ c.toNat ≤ 90 :=
    and_congr UInt32.le_iff_toNat_le UInt32.le_iff_toNat_le
  unfold Char.toLower
  by_cases h : c.val ≥ 'A'.val ∧ c.val ≤ 'Z'.val
  · obtain ⟨hlow, hhigh⟩ := hupper.mp h
    -- the sum does not leave the range of codes
    have hsum : (c.val + 32).toNat = (c.toNat + 32) % 2 ^ 32 := UInt32.toNat_add c.val 32
    rw [dif_pos h]
    exact .inl ⟨hlow, hhigh, hsum.trans (Nat.mod_eq_of_lt (by omega))⟩
  · rw [dif_neg h]
    rw [hupper] at h
    exact .inr ⟨by omega, rfl⟩

/-- A hexadecimal digit is, in lower case, the one that its value is written with. -/
theorem hexDigitValue?_eq_some_iff {c : Char} {value : Nat} :
    hexDigitValue? c = some value ↔ value < 16 ∧ Nat.digitChar value = c.toLower := by
  have hwritten : ∀ value < 16, value < 10 ∧ (Nat.digitChar value).toNat = 48 + value ∨
      10 ≤ value ∧ (Nat.digitChar value).toNat = 87 + value := by decide
  have hlower := toNat_toLower_cases c
  rw [hexDigitValue?_eq_some_iff_code, ← Char.toNat_inj]
  constructor
  · intro h
    have hvalue : value < 16 := by omega
    have hdigit := hwritten value hvalue
    refine ⟨hvalue, ?_⟩
    -- decimal digits have no case, and letters of either case have the same one below
    rcases h with h | h | h <;> omega
  · rintro ⟨hvalue, h⟩
    -- codes of a written digit and of a character in lower case agree for one kind of digit only
    rcases hwritten value hvalue with hdigit | hdigit <;> rcases hlower with hupper | hsame <;>
      omega

/-! ## Decimal values -/

/-- The digits of a number have its value. -/
@[simp] theorem decimalValue_toDigits (n : Nat) : decimalValue (Nat.toDigits 10 n) = n :=
  Nat.ofDigitChars_ten_toDigits

/-- Digits in front count for as many places as there are digits behind them. -/
theorem decimalValue_append (front back : List Char) :
    decimalValue (front ++ back) =
      decimalValue front * Nat.pow 10 back.length + decimalValue back := by
  unfold decimalValue
  rw [Nat.ofDigitChars_append, Nat.ofDigitChars_eq_ofDigitChars_zero, Nat.mul_comm, Nat.pow_eq]

/-- Zeros have no value. -/
@[simp] theorem decimalValue_zeros (count : Nat) :
    decimalValue (List.replicate count '0') = 0 := by
  rw [decimalValue, Nat.ofDigitChars_replicate_zero, Nat.mul_zero]

/-- Zeros in front of digits change nothing. -/
theorem decimalValue_zeros_append (count : Nat) (digits : List Char) :
    decimalValue (List.replicate count '0' ++ digits) = decimalValue digits := by
  rw [decimalValue_append, decimalValue_zeros, Nat.zero_mul, Nat.zero_add]

/-- Each zero behind digits multiplies by ten. -/
theorem decimalValue_append_zeros (digits : List Char) (count : Nat) :
    decimalValue (digits ++ List.replicate count '0') = decimalValue digits * Nat.pow 10 count := by
  rw [decimalValue_append, decimalValue_zeros, List.length_replicate, Nat.add_zero]

/-- The first digit counts for as many places as there are digits behind it. -/
private theorem decimalValue_cons (c : Char) (digits : List Char) :
    decimalValue (c :: digits) = digitValue c * Nat.pow 10 digits.length + decimalValue digits := by
  have hsplit := decimalValue_append [c] digits
  rwa [show decimalValue [c] = digitValue c from Nat.zero_add _] at hsplit

/-- A digit follows the digit for zero by its value. -/
private theorem toNat_eq_of_isDigit {c : Char} (h : c.isDigit = true) :
    c.toNat = 48 + digitValue c ∧ digitValue c ≤ 9 := by
  rw [Char.isDigit_iff_toNat] at h
  simp only [digitValue, digit_codes] at *
  omega

/-- Some digits stand for less than one followed by as many zeros. -/
theorem decimalValue_lt {digits : List Char} (h : ∀ c ∈ digits, c.isDigit = true) :
    decimalValue digits < Nat.pow 10 digits.length := by
  induction digits with
  | nil => decide
  | cons c digits ih =>
    have hrest := ih fun c' hc' => h c' (List.mem_cons_of_mem _ hc')
    have hdigit := (toNat_eq_of_isDigit (h c List.mem_cons_self)).2
    have hmul := Nat.mul_le_mul_right (Nat.pow 10 digits.length) hdigit
    rw [decimalValue_cons, List.length_cons, show Nat.pow 10 (digits.length + 1) =
      Nat.pow 10 digits.length * 10 from rfl]
    omega

/-- The place of greater weight decides which number is smaller, unless it is the same. -/
private theorem place_lt_iff {a b m n scale : Nat} (hm : m < scale) (hn : n < scale) :
    a * scale + m < b * scale + n ↔ a < b ∨ a = b ∧ m < n := by
  rcases Nat.lt_trichotomy a b with h | h | h
  · have hle := Nat.mul_le_mul_right scale (Nat.succ_le_of_lt h)
    rw [Nat.succ_mul] at hle
    omega
  · subst h
    omega
  · have hle := Nat.mul_le_mul_right scale (Nat.succ_le_of_lt h)
    rw [Nat.succ_mul] at hle
    omega

section

variable {digits digits' : List Char} (hlength : digits.length = digits'.length)
  (h : ∀ c ∈ digits, c.isDigit = true) (h' : ∀ c ∈ digits', c.isDigit = true)

include hlength h h'

/-- Digit strings of one length are ordered as the numbers they stand for. -/
theorem digits_lt_iff : digits < digits' ↔ decimalValue digits < decimalValue digits' := by
  -- on the digits: the first ones decide, and the rest does where they are the same
  induction digits generalizing digits' with
  | nil =>
    have hnil : digits' = [] := List.length_eq_zero_iff.mp hlength.symm
    subst hnil
    simp
  | cons c digits ih =>
    obtain ⟨c', rest, rfl⟩ := List.exists_cons_of_length_eq_add_one hlength.symm
    have hrest : digits.length = rest.length := by simpa using hlength
    have htail := fun c hc => h c (List.mem_cons_of_mem _ hc)
    have htail' := fun c hc => h' c (List.mem_cons_of_mem _ hc)
    have hc := toNat_eq_of_isDigit (h c List.mem_cons_self)
    have hc' := toNat_eq_of_isDigit (h' c' List.mem_cons_self)
    have hlt := decimalValue_lt htail
    have hlt' := decimalValue_lt htail'
    rw [← hrest] at hlt'
    -- characters are ordered by their codes, and so are digits by their values
    have hfirst : c < c' ↔ digitValue c < digitValue c' := by
      rw [show c < c' ↔ c.toNat < c'.toNat from UInt32.lt_iff_toNat_lt]
      omega
    have hsame : c = c' ↔ digitValue c = digitValue c' := by
      rw [← Char.toNat_inj]
      omega
    rw [List.cons_lt_cons_iff, ih hrest htail htail', decimalValue_cons, decimalValue_cons,
      ← hrest, place_lt_iff hlt hlt', hfirst, hsame]

/-- Digit strings of one length that stand for the same number are the same. -/
theorem eq_of_decimalValue (hvalue : decimalValue digits = decimalValue digits') :
    digits = digits' := by
  have hnot : ¬ digits < digits' := by
    rw [digits_lt_iff hlength h h']
    omega
  have hnot' : ¬ digits' < digits := by
    rw [digits_lt_iff hlength.symm h' h]
    omega
  exact List.le_antisymm hnot' hnot

end

/-- Different numbers have different digits. -/
theorem toDigits_injective {m n : Nat} (h : Nat.toDigits 10 m = Nat.toDigits 10 n) : m = n := by
  rw [← decimalValue_toDigits m, h, decimalValue_toDigits]

end Sift.Text

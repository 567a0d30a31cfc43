import Sift.Filter.DocumentId
import Sift.Proofs.Text.Digits

/-!
# Reading written identifiers

A text is read as the identifier whose digits it has, in either case (`ofHex?_eq_some_iff`).  So the
digits of an identifier are read back as the identifier (`ofHex?_hex`), and different identifiers
have different digits.  Nothing but 24 hexadecimal digits is read (`exists_ofHex?_iff`).
-/

namespace Sift.DocumentId

open Text (IsHexDigit exists_hexDigitValue?_iff hexDigitValue?_eq_some_iff)

/-! ## Bytes -/

/-- The digits of a byte are in lower case. -/
private theorem map_toLower_byteChars (byte : UInt8) :
    (byteChars byte).map Char.toLower = byteChars byte := by
  have hdigit : ∀ n < 16, (Nat.digitChar n).toLower = Nat.digitChar n := by decide
  have hlt : byte.toNat < 256 := byte.toNat_lt
  have hhigh := hdigit (byte.toNat / 16) (by omega)
  have hlow := hdigit (byte.toNat % 16) (by omega)
  simp only [byteChars, List.map_cons, List.map_nil, hhigh, hlow]

/-- Two characters write a byte exactly if, put in lower case, they are its digits. -/
private theorem exists_digits_iff {high low : Char} {byte : UInt8} :
    (∃ h l, Text.hexDigitValue? high = some h ∧ Text.hexDigitValue? low = some l ∧
        UInt8.ofNat (16 * h + l) = byte) ↔
      [high.toLower, low.toLower] = byteChars byte := by
  have hlt : byte.toNat < 256 := byte.toNat_lt
  simp only [hexDigitValue?_eq_some_iff, byteChars, List.cons.injEq, and_true]
  constructor
  · rintro ⟨h, l, ⟨hh, hhigh⟩, ⟨hl, hlow⟩, hbyte⟩
    -- the two digits are the quotient and the remainder by 16
    have hsum : 16 * h + l < UInt8.size := by
      simp only [UInt8.size]
      omega
    have htoNat : byte.toNat = 16 * h + l := by
      rw [← hbyte, UInt8.toNat_ofNat_of_lt' hsum]
    have hdiv : byte.toNat / 16 = h := by omega
    have hmod : byte.toNat % 16 = l := by omega
    rw [hdiv, hmod]
    exact ⟨hhigh.symm, hlow.symm⟩
  · rintro ⟨hhigh, hlow⟩
    refine ⟨byte.toNat / 16, byte.toNat % 16, ⟨by omega, hhigh.symm⟩, ⟨by omega, hlow.symm⟩, ?_⟩
    rw [Nat.div_add_mod, UInt8.ofNat_toNat]

/-- The first byte is read from the first two digits, and the others from the rest. -/
private theorem readBytes?_cons_eq_some_iff {high low : Char} {rest : List Char} {byte : UInt8}
    {bytes : List UInt8} :
    readBytes? (high :: low :: rest) = some (byte :: bytes) ↔
      [high.toLower, low.toLower] = byteChars byte ∧ readBytes? rest = some bytes := by
  rw [← exists_digits_iff]
  simp only [readBytes?, Option.bind_eq_bind, Option.bind_eq_some_iff, Option.some.injEq,
    List.cons.injEq]
  constructor
  · rintro ⟨h, hhigh, l, hlow, tail, htail, hbyte, rfl⟩
    exact ⟨⟨h, l, hhigh, hlow, hbyte⟩, htail⟩
  · rintro ⟨⟨h, l, hhigh, hlow, hbyte⟩, htail⟩
    exact ⟨h, hhigh, l, hlow, bytes, htail, hbyte, rfl⟩

/-- Bytes are read exactly from the digits that write them, in either case. -/
private theorem readBytes?_eq_some_iff {cs : List Char} {bytes : List UInt8} :
    readBytes? cs = some bytes ↔ cs.map Char.toLower = bytes.flatMap byteChars := by
  -- on the digits, two at a time
  induction cs using readBytes?.induct generalizing bytes with
  | case1 => cases bytes <;> simp [readBytes?, byteChars]
  | case2 c => cases bytes <;> simp [readBytes?, byteChars]
  | case3 high low rest ih =>
    cases bytes with
    | nil => simp [readBytes?, Option.bind_eq_some_iff]
    | cons byte bytes =>
      rw [readBytes?_cons_eq_some_iff, ih, List.flatMap_cons]
      simp [byteChars, and_assoc]

/-- Bytes are read exactly from two hexadecimal digits for each. -/
private theorem exists_readBytes?_iff {cs : List Char} {count : Nat} :
    (∃ bytes, readBytes? cs = some bytes ∧ bytes.length = count) ↔
      cs.length = 2 * count ∧ ∀ c ∈ cs, IsHexDigit c := by
  induction cs using readBytes?.induct generalizing count with
  | case1 =>
    simp only [readBytes?, Option.some.injEq, exists_eq_left', List.length_nil, List.not_mem_nil,
      false_implies, implies_true, and_true]
    omega
  | case2 c =>
    have hodd : 1 ≠ 2 * count := by omega
    simp [readBytes?, hodd]
  | case3 high low rest ih =>
    simp only [readBytes?, Option.bind_eq_bind, Option.bind_eq_some_iff, List.forall_mem_cons]
    constructor
    · rintro ⟨bytes, ⟨h, hhigh, l, hlow, tail, htail, hbytes⟩, hcount⟩
      obtain rfl := Option.some.inj hbytes
      obtain ⟨hlength, hdigits⟩ := ih.mp ⟨tail, htail, rfl⟩
      simp only [List.length_cons] at hcount ⊢
      exact ⟨by omega, exists_hexDigitValue?_iff.mp ⟨h, hhigh⟩,
        exists_hexDigitValue?_iff.mp ⟨l, hlow⟩, hdigits⟩
    · rintro ⟨hlength, hhigh, hlow, hdigits⟩
      simp only [List.length_cons] at hlength
      obtain ⟨h, hhigh⟩ := exists_hexDigitValue?_iff.mpr hhigh
      obtain ⟨l, hlow⟩ := exists_hexDigitValue?_iff.mpr hlow
      -- the rest has one byte less
      obtain ⟨tail, htail, hcount⟩ := (@ih (count - 1)).mpr ⟨by omega, hdigits⟩
      refine ⟨_, ⟨h, hhigh, l, hlow, tail, htail, rfl⟩, ?_⟩
      simp only [List.length_cons]
      omega

/-! ## Identifiers -/

/-- An identifier is read exactly if its bytes are. -/
private theorem ofHex?_eq_some_iff_bytes {text : String} {id : DocumentId} :
    ofHex? text = some id ↔ readBytes? text.toList = some id.bytes := by
  simp only [ofHex?, Option.bind_eq_bind, Option.bind_eq_some_iff]
  constructor
  · rintro ⟨bytes, hread, hid⟩
    split at hid
    · rw [← Option.some.inj hid]
      exact hread
    · cases hid
  · intro hread
    exact ⟨id.bytes, hread, dif_pos id.length_eq⟩

/-- Lower case is taken character by character. -/
theorem toList_toLower (text : String) : text.toLower.toList = text.toList.map Char.toLower :=
  String.toList_map

/-- A text is read as the identifier whose digits it has, in either case. -/
theorem ofHex?_eq_some_iff {text : String} {id : DocumentId} :
    ofHex? text = some id ↔ text.toLower = id.hex := by
  rw [ofHex?_eq_some_iff_bytes, readBytes?_eq_some_iff, ← String.toList_inj, toList_toLower, hex,
    String.toList_ofList]

/-- The digits of an identifier are read back as the identifier. -/
theorem ofHex?_hex (id : DocumentId) : ofHex? id.hex = some id := by
  rw [ofHex?_eq_some_iff_bytes, readBytes?_eq_some_iff, hex, String.toList_ofList,
    List.map_flatMap]
  simp only [map_toLower_byteChars]

/-- Different identifiers have different digits. -/
theorem hex_injective {id id' : DocumentId} (h : id.hex = id'.hex) : id = id' := by
  have hread := congrArg ofHex? h
  rw [ofHex?_hex, ofHex?_hex] at hread
  exact Option.some.inj hread

/-- A text that writes an identifier: 24 hexadecimal digits. -/
def IsHex (text : String) : Prop :=
  text.toList.length = 24 ∧ ∀ c ∈ text.toList, IsHexDigit c

instance (text : String) : Decidable (IsHex text) := inferInstanceAs (Decidable (_ ∧ _))

/-- Nothing but 24 hexadecimal digits is read as an identifier. -/
theorem exists_ofHex?_iff {text : String} : (∃ id, ofHex? text = some id) ↔ IsHex text := by
  refine Iff.trans ?_ (@exists_readBytes?_iff text.toList 12)
  simp only [ofHex?_eq_some_iff_bytes]
  constructor
  · rintro ⟨id, hbytes⟩
    exact ⟨id.bytes, hbytes, id.length_eq⟩
  · rintro ⟨bytes, hbytes, hlength⟩
    exact ⟨⟨bytes, hlength⟩, hbytes⟩

end Sift.DocumentId

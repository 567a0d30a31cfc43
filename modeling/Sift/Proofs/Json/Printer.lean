import Sift.Json.Printer
import Sift.Proofs.Number.Text

/-!
# Compact texts are unambiguous

Different documents have different compact texts (`compact_injective`).  The proof reads a text from
the left: where the text of a value is followed by something that ends a value, both the value and
what follows are determined (`chars_append_inj`).  The first character tells strings, arrays,
objects and words apart; words, that is `null`, truth values and numbers, end at the first character
that no word has.
-/

namespace Sift.Json

open Char (isDigit)
open Text (hexDigitValue?)

/-! ## Strings -/

/-- The character that is written behind a backslash, and what follows it. -/
def escaped? : List Char → Option (Char × List Char)
  | 'u' :: '0' :: '0' :: high :: low :: rest => do
    let h ← hexDigitValue? high
    let l ← hexDigitValue? low
    some (Char.ofNat (16 * h + l), rest)
  | '"' :: rest => some ('"', rest)
  | '\\' :: rest => some ('\\', rest)
  | 'b' :: rest => some ('\x08', rest)
  | 't' :: rest => some ('\t', rest)
  | 'n' :: rest => some ('\n', rest)
  | 'f' :: rest => some ('\x0c', rest)
  | 'r' :: rest => some ('\r', rest)
  | _ => none

/-- The first character that is written in the body of a string, and what follows it. -/
def unescape? : List Char → Option (Char × List Char)
  | [] => none
  | c :: rest => if c = '\\' then escaped? rest else some (c, rest)

/-- Every character can be read back from the way it stands in a string. -/
private theorem unescape?_stringChar (c : Char) (rest : List Char) :
    unescape? (stringChar c ++ rest) = some (c, rest) := by
  unfold stringChar
  -- one case for each character that has a short form
  split
  · rfl
  · rfl
  · rfl
  · rfl
  · rfl
  · rfl
  · rfl
  · rename_i hbackslash _ _ _ _ _
    split
    · -- the two hexadecimal digits of a control character
      rename_i hcontrol
      have hhigh : c.toNat / 16 < 16 := by omega
      have hlow : c.toNat % 16 < 16 := by omega
      have hcode : 16 * (c.toNat / 16) + c.toNat % 16 = c.toNat := Nat.div_add_mod _ _
      simp [unescape?, escaped?, Text.hexDigitValue?_digitChar hhigh,
        Text.hexDigitValue?_digitChar hlow, hcode, Char.ofNat_toNat]
    · exact if_neg hbackslash

/-- No character is written with a quote at its head, so a quote ends the body. -/
private theorem stringChar_ne_quote (c : Char) (rest rest' : List Char) :
    stringChar c ++ rest ≠ '"' :: rest' := by
  intro h
  have hread := unescape?_stringChar c rest
  rw [h] at hread
  -- only a quote itself would be read from there, and that one is written with a backslash
  obtain ⟨rfl, -⟩ := Prod.mk.inj (Option.some.inj hread)
  cases h

/-- Characters and the end of a body are read back one after the other. -/
private theorem flatMap_stringChar_inj {cs ds r s : List Char}
    (h : cs.flatMap stringChar ++ '"' :: r = ds.flatMap stringChar ++ '"' :: s) :
    cs = ds ∧ r = s := by
  -- on the characters of the first body; a quote ends both bodies at the same place
  induction cs generalizing ds with
  | nil =>
    cases ds with
    | nil => exact ⟨rfl, (List.cons.inj h).2⟩
    | cons d ds =>
      rw [List.flatMap_cons, List.append_assoc] at h
      exact absurd h.symm (stringChar_ne_quote d _ _)
  | cons c cs ih =>
    rw [List.flatMap_cons, List.append_assoc] at h
    cases ds with
    | nil => exact absurd h (stringChar_ne_quote c _ _)
    | cons d ds =>
      rw [List.flatMap_cons, List.append_assoc] at h
      have hread := congrArg unescape? h
      rw [unescape?_stringChar, unescape?_stringChar] at hread
      obtain ⟨rfl, hrest⟩ := Prod.mk.inj (Option.some.inj hread)
      obtain ⟨rfl, rfl⟩ := ih hrest
      exact ⟨rfl, rfl⟩

/-- The text of a string determines the string and shows where it ends. -/
private theorem stringChars_append_inj {a b : String} {r s : List Char}
    (h : stringChars a ++ r = stringChars b ++ s) : a = b ∧ r = s := by
  simp only [stringChars, List.cons_append, List.append_assoc, List.nil_append] at h
  obtain ⟨hchars, hrest⟩ := flatMap_stringChar_inj (List.cons.inj h).2
  exact ⟨String.toList_inj.mp hchars, hrest⟩

/-! ## Words -/

/-- The characters that structure a text; no word has one of them. -/
def isStructural (c : Char) : Bool := ['"', '[', ']', '\x7b', '\x7d', ',', ':'].contains c

/-- The character that opens the text of a value, where that is no word. -/
def opening? : Json → Option Char
  | .string _ => some '"'
  | .array _ => some '['
  | .object _ => some '\x7b'
  | _ => none

/-- Digits do not structure a text. -/
private theorem not_structural_of_isDigit {c : Char} (h : isDigit c = true) :
    isStructural c = false := by
  by_cases hs : isStructural c = true
  · have hall : ['"', '[', ']', '\x7b', '\x7d', ',', ':'].all (!isDigit ·) = true := by decide
    have hc := List.all_eq_true.mp hall c (List.contains_iff_mem.mp hs)
    rw [h] at hc
    cases hc
  · exact Bool.not_eq_true _ ▸ hs

/-- The characters of an integer. -/
private theorem mem_intChars {n : Int} {c : Char} (h : c ∈ intChars n) :
    isDigit c = true ∨ c = '-' := by
  unfold intChars at h
  split at h
  · rcases List.mem_cons.mp h with rfl | h
    · exact .inr rfl
    · exact .inl (Text.isDigit_of_mem_toDigits h)
  · exact .inl (Text.isDigit_of_mem_toDigits h)

/-- An integer has a digit. -/
private theorem intChars_ne_nil (n : Int) : intChars n ≠ [] := by
  unfold intChars
  split
  · exact List.cons_ne_nil _ _
  · exact Nat.toDigits_ne_nil

/-- The text of an integer determines it. -/
private theorem intChars_injective {m n : Int} (h : intChars m = intChars n) : m = n := by
  have hminus : ∀ k : Nat, ∀ rest, Nat.toDigits 10 k ≠ '-' :: rest := by
    intro k rest heq
    have hdigit : isDigit '-' = true := Text.isDigit_of_mem_toDigits (n := k) (by simp [heq])
    cases hdigit
  unfold intChars at h
  -- with the same sign the digits decide
  split at h <;> split at h
  · have habs := Text.toDigits_injective (List.cons.inj h).2
    omega
  · exact absurd h.symm (hminus _ _)
  · exact absurd h (hminus _ _)
  · have habs := Text.toDigits_injective h
    omega

/-- No character of a word structures a text. -/
private theorem not_structural_of_word {v : Json} (hv : v.opening? = none) :
    ∀ c ∈ v.chars, isStructural c = false := by
  intro c hc
  cases v with
  | null =>
    -- words and numbers have letters, digits and signs only
    have hall : ['n', 'u', 'l', 'l'].all (!isStructural ·) = true := by decide
    simpa using List.all_eq_true.mp hall c hc
  | bool b =>
    have hall : (chars (.bool b)).all (!isStructural ·) = true := by cases b <;> decide
    simpa using List.all_eq_true.mp hall c hc
  | int n =>
    rcases mem_intChars hc with hdigit | rfl
    · exact not_structural_of_isDigit hdigit
    · rfl
  | float x =>
    rcases Number.mem_text hc with hdigit | hmark
    · exact not_structural_of_isDigit hdigit
    · have hall : Number.marks.all (!isStructural ·) = true := by decide
      simpa using List.all_eq_true.mp hall c hmark
  | string s => cases hv
  | array items => cases hv
  | object members => cases hv

/-- A text with a character that integers do not have is no integer. -/
private theorem intChars_ne {cs : List Char} (n : Int) (c : Char) (hmem : c ∈ cs)
    (hc : isDigit c = false ∧ c ≠ '-') : intChars n ≠ cs := by
  rintro rfl
  rcases mem_intChars hmem with hdigit | hminus
  · rw [hc.1] at hdigit
    cases hdigit
  · exact hc.2 hminus

/-- A text with a character that numbers do not have is no number. -/
private theorem text_ne {cs : List Char} (x : Number) (c : Char) (hmem : c ∈ cs)
    (hc : isDigit c = false ∧ c ∉ Number.marks) : x.text ≠ cs := by
  rintro rfl
  rcases Number.mem_text hmem with hdigit | hmark
  · rw [hc.1] at hdigit
    cases hdigit
  · exact hc.2 hmark

/-- The text of a word determines it. -/
private theorem eq_of_word_chars {v w : Json} (hv : v.opening? = none) (hw : w.opening? = none)
    (h : v.chars = w.chars) : v = w := by
  -- `u` and `l` are in no numeral, and one of them is in every other word
  have hint : ∀ (n : Int) (b : Bool), intChars n ≠ chars .null ∧ intChars n ≠ chars (.bool b) := by
    intro n b
    refine ⟨intChars_ne n 'u' (by simp [chars]) (by decide), ?_⟩
    cases b
    · exact intChars_ne n 'l' (by simp [chars]) (by decide)
    · exact intChars_ne n 'u' (by simp [chars]) (by decide)
  have hfloat : ∀ (x : Number) (b : Bool), x.text ≠ chars .null ∧ x.text ≠ chars (.bool b) := by
    intro x b
    refine ⟨text_ne x 'u' (by simp [chars]) (by decide), ?_⟩
    cases b
    · exact text_ne x 'l' (by simp [chars]) (by decide)
    · exact text_ne x 'u' (by simp [chars]) (by decide)
  have hnumbers : ∀ (n : Int) (x : Number), intChars n ≠ x.text := by
    intro n x
    obtain ⟨c, hmem, hc⟩ := x.exists_mark
    exact intChars_ne n c hmem hc
  cases v with
  | null =>
    cases w with
    | null => rfl
    | bool b => cases b <;> cases h
    | int n => exact absurd h.symm (hint n true).1
    | float x => exact absurd h.symm (hfloat x true).1
    | string _ | array _ | object _ => cases hw
  | bool b =>
    cases w with
    | null => cases b <;> cases h
    | bool b' =>
      cases b <;> cases b'
      · rfl
      · cases h
      · cases h
      · rfl
    | int n => exact absurd h.symm (hint n b).2
    | float x => exact absurd h.symm (hfloat x b).2
    | string _ | array _ | object _ => cases hw
  | int n =>
    cases w with
    | null => exact absurd h (hint n true).1
    | bool b => exact absurd h (hint n b).2
    | int n' => rw [intChars_injective h]
    | float x => exact absurd h (hnumbers n x)
    | string _ | array _ | object _ => cases hw
  | float x =>
    cases w with
    | null => exact absurd h (hfloat x true).1
    | bool b => exact absurd h (hfloat x b).2
    | int n => exact absurd h.symm (hnumbers n x)
    | float y => rw [Number.text_injective h]
    | string _ | array _ | object _ => cases hw
  | string _ | array _ | object _ => cases hv

/-! ## Values -/

/-- What may follow a value: nothing, or a character that structures the text. -/
def Ends (rest : List Char) : Prop := rest.head?.all isStructural = true

/-- Nothing may follow a value. -/
theorem ends_nil : Ends [] := rfl

/-- Where the text of a word is followed by what may follow a value, the word ends there. -/
private theorem word_append_inj {v w : Json} {r s : List Char} (hv : v.opening? = none)
    (hw : w.opening? = none) (hr : Ends r) (hs : Ends s) (h : v.chars ++ r = w.chars ++ s) :
    v = w ∧ r = s := by
  have hword : ∀ {u : Json}, u.opening? = none → ∀ c ∈ u.chars, (!isStructural c) = true := by
    intro u hu c hc
    rw [not_structural_of_word hu c hc]
    rfl
  have hend : ∀ {rest : List Char}, Ends rest → rest.head?.all (!!isStructural ·) = true := by
    intro rest hrest
    simpa [Ends] using hrest
  obtain ⟨hchars, hrest⟩ := Text.run_append_inj (hword hv) (hword hw) (hend hr) (hend hs) h
  exact ⟨eq_of_word_chars hv hw hchars, hrest⟩

/-- No value has an empty text. -/
private theorem chars_ne_nil (v : Json) : v.chars ≠ [] := by
  cases v with
  | bool b => cases b <;> exact List.cons_ne_nil _ _
  | int n => exact intChars_ne_nil n
  | float x =>
    obtain ⟨c, hmem, -⟩ := x.exists_mark
    exact List.ne_nil_of_mem hmem
  | null | string s | array items | object members => exact List.cons_ne_nil _ _

/-- A value begins with its opening character or, if it is a word, with one of a word. -/
private theorem chars_head (v : Json) :
    ∃ c rest, v.chars = c :: rest ∧
      v.opening? = if isStructural c then some c else none := by
  cases hopening : v.opening? with
  | some c =>
    cases v with
    | string s | array items | object members =>
      cases hopening
      exact ⟨_, _, rfl, rfl⟩
    | null | bool _ | int _ | float _ => cases hopening
  | none =>
    -- any other value is a word or a number, which begins with no such mark
    obtain ⟨c, rest, hchars⟩ := List.exists_cons_of_ne_nil v.chars_ne_nil
    have hc := not_structural_of_word hopening c (by simp [hchars])
    exact ⟨c, rest, hchars, by rw [hc]; rfl⟩

/-- The first character tells values of different kinds apart. -/
private theorem opening?_eq {v w : Json} {r s : List Char} (h : v.chars ++ r = w.chars ++ s) :
    v.opening? = w.opening? := by
  obtain ⟨c, rest, hchars, hv⟩ := v.chars_head
  obtain ⟨c', rest', hchars', hw⟩ := w.chars_head
  rw [hchars, hchars'] at h
  obtain ⟨rfl, -⟩ := List.cons.inj h
  rw [hv, hw]

/-- No value begins as an array ends. -/
private theorem chars_append_ne (v : Json) (r s : List Char) : v.chars ++ r ≠ ']' :: s := by
  intro h
  obtain ⟨c, rest, hchars, hv⟩ := v.chars_head
  rw [hchars] at h
  obtain ⟨rfl, -⟩ := List.cons.inj h
  cases v <;> cases hv

/-! ## Items and members -/

/-- Items that follow another one. -/
def moreItems : List Json → List Char
  | [] => []
  | item :: rest => ',' :: itemsChars (item :: rest)

/-- The text of some items is that of the first one and of those that follow it. -/
private theorem itemsChars_cons (item : Json) (rest : List Json) :
    itemsChars (item :: rest) = item.chars ++ moreItems rest := by
  cases rest with
  | nil => simp [itemsChars, moreItems]
  | cons next rest => rfl

/-- Members that follow another one. -/
def moreMembers : List (String × Json) → List Char
  | [] => []
  | member :: rest => ',' :: membersChars (member :: rest)

/-- The text of some members is that of the first one and of those that follow it. -/
private theorem membersChars_cons (name : String) (value : Json) (rest : List (String × Json)) :
    membersChars ((name, value) :: rest) =
      stringChars name ++ ':' :: (value.chars ++ moreMembers rest) := by
  cases rest with
  | nil => simp [membersChars, moreMembers]
  | cons next rest => simp [membersChars, moreMembers]

/-- Behind an item there is a comma or the end of the array. -/
private theorem ends_moreItems (items : List Json) (r : List Char) :
    Ends (moreItems items ++ ']' :: r) := by
  cases items <;> rfl

/-- Behind a member there is a comma or the end of the object. -/
private theorem ends_moreMembers (members : List (String × Json)) (r : List Char) :
    Ends (moreMembers members ++ '\x7d' :: r) := by
  cases members <;> rfl

mutual

/-- Where the text of a value is followed by something that may follow a value, the value and what
    follows it are determined. -/
theorem chars_append_inj (v w : Json) {r s : List Char} (hr : Ends r) (hs : Ends s)
    (h : v.chars ++ r = w.chars ++ s) : v = w ∧ r = s := by
  -- on the first value, along its parts; the other one is of the same kind by its opening
  have hopening := opening?_eq h
  cases v with
  | string a =>
    cases w with
    | string b =>
      obtain ⟨rfl, hrest⟩ := stringChars_append_inj h
      exact ⟨rfl, hrest⟩
    | _ => cases hopening
  | array items =>
    cases w with
    | array items' =>
      simp only [chars, List.cons_append, List.append_assoc, List.nil_append] at h
      obtain ⟨rfl, hrest⟩ := items_append_inj items items' (List.cons.inj h).2
      exact ⟨rfl, hrest⟩
    | _ => cases hopening
  | object members =>
    cases w with
    | object members' =>
      simp only [chars, List.cons_append, List.append_assoc, List.nil_append] at h
      obtain ⟨rfl, hrest⟩ := members_append_inj members members' (List.cons.inj h).2
      exact ⟨rfl, hrest⟩
    | _ => cases hopening
  | null => exact word_append_inj rfl hopening.symm hr hs h
  | bool b => exact word_append_inj rfl hopening.symm hr hs h
  | int n => exact word_append_inj rfl hopening.symm hr hs h
  | float x => exact word_append_inj rfl hopening.symm hr hs h

/-- The text of some items, up to the end of the array, determines them. -/
private theorem items_append_inj (items items' : List Json) {r s : List Char}
    (h : itemsChars items ++ ']' :: r = itemsChars items' ++ ']' :: s) :
    items = items' ∧ r = s := by
  cases items with
  | nil =>
    cases items' with
    | nil => exact ⟨rfl, (List.cons.inj h).2⟩
    | cons item' rest' =>
      rw [itemsChars_cons, List.append_assoc] at h
      exact absurd h.symm (chars_append_ne _ _ _)
  | cons item rest =>
    cases items' with
    | nil =>
      rw [itemsChars_cons, List.append_assoc] at h
      exact absurd h (chars_append_ne _ _ _)
    | cons item' rest' =>
      simp only [itemsChars_cons, List.append_assoc] at h
      obtain ⟨rfl, hmore⟩ :=
        chars_append_inj item item' (ends_moreItems rest r) (ends_moreItems rest' s) h
      -- a comma says that there is another item
      cases rest with
      | nil =>
        cases rest' with
        | nil => exact ⟨rfl, (List.cons.inj hmore).2⟩
        | cons next' rest' => cases hmore
      | cons next rest =>
        cases rest' with
        | nil => cases hmore
        | cons next' rest' =>
          obtain ⟨heq, hrest⟩ :=
            items_append_inj (next :: rest) (next' :: rest') (List.cons.inj hmore).2
          exact ⟨by rw [heq], hrest⟩

/-- The text of some members, up to the end of the object, determines them. -/
private theorem members_append_inj (members members' : List (String × Json)) {r s : List Char}
    (h : membersChars members ++ '\x7d' :: r = membersChars members' ++ '\x7d' :: s) :
    members = members' ∧ r = s := by
  cases members with
  | nil =>
    cases members' with
    | nil => exact ⟨rfl, (List.cons.inj h).2⟩
    | cons member' rest' =>
      rw [membersChars_cons] at h
      cases h
  | cons member rest =>
    obtain ⟨name, value⟩ := member
    cases members' with
    | nil =>
      rw [membersChars_cons] at h
      cases h
    | cons member' rest' =>
      obtain ⟨name', value'⟩ := member'
      simp only [membersChars_cons, List.append_assoc, List.cons_append] at h
      -- the name is a string, so it ends at its quote, and the value ends where the next member
      -- begins
      obtain ⟨rfl, hvalue⟩ := stringChars_append_inj h
      obtain ⟨rfl, hmore⟩ := chars_append_inj value value' (ends_moreMembers rest r)
        (ends_moreMembers rest' s) (List.cons.inj hvalue).2
      cases rest with
      | nil =>
        cases rest' with
        | nil => exact ⟨rfl, (List.cons.inj hmore).2⟩
        | cons next' rest' => cases hmore
      | cons next rest =>
        cases rest' with
        | nil => cases hmore
        | cons next' rest' =>
          obtain ⟨heq, hrest⟩ :=
            members_append_inj (next :: rest) (next' :: rest') (List.cons.inj hmore).2
          exact ⟨by rw [heq], hrest⟩

end

/-- Different documents have different compact texts. -/
theorem compact_injective {v w : Json} (h : v.compact = w.compact) : v = w := by
  have hchars : v.chars ++ [] = w.chars ++ [] := by
    rw [List.append_nil, List.append_nil]
    exact String.ofList_injective h
  exact (chars_append_inj v w ends_nil ends_nil hchars).1

end Sift.Json

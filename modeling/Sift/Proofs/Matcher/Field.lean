import Sift.Matcher

/-!
# What a matcher sees of a field

The values that a condition on a field may be met by, said without the functions that find them:
a field is found by going down through objects along the names between its dots (`Json.Along`), its
value stands for itself and, if it is an array, for its elements (`Json.Candidate`), and strings,
numbers and truth values have a text (`Json.HasText`).  `accepts_iff_of_along` is what a condition
makes of a field that is found, and `accepts_pattern_iff` puts the three together for patterns.
-/

namespace Sift

namespace Json

/-- Going down from a value along some names leads through objects to another value. -/
inductive Along : List String → Json → Json → Prop
  | here (value : Json) : Along [] value value
  | member {name : String} {names : List String} {members : List (String × Json)}
      {inner value : Json} (hname : members.lookup name = some inner)
      (h : Along names inner value) : Along (name :: names) (.object members) value

/-- A value that may meet a condition on a field with this value. -/
def Candidate (value part : Json) : Prop :=
  part = value ∨ ∃ items, value = .array items ∧ part ∈ items

/-- A value that is an array. -/
def IsArray (value : Json) : Prop := ∃ items, value = .array items

/-- All other values stand for themselves only. -/
theorem candidate_iff_of_not_isArray {value part : Json} (h : ¬ value.IsArray) :
    Candidate value part ↔ part = value := by
  constructor
  · rintro (rfl | ⟨items, rfl, -⟩)
    · rfl
    · exact absurd ⟨items, rfl⟩ h
  · exact .inl

/-- The text of a string, a number or a truth value. -/
inductive HasText : Json → String → Prop
  | string (s : String) : HasText (.string s) s
  | int (n : Int) : HasText (.int n) (toString n)
  | float (x : Number) : HasText (.float x) (String.ofList x.text)
  | bool (b : Bool) : HasText (.bool b) (toString b)

/-! ## Texts of integers -/

/-- An integer in a document has the text that it has elsewhere. -/
private theorem ofList_intChars (n : Int) : String.ofList (intChars n) = toString n := by
  cases n with
  | ofNat n =>
    have hsign : ¬ Int.ofNat n < 0 := Int.not_lt.mpr (Int.natCast_nonneg n)
    rw [intChars, if_neg hsign]
    rfl
  | negSucc n =>
    rw [intChars, if_pos (Int.negSucc_lt_zero n), String.ofList_cons]
    rfl

end Json

/-! ## Fields -/

open Json (Along Candidate HasText)

namespace Matcher

/-- A lookup finds the value along the names. -/
theorem lookup?_eq_some_iff {names : List String} {document value : Json} :
    lookup? names document = some value ↔ Along names document value := by
  -- on the names, one object further down with each
  induction names generalizing document with
  | nil =>
    constructor
    · intro h
      cases h
      exact .here _
    · rintro ⟨⟩
      rfl
  | cons name names ih =>
    constructor
    · intro h
      -- only objects have members
      cases document with
      | object members =>
        rw [lookup?, Json.member?] at h
        cases hname : members.lookup name with
        | none =>
          rw [hname] at h
          cases h
        | some inner =>
          rw [hname] at h
          exact .member hname (ih.mp h)
      | _ => cases h
    · intro h
      cases h with
      | member hname h => simp only [lookup?, Json.member?, hname, ih.mpr h]

/-- The names lead to one value only. -/
private theorem along_unique {names : List String} {document value value' : Json}
    (h : Along names document value) (h' : Along names document value') : value = value' := by
  rw [← lookup?_eq_some_iff] at h h'
  exact Option.some.inj (h.symm.trans h')

/-- The values that stand for a field are its candidates. -/
private theorem mem_candidates_iff {value part : Json} :
    part ∈ candidates value ↔ Candidate value part := by
  unfold candidates Candidate
  cases value <;> simp

/-- The text that is found is the one that the value has. -/
theorem text?_eq_some_iff {value : Json} {text : String} :
    text? value = some text ↔ HasText value text := by
  constructor
  · intro h
    unfold text? at h
    split at h
    · cases h; exact .string _
    · rw [Json.ofList_intChars] at h
      cases h
      exact .int _
    · cases h; exact .float _
    · cases h; exact .bool true
    · cases h; exact .bool false
    · cases h
  · intro h
    cases h with
    | string s => rfl
    | int n => rw [text?, Json.ofList_intChars]
    | float x => rfl
    | bool b => cases b <;> rfl

/-- A condition that is not about whether the field is there accepts the documents where one of
    the values that stand for the field meets it. -/
theorem accepts_field_iff {path : List String} {test : Test} {document : Json}
    (htest : ∀ value, test ≠ .exists value) :
    (Matcher.field path test).accepts document = true ↔
      ∃ value, Along path document value ∧
        ∃ part, Candidate value part ∧ meets test part = true := by
  -- only a test for presence looks at a field that is not found
  have hfound : ∀ found, meetsFound test found = true ↔
      ∃ value, found = some value ∧ ∃ part ∈ candidates value, meets test part = true := by
    intro found
    cases test with
    | «exists» value => exact absurd rfl (htest value)
    | _ => cases found <;> simp [meetsFound]
  rw [accepts, hfound]
  simp only [lookup?_eq_some_iff, mem_candidates_iff]

/-- A condition on a field that is found accepts the documents where a value that stands for it
    meets the condition. -/
theorem accepts_iff_of_along {path : List String} {test : Test} {document value : Json}
    (htest : ∀ value, test ≠ .exists value) (h : Along path document value) :
    (Matcher.field path test).accepts document = true ↔
      ∃ part, Candidate value part ∧ meets test part = true := by
  rw [accepts_field_iff htest]
  constructor
  · rintro ⟨found, hfound, hpart⟩
    rwa [along_unique h hfound]
  · exact fun hpart => ⟨value, h, hpart⟩

/-- A value meets a pattern if its text has a match. -/
private theorem meets_pattern_iff {pattern : Pattern} {value : Json} :
    meets (.pattern pattern) value = true ↔
      ∃ text, HasText value text ∧ pattern.search text = true := by
  simp only [meets, Option.any_eq_true, text?_eq_some_iff]

/-- A pattern on a field accepts the documents where one of the values that stand for the field has
    a text with a match. -/
theorem accepts_pattern_iff {path : List String} {pattern : Pattern} {document : Json} :
    (Matcher.field path (.pattern pattern)).accepts document = true ↔
      ∃ value, Along path document value ∧
        ∃ part, Candidate value part ∧ ∃ text, HasText part text ∧ pattern.search text = true := by
  rw [accepts_field_iff (by simp)]
  simp only [meets_pattern_iff]

end Matcher

end Sift

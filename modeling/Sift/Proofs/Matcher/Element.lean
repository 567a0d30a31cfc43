import Sift.Proofs.Matcher.Field

/-!
# Arrays and their elements

A condition on a field with an array is met by one of the elements: the array itself has neither a
text nor an order, and an element that is an array has none either, so only the elements that are no
arrays count.  What a condition makes of an element is what it makes of the document with the
element in the place of the array (`Json.replaceAt`).
-/

namespace Sift

namespace Json

/-! ## Replacing a value -/

/-- The document with the value along some names replaced.  Where the names lead nowhere it stays as
    it is. -/
def replaceAt : List String → Json → Json → Json
  | [], _, new => new
  | name :: names, .object members, new =>
    match members.lookup name with
    | some inner => .object (set name (replaceAt names inner new) members)
    | none => .object members
  | _ :: _, document, _ => document

/-- What is set is found. -/
private theorem lookup_set (name : String) (value : Json) (members : List (String × Json)) :
    (set name value members).lookup name = some value := by
  induction members with
  | nil => rw [set, List.lookup_cons_self]
  | cons member members ih =>
    obtain ⟨key, old⟩ := member
    by_cases hkey : key = name
    · rw [set, if_pos hkey, hkey, List.lookup_cons_self]
    · have hne : (name == key) = false := beq_eq_false_iff_ne.mpr fun heq => hkey heq.symm
      rw [set, if_neg hkey, List.lookup_cons, hne, ih]

/-- The names lead to what was put there. -/
private theorem Along.replaceAt {names : List String} {document value : Json}
    (h : Along names document value) (new : Json) :
    Along names (document.replaceAt names new) new := by
  induction h with
  | here value => exact .here new
  | member hname h ih =>
    -- the member is set to what the rest of the names makes of it
    rw [Json.replaceAt, hname]
    exact .member (lookup_set _ _ _) ih

end Json

open Json (Along Candidate)

/-! ## Conditions that are not about presence -/

/-- A condition that is not about presence has a test that is not. -/
private theorem Condition.toTest_ne_exists {condition : Condition} {test : Test}
    (h : condition.toTest = .ok test) (hcondition : ∀ value, condition ≠ .exists value) :
    ∀ value, test ≠ .exists value := by
  cases condition with
  | compare comparison scalar =>
    cases h
    exact nofun
  -- a pattern that can be read stays a pattern
  | regex pattern =>
    rw [toTest] at h
    split at h
    · cases h
      exact nofun
    · cases h
  | «exists» value => exact absurd rfl (hcondition value)

namespace Matcher

/-- The matcher of a condition on a field has the test of the condition. -/
private theorem ofFilter_field_eq_ok_iff {name : String} {condition : Condition}
    {matcher : Matcher} :
    ofFilter (.field name condition) = .ok matcher ↔
      ∃ test, condition.toTest = .ok test ∧ matcher = .field (fieldPath name) test := by
  rw [ofFilter]
  cases condition.toTest with
  | error error => simp [bind, Except.bind]
  | ok test => simp [bind, Except.bind, pure, Except.pure, eq_comm]

variable {test : Test}

/-- An array meets no condition itself: it has no order with anything and no text. -/
private theorem not_isArray_of_meets (htest : ∀ value, test ≠ .exists value) {value : Json}
    (h : meets test value = true) : ¬ value.IsArray := by
  rintro ⟨items, rfl⟩
  cases test with
  | compare comparison scalar => cases scalar <;> simp [meets, compare?] at h
  | pattern pattern => simp [meets, text?] at h
  | «exists» value => exact absurd rfl (htest value)

/-- What stands for an array and meets a condition is an element that is no array. -/
private theorem exists_candidate_array_iff (htest : ∀ value, test ≠ .exists value)
    (items : List Json) :
    (∃ part, Candidate (.array items) part ∧ meets test part = true) ↔
      ∃ item ∈ items, ¬ item.IsArray ∧ meets test item = true := by
  constructor
  · rintro ⟨part, hpart, hmeets⟩
    -- so the array is ruled out, and the elements that are arrays are
    have harray := not_isArray_of_meets htest hmeets
    rcases hpart with rfl | ⟨others, hothers, hmem⟩
    · exact absurd ⟨items, rfl⟩ harray
    · cases hothers
      exact ⟨part, hmem, harray, hmeets⟩
  · rintro ⟨item, hmem, -, hmeets⟩
    exact ⟨item, .inr ⟨items, rfl, hmem⟩, hmeets⟩

end Matcher

/-- A condition other than presence, whose pattern can be read, on a field with an array accepts the
    document exactly if it accepts the document with some element in the place of the array, where
    elements that are arrays do not count.  So it does not matter which arrays are among the
    elements, and more elements never turn a document away. -/
theorem array_matches_by_elements (name : String) (condition : Condition) (matcher : Matcher)
    (document : Json) (items : List Json)
    (hmatcher : Matcher.ofFilter (.field name condition) = .ok matcher)
    (hcondition : ∀ value, condition ≠ .exists value)
    (hfound : Along (fieldPath name) document (.array items)) :
    (matcher.accepts document = true ↔
        ∃ item ∈ items, ¬ item.IsArray ∧
          matcher.accepts (document.replaceAt (fieldPath name) item) = true) ∧
      (∀ others, (∀ item, ¬ item.IsArray → (item ∈ others ↔ item ∈ items)) →
        matcher.accepts (document.replaceAt (fieldPath name) (.array others)) =
          matcher.accepts document) ∧
      ∀ more, items ⊆ more → matcher.accepts document = true →
        matcher.accepts (document.replaceAt (fieldPath name) (.array more)) = true := by
  obtain ⟨test, htoTest, rfl⟩ := Matcher.ofFilter_field_eq_ok_iff.mp hmatcher
  have htest := Condition.toTest_ne_exists htoTest hcondition
  -- the array in the document, and every array in its place, is met by an element
  have hdocument := Matcher.accepts_iff_of_along htest hfound
  have hreplaced : ∀ new, (Matcher.field (fieldPath name) test).accepts
      (document.replaceAt (fieldPath name) new) = true ↔
        ∃ part, Candidate new part ∧ Matcher.meets test part = true :=
    fun new => Matcher.accepts_iff_of_along htest (hfound.replaceAt new)
  rw [Matcher.exists_candidate_array_iff htest] at hdocument
  refine ⟨?_, fun others hothers => ?_, fun more hmore haccepts => ?_⟩
  · rw [hdocument]
    refine exists_congr fun item => and_congr_right fun _ => and_congr_right fun harray => ?_
    -- in the place of the array the element stands for itself only
    rw [hreplaced]
    simp only [Json.candidate_iff_of_not_isArray harray, exists_eq_left]
  · rw [Bool.eq_iff_iff, hreplaced, Matcher.exists_candidate_array_iff htest, hdocument]
    refine exists_congr fun item => ?_
    constructor
    · rintro ⟨hmem, harray, hmeets⟩
      exact ⟨(hothers item harray).mp hmem, harray, hmeets⟩
    · rintro ⟨hmem, harray, hmeets⟩
      exact ⟨(hothers item harray).mpr hmem, harray, hmeets⟩
  · rw [hreplaced, Matcher.exists_candidate_array_iff htest]
    obtain ⟨item, hmem, hmeets⟩ := hdocument.mp haccepts
    exact ⟨item, hmore hmem, hmeets⟩

/-- A document with an array below an object. -/
def shelved (items : List Json) : Json := .object [("a", .object [("b", .array items)])]

/-- A string is found among the elements, one in an array among them is not. -/
theorem array_matches_by_elements_nested :
    ∃ matcher, Matcher.ofFilter (.field "a.b" (.regex "^x")) = .ok matcher ∧
      matcher.accepts (shelved [.null, .array [.string "xy"], .string "xz"]) = true ∧
      matcher.accepts (shelved [.null, .array [.string "xy"]]) = false := by
  have hpattern : (Pattern.parse? "^x").any (·.search "xz") = true := by decide +kernel
  obtain ⟨pattern, hread, hsearch⟩ := (Option.any_eq_true _ _).mp hpattern
  have hmatcher : Matcher.ofFilter (.field "a.b" (.regex "^x")) =
      .ok (.field (fieldPath "a.b") (.pattern pattern)) :=
    Matcher.ofFilter_field_eq_ok_iff.mpr ⟨_, by rw [Condition.toTest, hread], rfl⟩
  have hmatches := fun items =>
    array_matches_by_elements "a.b" (.regex "^x") _ (shelved items) items hmatcher nofun
      (.member rfl (.member rfl (.here _)))
  refine ⟨_, hmatcher,
    (hmatches _).1.mpr ⟨.string "xz", by simp, by simp [Json.IsArray], ?_⟩, ?_⟩
  · exact Matcher.accepts_pattern_iff.mpr
      ⟨_, .member rfl (.member rfl (.here _)), _, .inl rfl, _, .string "xz", hsearch⟩
  · rw [Bool.eq_false_iff, Ne, (hmatches _).1]
    rintro ⟨item, hmem, harray, haccepts⟩
    -- a null has no text, and the array does not count
    rcases List.mem_cons.mp hmem with rfl | hmem
    · cases haccepts
    · rw [List.mem_singleton.mp hmem] at harray
      exact harray ⟨_, rfl⟩

end Sift

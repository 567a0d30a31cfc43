import Sift.Proofs.Instant.Shift
import Sift.Proofs.Matcher.Field

/-!
# Comparisons of one field

The five comparisons of a field with a scalar ask for an order between two things that may have
none: values of different kinds, texts that are no instants, and `nan` do not compare.  So the
comparisons are not complements of one another.  What still holds on every document is that a weak
comparison is the strict one or equality, also where the field is an array and the two may be met by
different elements; and on a field that is no array the three orders exclude one another, and one of
them is there exactly if the value and the scalar are `Comparable`.
-/

namespace Sift

/-! ## What has an order -/

namespace Number

/-- All numbers but `nan` have a place among the others. -/
private theorem exists_place?_iff {x : Number} : (∃ place, x.place? = some place) ↔ x ≠ .nan := by
  cases x <;> simp [place?]

/-- Two numbers have an order exactly if neither is `nan`. -/
private theorem exists_compare?_iff {x y : Number} :
    (∃ order, x.compare? y = some order) ↔ x ≠ .nan ∧ y ≠ .nan := by
  rw [← exists_place?_iff, ← exists_place?_iff]
  unfold compare?
  cases x.place? <;> cases y.place? <;> simp

/-- An integer is a number. -/
private theorem ofInt_ne_nan (n : Int) : ofInt n ≠ .nan := by
  unfold ofInt ofRatio
  dsimp only
  split <;> exact nofun

end Number

/-- A value of a document and a scalar with an order between them: two numbers other than `nan`, two
    strings, or a string that is read as an instant and an instant. -/
inductive Comparable : Json → Scalar → Prop
  | int (n : Int) {x : Number} (hx : x ≠ .nan) : Comparable (.int n) (.number x)
  | float {y x : Number} (hy : y ≠ .nan) (hx : x ≠ .nan) : Comparable (.float y) (.number x)
  | string (s t : String) : Comparable (.string s) (.string t)
  | date {s : String} {instant : Instant} (hread : Instant.read? s = some instant) (t : Instant) :
      Comparable (.string s) (.date t)

namespace Matcher

/-- The order of a value and a scalar is there exactly if they are comparable. -/
private theorem exists_compare?_iff {value : Json} {scalar : Scalar} :
    (∃ order, compare? value scalar = some order) ↔ Comparable value scalar := by
  constructor
  · rintro ⟨order, h⟩
    -- one case for each pair of kinds that compare, and one for all others
    unfold compare? at h
    split at h
    · exact .int _ (Number.exists_compare?_iff.mp ⟨order, h⟩).2
    · obtain ⟨hy, hx⟩ := Number.exists_compare?_iff.mp ⟨order, h⟩
      exact .float hy hx
    · exact .string _ _
    · obtain ⟨instant, hread, -⟩ := Option.map_eq_some_iff.mp h
      exact .date hread _
    · cases h
  · intro h
    cases h with
    | int n hx => exact Number.exists_compare?_iff.mpr ⟨Number.ofInt_ne_nan n, hx⟩
    | float hy hx => exact Number.exists_compare?_iff.mpr ⟨hy, hx⟩
    | string s t => exact ⟨_, rfl⟩
    | date hread t => exact ⟨_, by rw [compare?, hread, Option.map_some]⟩

/-! ## What the comparisons ask for -/

/-- A value meets a comparison that accepts its order. -/
private theorem meets_compare_iff {comparison : Comparison} {scalar : Scalar} {value : Json} :
    meets (.compare comparison scalar) value = true ↔
      ∃ order, compare? value scalar = some order ∧ accepted comparison order = true := by
  rw [meets, Option.any_eq_true]

/-- A weak comparison accepts the order of the strict one, and equality. -/
private theorem accepted_gte_iff {order : Ordering} :
    accepted .gte order = true ↔ accepted .gt order = true ∨ accepted .eq order = true := by
  cases order <;> decide

/-- The same for the other weak comparison. -/
private theorem accepted_lte_iff {order : Ordering} :
    accepted .lte order = true ↔ accepted .lt order = true ∨ accepted .eq order = true := by
  cases order <;> decide

end Matcher

/-- The comparisons that ask for one order each. -/
def Comparison.exact : List Comparison := [.lt, .eq, .gt]

namespace Matcher

/-- Each order is accepted by one exact comparison. -/
private theorem exists_exact_accepted (order : Ordering) :
    ∃ comparison ∈ Comparison.exact, accepted comparison order = true := by
  cases order <;> decide

/-- Each order is accepted by no two exact comparisons. -/
private theorem eq_of_exact_accepted {c c' : Comparison} {order : Ordering}
    (hc : c ∈ Comparison.exact)
    (hc' : c' ∈ Comparison.exact) (h : accepted c order = true) (h' : accepted c' order = true) :
    c = c' := by
  cases order <;> cases c <;> cases c' <;> simp_all [Comparison.exact, accepted]

end Matcher

/-! ## What the comparisons accept -/

/-- The filter that compares a field with a scalar accepts a document. -/
def Compares (name : String) (scalar : Scalar) (document : Json) (comparison : Comparison) : Prop :=
  ∃ matcher, Matcher.ofFilter (.field name (.compare comparison scalar)) = .ok matcher ∧
    matcher.accepts document = true

open Json (Along Candidate)

section

variable {name : String} {scalar : Scalar} {document : Json}

/-- The matcher of a comparison is that of its field. -/
theorem compares_iff_accepts {comparison : Comparison} :
    Compares name scalar document comparison ↔
      (Matcher.field (fieldPath name) (.compare comparison scalar)).accepts document = true := by
  constructor
  · rintro ⟨matcher, hmatcher, haccepts⟩
    cases hmatcher
    exact haccepts
  · exact fun haccepts => ⟨_, rfl, haccepts⟩

/-- A comparison accepts the documents where a value that stands for the field has an order that it
    accepts. -/
private theorem compares_iff {comparison : Comparison} :
    Compares name scalar document comparison ↔
      ∃ value, Along (fieldPath name) document value ∧ ∃ part, Candidate value part ∧
        ∃ order, Matcher.compare? part scalar = some order ∧
          Matcher.accepted comparison order = true := by
  rw [compares_iff_accepts, Matcher.accepts_field_iff (by simp)]
  simp only [Matcher.meets_compare_iff]

/-- On a field that is no array, a comparison is about the order of its value. -/
theorem compares_iff_of_not_isArray {comparison : Comparison} {value : Json}
    (hvalue : Along (fieldPath name) document value) (harray : ¬ value.IsArray) :
    Compares name scalar document comparison ↔
      ∃ order, Matcher.compare? value scalar = some order ∧
        Matcher.accepted comparison order = true := by
  rw [compares_iff_accepts, Matcher.accepts_iff_of_along (by simp) hvalue]
  simp only [Json.candidate_iff_of_not_isArray harray, exists_eq_left, Matcher.meets_compare_iff]

/-- A comparison that accepts the orders of two others accepts the documents of both. -/
private theorem compares_or_iff {weak strict equal : Comparison}
    (h : ∀ order, Matcher.accepted weak order = true ↔
      Matcher.accepted strict order = true ∨ Matcher.accepted equal order = true) :
    Compares name scalar document weak ↔
      Compares name scalar document strict ∨ Compares name scalar document equal := by
  simp only [compares_iff, h, and_or_left, exists_or]

end

/-- Whatever the field, the scalar and the document are: at least is more or equal, and at most is
    less or equal.  Where the field is found and is no array, at most one of less, equal and more
    holds, and exactly one does if and only if its value and the scalar are comparable. -/
theorem comparisons_consistent (name : String) (scalar : Scalar) (document : Json) :
    (Compares name scalar document .gte ↔
        Compares name scalar document .gt ∨ Compares name scalar document .eq) ∧
      (Compares name scalar document .lte ↔
        Compares name scalar document .lt ∨ Compares name scalar document .eq) ∧
      ∀ value, Along (fieldPath name) document value → ¬ value.IsArray →
        (∀ c ∈ Comparison.exact, ∀ c' ∈ Comparison.exact,
          Compares name scalar document c → Compares name scalar document c' → c = c') ∧
        ((∃ c ∈ Comparison.exact, Compares name scalar document c ∧
            ∀ c' ∈ Comparison.exact, Compares name scalar document c' → c' = c) ↔
          Comparable value scalar) := by
  refine ⟨compares_or_iff fun _ => Matcher.accepted_gte_iff,
    compares_or_iff fun _ => Matcher.accepted_lte_iff, fun value hvalue harray => ?_⟩
  simp only [compares_iff_of_not_isArray hvalue harray]
  -- all comparisons are about the one order of the value, if there is any
  have hunique : ∀ c ∈ Comparison.exact, ∀ c' ∈ Comparison.exact,
      (∃ order, Matcher.compare? value scalar = some order ∧ Matcher.accepted c order = true) →
      (∃ order, Matcher.compare? value scalar = some order ∧ Matcher.accepted c' order = true) →
      c = c' := by
    rintro c hc c' hc' ⟨order, horder, h⟩ ⟨order', horder', h'⟩
    obtain rfl := Option.some.inj (horder.symm.trans horder')
    exact Matcher.eq_of_exact_accepted hc hc' h h'
  refine ⟨hunique, ?_⟩
  rw [← Matcher.exists_compare?_iff]
  constructor
  · rintro ⟨c, -, ⟨order, horder, -⟩, -⟩
    exact ⟨order, horder⟩
  · rintro ⟨order, horder⟩
    obtain ⟨c, hc, h⟩ := Matcher.exists_exact_accepted order
    exact ⟨c, hc, ⟨order, horder, h⟩, fun c' hc' h' =>
      hunique c' hc' c hc h' ⟨order, horder, h⟩⟩

/-- A day is in one order with an instant, and a number in none with `nan`. -/
theorem comparisons_consistent_day_and_nan :
    (∃ c ∈ Comparison.exact,
        Compares "due" (.date .noon) (.object [("due", .string "2024-06-01")]) c) ∧
      ∀ c ∈ Comparison.exact,
        ¬ Compares "level" (.number .nan) (.object [("level", .int 3)]) c := by
  obtain ⟨-, -, hday⟩ := comparisons_consistent "due" (.date .noon)
    (.object [("due", .string "2024-06-01")])
  obtain ⟨-, -, hnan⟩ := comparisons_consistent "level" (.number .nan)
    (.object [("level", .int 3)])
  refine ⟨?_, fun c hc h => ?_⟩
  · obtain ⟨c, hc, h, -⟩ := (hday (.string "2024-06-01") (.member rfl (.here _))
      (by simp [Json.IsArray])).2.mpr (.date rfl _)
    exact ⟨c, hc, h⟩
  · -- one comparison that holds would be the only one, and the two would be comparable
    obtain ⟨hmost, hexactly⟩ := hnan (.int 3) (.member rfl (.here _)) (by simp [Json.IsArray])
    cases hexactly.mp ⟨c, hc, h, fun c' hc' h' => hmost c' hc' c hc h' h⟩ with
    | int n hx => exact hx rfl

end Sift

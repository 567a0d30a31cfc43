import Sift.Proofs.Matcher.Field
import Sift.Proofs.Operand.RelativeDate
import Sift.Proofs.Pattern.Literal

/-!
# Searching a field for a part of its text

A term with a colon on a string field looks for its token in the text of the field: the token goes
through a pattern, and no character of it has a meaning there.
-/

namespace Sift

namespace Filter

/-- With a plain value a colon stands for the pattern of the token on a string field, and for
    equality on any other. -/
theorem condition_contains (rule : Rule) (field source : String) (value : Value) :
    condition rule field .contains source value.toScalar =
      if rule.hasString field then substring source else .compare .eq value.toScalar := by
  cases value <;> rfl

/-- The filter of a term with a colon and a plain token on a string field. -/
private theorem ofTerm_contains {rule : Rule} {field token : String} (hid : field ≠ idField)
    (hstring : rule.hasString field = true) (hnull : token ≠ Value.nullWord)
    (hdate : field ∈ rule.isDate → Instant.read? token = none ∧
      Operand.relative? (.ofToken token) = none ∧ token ≠ Value.nowWord) (now : Instant) :
    ofTerm rule now ⟨some field, .contains, .ofToken token⟩ =
      .ok (.field field (substring token)) := by
  -- the value keeps the token, whether it is a number or not
  have hnormal := Operand.normalize?_eq_value (Value.isWord_ofToken_of_ne hnull)
    (fun hfield => by
      obtain ⟨hread, hrelative, hnow⟩ := hdate hfield
      exact ⟨by rwa [Value.source_ofToken], hrelative, Value.isWord_ofToken_of_ne hnow⟩)
    .contains now
  simp [ofTerm, ofFullTerm, hid, hnormal, condition_contains, hstring]

end Filter

/-! ## Searching -/

open Json (Along Candidate HasText)

/-- On a string field other than the identifier, a term with a colon and a token that stands for
    nothing else has a filter, and the filter has a matcher, unless the token is too long for a
    pattern.  The matcher accepts a document exactly if the names between the dots of the field lead
    to a value that has the token in its text, or to an array with such an element. -/
theorem contains_term_substring (rule : Rule) (now : Instant) (field token : String)
    (hid : field ≠ Filter.idField) (hstring : rule.hasString field = true)
    (hnull : token ≠ Value.nullWord)
    (hdate : field ∈ rule.isDate → Instant.read? token = none ∧
      Operand.relative? (.ofToken token) = none ∧ token ≠ Value.nowWord)
    (hsize : 32 * token.utf8ByteSize + 32 ≤ Pattern.maxSize) :
    ∃ filter matcher,
      Filter.ofTerm rule now ⟨some field, .contains, .ofToken token⟩ = .ok filter ∧
      Matcher.ofFilter filter = .ok matcher ∧
      ∀ document, matcher.accepts document = true ↔
        ∃ value, Along ((field.toList.splitOn '.').map String.ofList) document value ∧
          ∃ part, Candidate value part ∧
            ∃ text, HasText part text ∧ token.toList <:+: text.toList := by
  -- the escaped token is read as the row of its characters, which is not too large
  have hparse := Pattern.parse?_escape (Nat.le_trans (Pattern.size_literals_le token) hsize)
  have hmatcher : Matcher.ofFilter (.field field (Filter.substring token)) =
      .ok (.field (fieldPath field) (.pattern (Pattern.literals token.toList))) := by
    simp only [Matcher.ofFilter, Condition.toTest, Filter.substring, hparse]
    rfl
  refine ⟨_, _, Filter.ofTerm_contains hid hstring hnull hdate now, hmatcher, fun document => ?_⟩
  rw [Matcher.accepts_pattern_iff, fieldPath]
  simp only [Pattern.search_literals]

/-- Characters with a meaning in patterns are searched for as they are, also on a date field and
    in the elements of an array. -/
theorem contains_term_substring_meta :
    ∃ filter matcher,
      Filter.ofTerm ⟨[], ["a.b"], ["a.b"]⟩ .noon ⟨some "a.b", .contains, .ofToken "(.*"⟩ =
        .ok filter ∧
      Matcher.ofFilter filter = .ok matcher ∧
      matcher.accepts (.object [("a", .object [("b", .array [.int 3, .string "x(.*y"])])]) =
        true := by
  obtain ⟨filter, matcher, hfilter, hmatcher, haccepts⟩ :=
    contains_term_substring ⟨[], ["a.b"], ["a.b"]⟩ .noon "a.b" "(.*" (by decide) (by decide)
      (by decide) (fun _ => ⟨by decide, by decide, by decide⟩) (by decide)
  refine ⟨filter, matcher, hfilter, hmatcher, (haccepts _).mpr ?_⟩
  exact ⟨_, .member rfl (.member rfl (.here _)), .string "x(.*y", .inr ⟨_, rfl, by simp⟩, _,
    .string _, ['x'], ['y'], rfl⟩

end Sift

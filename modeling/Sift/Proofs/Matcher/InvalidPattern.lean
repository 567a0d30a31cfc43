import Sift.Proofs.Filter.Composition
import Sift.Proofs.Operand.RelativeDate
import Sift.Proofs.Pattern.Literal

/-!
# Patterns that cannot be read

A filter has a matcher exactly if all its patterns can be read, and else the error of the first that
cannot (`exists_ofFilter_iff_patterns`, `ofFilter_eq_error_iff_patterns`).  The patterns of a query
come from its terms: one with a tilde has its own text for a pattern, unless that stands for
something else on its field, and all others have literal texts, which can always be read.  So a
query without a matcher has a term with a tilde that is to blame (`invalid_pattern_source`).
-/

namespace Sift

/-! ## Patterns of a filter -/

/-- The patterns of a condition. -/
def Condition.patterns : Condition → List String
  | .regex pattern => [pattern]
  | .compare _ _ => []
  | .exists _ => []

namespace Filter

mutual

/-- The patterns of a filter, from left to right. -/
def patterns : Filter → List String
  | .and parts => listPatterns parts
  | .or parts => listPatterns parts
  | .field _ condition => condition.patterns
  | .id _ => []

def listPatterns : List Filter → List String
  | [] => []
  | part :: rest => part.patterns ++ listPatterns rest

end

/-- The patterns of some filters are those of each of them. -/
theorem mem_listPatterns {filters : List Filter} {pattern : String} :
    pattern ∈ listPatterns filters ↔ ∃ filter ∈ filters, pattern ∈ filter.patterns := by
  induction filters with
  | nil => simp [listPatterns]
  | cons filter filters ih => simp [listPatterns, ih]

end Filter

/-- The first of some patterns that cannot be read. -/
def firstUnreadable? (patterns : List String) : Option String :=
  patterns.find? fun pattern => (Pattern.parse? pattern).isNone

/-- The first pattern that cannot be read stands on the left, or all on the left can be read. -/
private theorem firstUnreadable?_append {left right : List String} {pattern : String} :
    firstUnreadable? (left ++ right) = some pattern ↔
      firstUnreadable? left = some pattern ∨
        (∀ p ∈ left, Pattern.parse? p ≠ none) ∧ firstUnreadable? right = some pattern := by
  have hnone : firstUnreadable? left = none ↔ ∀ p ∈ left, Pattern.parse? p ≠ none := by
    simp [firstUnreadable?]
  rw [← hnone, firstUnreadable?, List.find?_append, Option.or_eq_some_iff]
  rfl

/-- A condition has a test exactly if its pattern can be read. -/
private theorem Condition.exists_toTest_iff {condition : Condition} :
    (∃ test, condition.toTest = .ok test) ↔
      ∀ pattern ∈ condition.patterns, Pattern.parse? pattern ≠ none := by
  cases condition with
  | compare comparison scalar => simp [toTest, patterns]
  | regex pattern =>
    simp only [toTest, patterns, List.mem_singleton, forall_eq]
    cases Pattern.parse? pattern <;> simp
  | «exists» value => simp [toTest, patterns]

/-- A condition without a test has the error of its pattern. -/
private theorem Condition.toTest_eq_error_iff {condition : Condition} {error : InvalidPattern} :
    condition.toTest = .error error ↔
      firstUnreadable? condition.patterns = some error.pattern := by
  obtain ⟨found⟩ := error
  cases condition with
  | compare comparison scalar => simp [toTest, patterns, firstUnreadable?]
  | regex pattern =>
    cases hparse : Pattern.parse? pattern <;>
      simp [toTest, patterns, firstUnreadable?, hparse]
  | «exists» value => simp [toTest, patterns, firstUnreadable?]

namespace Matcher

mutual

/-- A filter has a matcher exactly if all its patterns can be read. -/
theorem exists_ofFilter_iff_patterns (filter : Filter) :
    (∃ matcher, ofFilter filter = .ok matcher) ↔
      ∀ pattern ∈ filter.patterns, Pattern.parse? pattern ≠ none := by
  cases filter with
  | and parts => simp only [ofFilter, exists_map_eq_ok_iff, Filter.patterns, exists_ofFilters_iff]
  | or parts => simp only [ofFilter, exists_map_eq_ok_iff, Filter.patterns, exists_ofFilters_iff]
  | field name condition =>
    simp only [ofFilter, exists_map_eq_ok_iff, Filter.patterns, Condition.exists_toTest_iff]
  | id docId => simp [ofFilter, Filter.patterns]

/-- The parts of a connective have matchers exactly if all their patterns can be read. -/
private theorem exists_ofFilters_iff (filters : List Filter) :
    (∃ matchers, ofFilters filters = .ok matchers) ↔
      ∀ pattern ∈ Filter.listPatterns filters, Pattern.parse? pattern ≠ none := by
  cases filters with
  | nil => simp [ofFilters, Filter.listPatterns]
  | cons part rest =>
    simp only [ofFilters, exists_pair_eq_ok_iff, Filter.listPatterns, List.forall_mem_append,
      exists_ofFilter_iff_patterns part, exists_ofFilters_iff rest]

end

mutual

/-- A filter without a matcher has the error of the first pattern that cannot be read. -/
theorem ofFilter_eq_error_iff_patterns (filter : Filter) (error : InvalidPattern) :
    ofFilter filter = .error error ↔ firstUnreadable? filter.patterns = some error.pattern := by
  cases filter with
  | and parts =>
    simp only [ofFilter, map_eq_error_iff, Filter.patterns, ofFilters_eq_error_iff]
  | or parts =>
    simp only [ofFilter, map_eq_error_iff, Filter.patterns, ofFilters_eq_error_iff]
  | field name condition =>
    simp only [ofFilter, map_eq_error_iff, Filter.patterns, Condition.toTest_eq_error_iff]
  | id docId => simp [ofFilter, Filter.patterns, firstUnreadable?]

/-- The parts of a connective have the error of the first pattern among them that cannot be read. -/
private theorem ofFilters_eq_error_iff (filters : List Filter) (error : InvalidPattern) :
    ofFilters filters = .error error ↔
      firstUnreadable? (Filter.listPatterns filters) = some error.pattern := by
  cases filters with
  | nil => simp [ofFilters, Filter.listPatterns, firstUnreadable?]
  | cons part rest =>
    simp only [ofFilters, pair_eq_error_iff, Filter.listPatterns, firstUnreadable?_append,
      exists_ofFilter_iff_patterns part, ofFilter_eq_error_iff_patterns part,
      ofFilters_eq_error_iff rest]

end

end Matcher

/-! ## Patterns of a term -/

/-- A value that asks for instants up to a date, whatever the operator: on a date field, an amount
    of time or the word for the present. -/
def Operand.Forced (rule : Rule) (field : String) (value : Value) : Prop :=
  field ∈ rule.isDate ∧ (Operand.IsRelative value ∨ value = .text Value.nowWord)

/-- A term whose text is a pattern: it has a tilde and a field other than the identifier, and its
    value stands for nothing else there. -/
def Term.IsPattern (rule : Rule) (term : Term) : Prop :=
  ∃ field, term.field = some field ∧ field ≠ Filter.idField ∧ term.operator = .regex ∧
    term.value ≠ .text Value.nullWord ∧ ¬ Operand.Forced rule field term.value

/-- A term whose text is a pattern that cannot be read. -/
def Term.BadPattern (rule : Rule) (term : Term) : Prop :=
  term.IsPattern rule ∧ Pattern.parse? term.value.source = none

/-- A term whose text is searched for as it is, if at all: it is bare or has a colon. -/
def Term.IsLiteral (term : Term) : Prop := term.field = none ∨ term.operator = .contains

section

variable {rule : Rule} {now : Instant} {field : String} {operator : Operator} {value : Value}
  {filter : Filter}

/-- An instant is written neither as an amount of time nor as a word. -/
private theorem Operand.not_forced_of_read? {t : Instant}
    (h : Instant.read? value.source = some t) : ¬ Operand.Forced rule field value := by
  rintro ⟨-, ⟨amount, unit, word, -, hword, rfl⟩ | rfl⟩
  · rw [Value.source, Operand.read?_text hword] at h
    cases h
  · have hnow : Instant.read? Value.nowWord = none := by decide
    rw [Value.source, hnow] at h
    cases h

namespace Filter

/-- The filter of a term with a field: the field is empty, or it meets a condition on the value of
    the term or on a date. -/
theorem ofFullTerm_cases (hid : field ≠ idField)
    (h : ofFullTerm rule now field operator value = .ok filter) :
    value = .text Value.nullWord ∧ filter = null field ∨
      value ≠ .text Value.nullWord ∧ ∃ operator' scalar,
        filter = .field field (condition rule field operator' value.source scalar) ∧
          (scalar = value.toScalar ∨ ∃ t, scalar = .date t) ∧
          (Operand.Forced rule field value ∧ operator' = .lte ∨
            ¬ Operand.Forced rule field value ∧ operator' = operator) := by
  rw [ofFullTerm, if_neg hid] at h
  have hbecomes := Operand.becomes_normalize? rule field operator value now
  generalize Operand.normalize? rule field operator value now = result at h hbecomes
  -- what the value becomes tells which operator the condition has, if there is one
  cases hbecomes with
  | null hnull => exact .inl ⟨hnull, (Except.ok.inj h).symm⟩
  | plain hnull hdate =>
    refine .inr ⟨hnull, operator, _, (Except.ok.inj h).symm, .inl rfl, .inr ⟨?_, rfl⟩⟩
    rintro ⟨hfield, hrelative | hnow⟩
    · exact (hdate hfield).2.1 hrelative
    · exact (hdate hfield).2.2 hnow
  | absolute hnull hfield hread =>
    exact .inr ⟨hnull, operator, _, (Except.ok.inj h).symm, .inr ⟨_, rfl⟩,
      .inr ⟨Operand.not_forced_of_read? hread, rfl⟩⟩
  | @relative amount unit word hfield hfits hword hvalue =>
    have hnull : value ≠ .text Value.nullWord := by
      rw [hvalue]
      exact fun heq => Operand.text_ne_word rfl (Value.text.inj heq)
    have hforced : Operand.Forced rule field value :=
      ⟨hfield, .inl ⟨amount, unit, word, hfits, hword, hvalue⟩⟩
    cases hadd : now.add? amount.value unit with
    | none =>
      rw [hadd] at h
      cases h
    | some t =>
      rw [hadd] at h
      exact .inr ⟨hnull, .lte, _, (Except.ok.inj h).symm, .inr ⟨_, rfl⟩, .inl ⟨hforced, rfl⟩⟩
  | present hfield hvalue =>
    have hnull : value ≠ .text Value.nullWord := by
      rw [hvalue]
      decide
    exact .inr ⟨hnull, .lte, _, (Except.ok.inj h).symm, .inr ⟨_, rfl⟩,
      .inl ⟨⟨hfield, .inr hvalue⟩, rfl⟩⟩

/-- Without a tilde a condition has a pattern only for a colon, and that is a literal text. -/
private theorem eq_escape_of_mem_patterns {source pattern : String} {scalar : Scalar}
    (hoperator : operator ≠ .regex)
    (h : pattern ∈ (Filter.field field (condition rule field operator source scalar)).patterns) :
    operator = .contains ∧ pattern = Pattern.escape source := by
  cases operator with
  | regex => exact absurd rfl hoperator
  | contains =>
    refine ⟨rfl, ?_⟩
    -- a date is compared, and so is a value on a field that is not searched
    cases scalar with
    | date t => cases h
    | number | string =>
      simp only [patterns, condition] at h
      split at h
      · exact List.mem_singleton.mp h
      · cases h
  | _ => cases h

/-- A term whose text is a pattern has no other. -/
private theorem patterns_of_isPattern {term : Term} (h : ofTerm rule now term = .ok filter)
    (hpattern : term.IsPattern rule) : filter.patterns = [term.value.source] := by
  obtain ⟨name, operator, value⟩ := term
  obtain ⟨field, rfl, hid, rfl, hnull, hforced⟩ := hpattern
  rcases ofFullTerm_cases hid h with ⟨hword, -⟩ | ⟨-, operator', scalar, rfl, -, hoperator⟩
  · exact absurd hword hnull
  · rcases hoperator with ⟨hforced', -⟩ | ⟨-, rfl⟩
    · exact absurd hforced' hforced
    · rfl

/-- The patterns of a bare term are its literal text, one for each string field. -/
theorem eq_escape_of_mem_bare {pattern : String} (h : ofBareTerm rule value = .ok filter)
    (hmem : pattern ∈ filter.patterns) : pattern = Pattern.escape value.source := by
  unfold ofBareTerm at h
  split at h
  · cases h
  · obtain rfl := Except.ok.inj h
    obtain ⟨part, hpart, hmem⟩ := mem_listPatterns.mp hmem
    obtain ⟨field, -, rfl⟩ := List.mem_map.mp hpart
    rw [patterns] at hmem
    split at hmem
    · exact List.mem_singleton.mp hmem
    · cases hmem

/-- The patterns of all other terms are literal texts. -/
private theorem patterns_of_not_isPattern {term : Term} (h : ofTerm rule now term = .ok filter)
    (hpattern : ¬ term.IsPattern rule) {pattern : String} (hmem : pattern ∈ filter.patterns) :
    term.IsLiteral ∧ pattern = Pattern.escape term.value.source := by
  obtain ⟨name, operator, value⟩ := term
  cases name with
  | none => exact ⟨.inl rfl, eq_escape_of_mem_bare h hmem⟩
  | some field =>
    have hfull : ofFullTerm rule now field operator value = .ok filter := h
    by_cases hid : field = idField
    · -- an identifier is compared
      rw [ofFullTerm, if_pos hid] at hfull
      split at hfull
      · obtain rfl := Except.ok.inj hfull
        cases hmem
      · cases hfull
    · rcases ofFullTerm_cases hid hfull with
        ⟨-, rfl⟩ | ⟨hnull, operator', scalar, rfl, -, hoperator⟩
      · cases hmem
      · rcases hoperator with ⟨-, rfl⟩ | ⟨hforced, rfl⟩
        · cases (eq_escape_of_mem_patterns (by simp) hmem).1
        · -- a tilde would make the text a pattern
          have htilde : operator' ≠ .regex := fun heq =>
            hpattern ⟨field, rfl, hid, heq, hnull, hforced⟩
          obtain ⟨hcolon, heq⟩ := eq_escape_of_mem_patterns htilde hmem
          exact ⟨.inr hcolon, heq⟩

end Filter

/-! ## The term to blame -/

/-- A literal text can be read, unless it is too long for a pattern. -/
private theorem parse?_escape_ne_none {text : String}
    (h : 32 * text.utf8ByteSize + 32 ≤ Pattern.maxSize) :
    Pattern.parse? (Pattern.escape text) ≠ none := by
  rw [Pattern.parse?_escape (Nat.le_trans (Pattern.size_literals_le text) h)]
  simp

namespace Term

variable {term : Term}

/-- The texts that a term searches for as they are fit into a pattern. -/
def LiteralFits (term : Term) : Prop :=
  term.IsLiteral → 32 * term.value.source.utf8ByteSize + 32 ≤ Pattern.maxSize

/-- A term whose text is no bad pattern has a matcher. -/
private theorem readable_of_not_badPattern (h : Filter.ofTerm rule now term = .ok filter)
    (hfits : term.LiteralFits) (hbad : ¬ term.BadPattern rule) :
    ∀ pattern ∈ filter.patterns, Pattern.parse? pattern ≠ none := by
  intro pattern hmem
  by_cases hpattern : term.IsPattern rule
  · rw [Filter.patterns_of_isPattern h hpattern, List.mem_singleton] at hmem
    rw [hmem]
    exact fun hnone => hbad ⟨hpattern, hnone⟩
  · obtain ⟨hliteral, rfl⟩ := Filter.patterns_of_not_isPattern h hpattern hmem
    exact parse?_escape_ne_none (hfits hliteral)

/-- The filter of a term has no matcher exactly if its text is a bad pattern, and the error names
    the text. -/
private theorem ofFilter_eq_error_iff_badPattern (h : Filter.ofTerm rule now term = .ok filter)
    (hfits : term.LiteralFits) (error : InvalidPattern) :
    Matcher.ofFilter filter = .error error ↔
      term.BadPattern rule ∧ term.value.source = error.pattern := by
  by_cases hbad : term.BadPattern rule
  -- the only pattern of the term is its text
  · rw [Matcher.ofFilter_eq_error_iff_patterns, Filter.patterns_of_isPattern h hbad.1]
    simp [firstUnreadable?, hbad, hbad.2]
  · obtain ⟨matcher, hmatcher⟩ := (Matcher.exists_ofFilter_iff_patterns filter).mpr
      (readable_of_not_badPattern h hfits hbad)
    simp [hmatcher, hbad]

/-- A term has a matcher exactly if its text is no bad pattern. -/
private theorem prepares_iff_not_badPattern (h : term.Compiles rule now)
    (hfits : term.LiteralFits) : term.Prepares rule now ↔ ¬ term.BadPattern rule := by
  obtain ⟨filter, h⟩ := h
  constructor
  · rintro ⟨filter', matcher, h', hmatcher⟩ hbad
    obtain rfl := Except.ok.inj (h.symm.trans h')
    have herror := (ofFilter_eq_error_iff_badPattern h hfits ⟨_⟩).mpr ⟨hbad, rfl⟩
    cases hmatcher.symm.trans herror
  · intro hbad
    obtain ⟨matcher, hmatcher⟩ := (Matcher.exists_ofFilter_iff_patterns filter).mpr
      (readable_of_not_badPattern h hfits hbad)
    exact ⟨filter, matcher, h, hmatcher⟩

end Term

end

/-- A query that has a filter has no matcher exactly if one of its terms has a tilde, a field other
    than the identifier, and a text that is no pattern and stands for nothing else there: not for
    the empty field and, on a date field, neither for an amount of time nor for the present.  The
    error names the text of the leftmost of these terms.  Bare terms and terms with a colon always
    have a matcher, whatever their text is, as long as it is not too long for a pattern. -/
theorem invalid_pattern_source (rule : Rule) (now : Instant) (query : Query) (filter : Filter)
    (hquery : Filter.ofQuery rule now query = .ok filter)
    (hfits : ∀ term ∈ query.terms, term.LiteralFits) :
    (∀ pattern, Matcher.ofFilter filter = .error ⟨pattern⟩ ↔
        LeftmostFails (fun term => ¬ term.BadPattern rule)
          (fun term => term.BadPattern rule ∧ term.value.source = pattern) query.terms) ∧
      ∀ term ∈ query.terms, term.IsLiteral → term.Prepares rule now := by
  have hcompiles := exists_ofQuery_iff.mp ⟨filter, hquery⟩
  refine ⟨fun pattern => ?_, fun term hmem hliteral => ?_⟩
  -- term by term, to have no matcher is to have a bad pattern
  · rw [ofFilter_eq_error_iff hquery]
    refine leftmostFails_congr (fun term hmem => ?_) (fun term hmem => ?_)
    · exact Term.prepares_iff_not_badPattern (hcompiles term hmem) (hfits term hmem)
    · obtain ⟨own, hown⟩ := hcompiles term hmem
      simp only [hown, Except.ok.injEq, exists_eq_left']
      exact Term.ofFilter_eq_error_iff_badPattern hown (hfits term hmem) ⟨pattern⟩
  · refine (Term.prepares_iff_not_badPattern (hcompiles term hmem) (hfits term hmem)).mpr ?_
    rintro ⟨⟨field, hfield, -, htilde, -⟩, -⟩
    -- a bare term has no field, and a colon is no tilde
    rcases hliteral with hbare | hcolon
    · cases hfield.symm.trans hbare
    · cases htilde.symm.trans hcolon

/-- An amount of time with a tilde, an open bracket on its own, and one behind a tilde. -/
def openBrackets : Query :=
  .and (.term ⟨some "due", .regex, .text "+1d"⟩)
    (.or (.term ⟨none, .eq, .text "("⟩) (.term ⟨some "a", .regex, .text "(b"⟩))

/-- Of three texts that are no patterns, only the last is to blame: the first is an amount of time,
    and the second is searched for as it is. -/
theorem invalid_pattern_source_last :
    ∃ filter, Filter.ofQuery ⟨["a"], [], ["due"]⟩ .noon openBrackets = .ok filter ∧
      Matcher.ofFilter filter = .error ⟨"(b"⟩ := by
  have hshort : ∀ term ∈ openBrackets.terms,
      32 * term.value.source.utf8ByteSize + 32 ≤ Pattern.maxSize := by decide
  have hfits : ∀ term ∈ openBrackets.terms, term.LiteralFits := fun term hmem _ =>
    hshort term hmem
  refine ⟨_, rfl, ((invalid_pattern_source ⟨["a"], [], ["due"]⟩ .noon openBrackets _ rfl
    hfits).1 "(b").mpr ⟨[_, _], _, [], rfl, ?_, ?_⟩⟩
  -- the first two terms have no pattern of their own: one is a date, the other a bare term
  · have hforced : Operand.Forced ⟨["a"], [], ["due"]⟩ "due" (.text "+1d") :=
      ⟨by simp, .inl ⟨.ofDigits .plus ['1'] rfl, .days, "d", by decide, by simp [TimeUnit.words],
        rfl⟩⟩
    simp only [List.forall_mem_cons]
    refine ⟨?_, ?_, by simp⟩
    · rintro ⟨⟨field, hfield, -, -, -, hplain⟩, -⟩
      cases hfield
      exact hplain hforced
    · rintro ⟨⟨field, hfield, -⟩, -⟩
      cases hfield
  -- the third has one, and its bracket is never closed
  · exact ⟨⟨⟨"a", rfl, by decide, rfl, by decide, fun hforced => absurd hforced.1 (by simp)⟩,
      by decide +kernel⟩, rfl⟩

end Sift

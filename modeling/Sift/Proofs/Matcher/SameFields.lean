import Sift.Proofs.Filter.BareTerm
import Sift.Proofs.Matcher.InvalidPattern

/-!
# The lists of a rule are sets

Two rules with the same fields in their lists find the same documents for every query, in whatever
order and however often the fields are listed.  The filters differ, since a bare term has a part for
each entry of a list, so they are compared by what becomes of them: `Filter.Equivalent` filters have
matchers that accept the same documents, or no matcher for the same pattern.  Conjunction and
disjunction keep filters equivalent, and of a bare term all patterns are the same text, so it does
not matter which of its parts is read first (`Equivalent.or_of_mem_iff`).
-/

namespace Sift

/-! ## Results that agree -/

/-- Two results are the same error, or two values that stand in a relation. -/
inductive Agree {ε α β : Type} (related : α → β → Prop) : Except ε α → Except ε β → Prop
  | error (e : ε) : Agree related (.error e) (.error e)
  | ok {a : α} {b : β} (h : related a b) : Agree related (.ok a) (.ok b)

namespace Agree

variable {ε α β γ : Type}

/-- A result agrees with itself, if all values are related to themselves. -/
theorem refl {related : α → α → Prop} (hrefl : ∀ a, related a a) (x : Except ε α) :
    Agree related x x := by
  cases x with
  | error e => exact .error e
  | ok a => exact .ok (hrefl a)

/-- Two steps in a row agree with two others if they agree one by one. -/
theorem pair {first : α → α → Prop} {second : β → β → Prop} {both : γ → γ → Prop}
    {x x' : Except ε α} {y y' : Except ε β} {f : α → β → γ} (hx : Agree first x x')
    (hy : Agree second y y')
    (hf : ∀ {a a' b b'}, first a a' → second b b' → both (f a b) (f a' b')) :
    Agree both (do let a ← x; let b ← y; return f a b)
      (do let a ← x'; let b ← y'; return f a b) := by
  cases hx with
  | error e => exact .error e
  | ok ha =>
    -- the second steps are only taken here, on both sides
    cases hy with
    | error e => exact .error e
    | ok hb => exact .ok (hf ha hb)

end Agree

/-! ## Equivalent filters -/

/-- Two matchers accept the same documents. -/
def Matcher.SameDocuments (matcher matcher' : Matcher) : Prop :=
  ∀ document, matcher.accepts document = matcher'.accepts document

/-- A disjunction accepts what one of its parts accepts. -/
private theorem Matcher.accepts_or_iff {parts : List Filter} {matcher : Matcher}
    (h : ofFilter (.or parts) = .ok matcher) (document : Json) :
    matcher.accepts document = true ↔
      ∃ part ∈ parts, ∃ own, ofFilter part = .ok own ∧ own.accepts document = true := by
  rw [ofFilter] at h
  cases hparts : ofFilters parts with
  | error e =>
    rw [hparts] at h
    cases h
  | ok matchers =>
    rw [hparts] at h
    obtain rfl := Except.ok.inj h
    rw [accepts]
    clear h
    -- the matchers stand in the order of the parts
    induction parts generalizing matchers with
    | nil =>
      cases hparts
      simp [acceptsAny]
    | cons part rest ih =>
      rw [ofFilters, pair_eq_ok_iff] at hparts
      obtain ⟨own, others, hown, hothers, rfl⟩ := hparts
      simp [acceptsAny, ih others hothers, hown]

namespace Filter

/-- Two filters have matchers that accept the same documents, or have none for the same pattern. -/
def Equivalent (filter filter' : Filter) : Prop :=
  Agree Matcher.SameDocuments (Matcher.ofFilter filter) (Matcher.ofFilter filter')

variable {parts parts' : List Filter}

namespace Equivalent

/-- A filter is equivalent to itself. -/
theorem refl (filter : Filter) : filter.Equivalent filter :=
  Agree.refl (fun _ _ => rfl) _

variable {left left' right right' : Filter}

/-- Conjunctions of equivalent filters are equivalent. -/
theorem and (hl : left.Equivalent left') (hr : right.Equivalent right') :
    (Filter.and [left, right]).Equivalent (.and [left', right']) := by
  rw [Equivalent, ofFilter_and, ofFilter_and]
  refine hl.pair hr fun hfirst hsecond document => ?_
  simp [Matcher.accepts, Matcher.acceptsAll, hfirst document, hsecond document]

/-- Disjunctions of equivalent filters are equivalent. -/
theorem or (hl : left.Equivalent left') (hr : right.Equivalent right') :
    (Filter.or [left, right]).Equivalent (.or [left', right']) := by
  rw [Equivalent, ofFilter_or, ofFilter_or]
  refine hl.pair hr fun hfirst hsecond document => ?_
  simp [Matcher.accepts, Matcher.acceptsAny, hfirst document, hsecond document]

end Equivalent

/-- The pattern of an error is one of the filter's own. -/
private theorem mem_patterns_of_error {filter : Filter} {error : InvalidPattern}
    (h : Matcher.ofFilter filter = .error error) : error.pattern ∈ filter.patterns :=
  List.mem_of_find?_eq_some ((Matcher.ofFilter_eq_error_iff_patterns filter error).mp h)

/-- Disjunctions of the same parts, in any order and any number, are equivalent if they have no two
    patterns one of which could be reported before the other. -/
private theorem Equivalent.or_of_mem_iff {pattern : String}
    (hmem : ∀ part, part ∈ parts ↔ part ∈ parts')
    (hsingle : ∀ p ∈ (Filter.or parts).patterns, p = pattern) :
    (Filter.or parts).Equivalent (.or parts') := by
  have hpatterns : ∀ p, p ∈ (Filter.or parts).patterns ↔ p ∈ (Filter.or parts').patterns := by
    intro p
    simp only [patterns, mem_listPatterns, hmem]
  -- all patterns of one can be read if all patterns of the other can
  have hreadable : (∃ matcher, Matcher.ofFilter (.or parts) = .ok matcher) ↔
      ∃ matcher, Matcher.ofFilter (.or parts') = .ok matcher := by
    simp only [Matcher.exists_ofFilter_iff_patterns, hpatterns]
  rw [Equivalent]
  cases h : Matcher.ofFilter (.or parts) with
  | error error =>
    cases h' : Matcher.ofFilter (.or parts') with
    | error error' =>
      -- each error names a pattern, and there is only one to name
      have hfirst := hsingle _ (mem_patterns_of_error h)
      have hsecond := hsingle _ ((hpatterns _).mpr (mem_patterns_of_error h'))
      have herror : error = error' := by
        cases error
        cases error'
        exact congrArg InvalidPattern.mk (hfirst.trans hsecond.symm)
      rw [herror]
      exact .error error'
    | ok matcher' => simp [h, h'] at hreadable
  | ok matcher =>
    cases h' : Matcher.ofFilter (.or parts') with
    | error error' => simp [h, h'] at hreadable
    | ok matcher' =>
      -- a part that accepts the document is found wherever it stands
      refine .ok fun document => ?_
      rw [Bool.eq_iff_iff, Matcher.accepts_or_iff h, Matcher.accepts_or_iff h']
      simp only [hmem]

end Filter

/-! ## Rules with the same fields -/

/-- Two rules list the same fields, in any order and any number of times. -/
structure Rule.SameFields (rule rule' : Rule) : Prop where
  anyOf : ∀ field, field ∈ rule.anyOf ↔ field ∈ rule'.anyOf
  isString : ∀ field, field ∈ rule.isString ↔ field ∈ rule'.isString
  isDate : ∀ field, field ∈ rule.isDate ↔ field ∈ rule'.isDate

/-- Lists with the same members are empty together. -/
private theorem eq_nil_iff_of_mem_iff {fields fields' : List String}
    (h : ∀ field, field ∈ fields ↔ field ∈ fields') : fields = [] ↔ fields' = [] := by
  simp only [List.eq_nil_iff_forall_not_mem, h]

namespace Rule.SameFields

variable {rule rule' : Rule} (h : rule.SameFields rule')

include h

/-- The string fields are the same, also where none are listed and so all are. -/
private theorem hasString_eq (field : String) : rule.hasString field = rule'.hasString field := by
  rw [Bool.eq_iff_iff]
  simp only [hasString, Bool.or_eq_true, List.isEmpty_iff, List.contains_iff_mem,
    eq_nil_iff_of_mem_iff h.isString, h.isString]

/-- The date fields are the same. -/
private theorem hasDate_eq (field : String) : rule.hasDate field = rule'.hasDate field := by
  rw [Bool.eq_iff_iff]
  simp only [hasDate, List.contains_iff_mem, h.isDate]

/-- The default fields have the same members. -/
private theorem mem_defaultFields_iff (field : String) :
    field ∈ rule.defaultFields ↔ field ∈ rule'.defaultFields := by
  simp only [defaultFields, List.isEmpty_iff, eq_nil_iff_of_mem_iff h.anyOf]
  split
  · exact h.isString field
  · exact h.anyOf field

/-! ## What a query finds -/

/-- What a plain value asks of a field is the same. -/
private theorem plainPart_eq (value : Value) :
    Filter.plainPart rule value = Filter.plainPart rule' value := by
  funext field
  rw [Filter.plainPart, Filter.plainPart, h.hasString_eq]

/-- The filter of a term with a field is the very same. -/
private theorem ofFullTerm_eq (now : Instant) (field : String) (operator : Operator)
    (value : Value) :
    Filter.ofFullTerm rule now field operator value =
      Filter.ofFullTerm rule' now field operator value := by
  have hnormal : Operand.normalize? rule field operator value now =
      Operand.normalize? rule' field operator value now := by
    unfold Operand.normalize?
    rw [h.hasDate_eq]
  have hcondition : ∀ operator source scalar, Filter.condition rule field operator source scalar =
      Filter.condition rule' field operator source scalar := by
    intro operator source scalar
    unfold Filter.condition
    rw [h.hasString_eq]
  -- the rule is asked nothing else
  unfold Filter.ofFullTerm
  simp only [hnormal, hcondition]

/-- A bare term has the same parts, and its own text for their only pattern. -/
private theorem ofBareTerm_agree (value : Value) :
    Agree Filter.Equivalent (Filter.ofBareTerm rule value) (Filter.ofBareTerm rule' value) := by
  have hempty := eq_nil_iff_of_mem_iff h.mem_defaultFields_iff
  by_cases hfields : rule.defaultFields = []
  · unfold Filter.ofBareTerm
    rw [hfields, hempty.mp hfields]
    exact .error _
  · have hbare := @Filter.ofBareTerm_eq rule value hfields
    -- the parts are the images of the default fields under one function
    rw [hbare, Filter.ofBareTerm_eq fun hnil => hfields (hempty.mpr hnil), ← h.plainPart_eq]
    refine .ok (Filter.Equivalent.or_of_mem_iff (fun part => ?_)
      fun _ hmem => Filter.eq_escape_of_mem_bare hbare hmem)
    simp only [List.mem_map, h.mem_defaultFields_iff]

/-- A term has equivalent filters, or the same error. -/
private theorem ofTerm_agree (now : Instant) (term : Term) :
    Agree Filter.Equivalent (Filter.ofTerm rule now term) (Filter.ofTerm rule' now term) := by
  unfold Filter.ofTerm
  cases term.field with
  | none => exact h.ofBareTerm_agree term.value
  | some field =>
    dsimp only
    rw [h.ofFullTerm_eq]
    exact Agree.refl Filter.Equivalent.refl _

/-- A query has equivalent filters, or the same error. -/
private theorem ofQuery_agree (now : Instant) (query : Query) :
    Agree Filter.Equivalent (Filter.ofQuery rule now query) (Filter.ofQuery rule' now query) := by
  induction query with
  | term term => exact h.ofTerm_agree now term
  | and left right ihl ihr => exact ihl.pair ihr fun hl hr => hl.and hr
  | or left right ihl ihr => exact ihl.pair ihr fun hl hr => hl.or hr
  | group inner ih => exact ih

end Rule.SameFields

/-- Under two rules that list the same fields, in any order and any number of times, every text has
    filters or has the same error.  The filters have matchers that accept the same documents, or
    there is none for the same pattern. -/
theorem rule_lists_are_sets (rule rule' : Rule) (h : rule.SameFields rule') (now : Instant)
    (text : String) :
    Agree Filter.Equivalent (Filter.compile rule now text) (Filter.compile rule' now text) := by
  unfold Filter.compile
  cases Query.parse text with
  | error error => exact .error _
  | ok query => exact h.ofQuery_agree now query

/-- A bare term over three entries against two, beside a pattern that cannot be read: the filters
    have other patterns, and still are equivalent. -/
theorem rule_lists_are_sets_repeated_field :
    ∃ filter filter',
      Filter.compile ⟨["a", "b", "a"], ["a", "b"], ["due"]⟩ .noon "x (b~\"(\" OR due<NOW)" =
        .ok filter ∧
      Filter.compile ⟨["b", "a"], ["b", "a", "b"], ["due", "due"]⟩ .noon
        "x (b~\"(\" OR due<NOW)" = .ok filter' ∧
      filter.patterns ≠ filter'.patterns ∧ filter.Equivalent filter' := by
  have hagree := rule_lists_are_sets ⟨["a", "b", "a"], ["a", "b"], ["due"]⟩
    ⟨["b", "a"], ["b", "a", "b"], ["due", "due"]⟩ ⟨by simp [or_comm], by simp [or_comm], by simp⟩
    .noon "x (b~\"(\" OR due<NOW)"
  refine ⟨_, _, rfl, rfl, by decide, ?_⟩
  cases hagree with
  | ok h => exact h

end Sift

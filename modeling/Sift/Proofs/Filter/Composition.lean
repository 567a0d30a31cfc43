import Sift.Filter.Compile
import Sift.Matcher
import Sift.Proofs.Except
import Sift.Proofs.Instant.Shift

/-!
# Queries are made of their terms

A query goes through three passes over its tree: it is compiled to a filter, the patterns of the
filter are read, and the matcher runs on documents.  Each pass does on the whole what it does on
the terms one by one.  A pass that can fail fails with the error of the leftmost term it fails on
(`ofQuery_eq_error_iff`, `ofFilter_eq_error_iff`), and a document is accepted if the query is true
of it, as a Boolean combination of its terms (`accepts_eq_holds`).
-/

namespace Sift

/-! ## Terms of a query -/

namespace Query

/-- The terms of a query, from left to right. -/
def terms : Query → List Term
  | .term t => [t]
  | .and left right => left.terms ++ right.terms
  | .or left right => left.terms ++ right.terms
  | .group inner => inner.terms

/-- The truth of a query, given that of its terms. -/
def holds (value : Term → Bool) : Query → Bool
  | .term t => value t
  | .and left right => left.holds value && right.holds value
  | .or left right => left.holds value || right.holds value
  | .group inner => inner.holds value

end Query

/-- Among some terms there is one that fails, and all those to the left of it are good. -/
def LeftmostFails (good fails : Term → Prop) (terms : List Term) : Prop :=
  ∃ before term after, terms = before ++ term :: after ∧ (∀ t ∈ before, good t) ∧ fails term

section

variable {good fails : Term → Prop}

/-- A single term is the leftmost one. -/
private theorem leftmostFails_singleton {term : Term} :
    LeftmostFails good fails [term] ↔ fails term := by
  constructor
  · rintro ⟨before, t, after, heq, -, hfails⟩
    obtain ⟨-, rfl, -⟩ : before = [] ∧ term = t ∧ after = [] := by
      cases before with
      | nil => simpa using heq
      | cons t' before => simp at heq
    exact hfails
  · intro hfails
    exact ⟨[], term, [], rfl, by simp, hfails⟩

/-- The right part of a row of terms is reached only if the whole left part is good. -/
private theorem leftmostFails_append {left right : List Term} :
    LeftmostFails good fails (left ++ right) ↔
      LeftmostFails good fails left ∨ (∀ t ∈ left, good t) ∧ LeftmostFails good fails right := by
  constructor
  · rintro ⟨before, term, after, heq, hgood, hfails⟩
    rcases List.append_eq_append_iff.mp heq with ⟨mid, rfl, hright⟩ | ⟨mid, rfl, hmid⟩
    · -- the term that fails stands on the right
      refine .inr ⟨fun t ht => hgood t (by simp [ht]), mid, term, after, hright, ?_, hfails⟩
      exact fun t ht => hgood t (by simp [ht])
    · -- it stands on the left, unless `before` is the whole left part
      cases mid with
      | nil =>
        refine .inr ⟨by simpa using hgood, [], term, after, hmid.symm, by simp, hfails⟩
      | cons t mid =>
        obtain ⟨rfl, -⟩ := List.cons.inj hmid
        exact .inl ⟨before, term, mid, rfl, hgood, hfails⟩
  · rintro (⟨before, term, after, rfl, hgood, hfails⟩ |
      ⟨hleft, before, term, after, rfl, hgood, hfails⟩)
    · exact ⟨before, term, after ++ right, by simp, hgood, hfails⟩
    · refine ⟨left ++ before, term, after, by simp, ?_, hfails⟩
      intro t ht
      rcases List.mem_append.mp ht with ht | ht
      · exact hleft t ht
      · exact hgood t ht

/-- Only what the terms in the row do counts. -/
theorem leftmostFails_congr {good' fails' : Term → Prop} {terms : List Term}
    (hgood : ∀ t ∈ terms, good t ↔ good' t) (hfails : ∀ t ∈ terms, fails t ↔ fails' t) :
    LeftmostFails good fails terms ↔ LeftmostFails good' fails' terms := by
  refine exists_congr fun before => exists_congr fun term => exists_congr fun after => ?_
  refine and_congr_right fun hterms => ?_
  subst hterms
  exact and_congr (forall_congr' fun t => imp_congr_right fun ht => hgood t (by simp [ht]))
    (hfails term (by simp))

end

/-! ## Compiling -/

namespace Term

variable (rule : Rule) (now : Instant)

/-- A term that has a filter. -/
def Compiles (term : Term) : Prop := ∃ filter, Filter.ofTerm rule now term = .ok filter

/-- A term that has a filter, which has a matcher. -/
def Prepares (term : Term) : Prop :=
  ∃ filter matcher, Filter.ofTerm rule now term = .ok filter ∧
    Matcher.ofFilter filter = .ok matcher

/-- Whether the matcher of a term, on its own, accepts a document. -/
def accepts (document : Json) (term : Term) : Bool :=
  match Filter.ofTerm rule now term with
  | .ok filter =>
    match Matcher.ofFilter filter with
    | .ok matcher => matcher.accepts document
    | .error _ => false
  | .error _ => false

end Term

section

variable {rule : Rule} {now : Instant} {query : Query}

/-- A query has a filter exactly if each of its terms has one. -/
theorem exists_ofQuery_iff :
    (∃ filter, Filter.ofQuery rule now query = .ok filter) ↔
      ∀ term ∈ query.terms, term.Compiles rule now := by
  induction query with
  | term t => simp [Filter.ofQuery, Query.terms, Term.Compiles]
  | and left right ihl ihr | or left right ihl ihr =>
    simp only [Filter.ofQuery, exists_pair_eq_ok_iff, Query.terms, List.forall_mem_append, ihl, ihr]
  | group inner ih => exact ih

/-- A query that cannot be compiled has the error of the leftmost term that cannot. -/
theorem ofQuery_eq_error_iff {error : QueryError} :
    Filter.ofQuery rule now query = .error error ↔
      LeftmostFails (Term.Compiles rule now)
        (fun term => Filter.ofTerm rule now term = .error error) query.terms := by
  induction query with
  | term t =>
    rw [Query.terms, leftmostFails_singleton]
    rfl
  | and left right ihl ihr | or left right ihl ihr =>
    -- the right side is compiled only where the left side is, so where all terms on the left are
    simp only [Filter.ofQuery, pair_eq_error_iff, Query.terms, leftmostFails_append, ← ihl, ← ihr,
      exists_ofQuery_iff]
  | group inner ih => exact ih

/-! ## Reading patterns -/

/-- The matchers of two filters are made one after the other. -/
private theorem ofFilters_pair (left right : Filter) :
    Matcher.ofFilters [left, right] =
      (do let l ← Matcher.ofFilter left
          let r ← Matcher.ofFilter right
          return [l, r]) := by
  simp only [Matcher.ofFilters]
  cases Matcher.ofFilter left <;> cases Matcher.ofFilter right <;> rfl

/-- The matcher of a conjunction is made from those of its parts. -/
theorem ofFilter_and (left right : Filter) :
    Matcher.ofFilter (.and [left, right]) =
      (do let l ← Matcher.ofFilter left
          let r ← Matcher.ofFilter right
          return .all [l, r]) := by
  simp only [Matcher.ofFilter, ofFilters_pair, bind_assoc, pure_bind]

/-- The matcher of a disjunction is made from those of its parts. -/
theorem ofFilter_or (left right : Filter) :
    Matcher.ofFilter (.or [left, right]) =
      (do let l ← Matcher.ofFilter left
          let r ← Matcher.ofFilter right
          return .any [l, r]) := by
  simp only [Matcher.ofFilter, ofFilters_pair, bind_assoc, pure_bind]

/-- The filter of a query has a matcher exactly if that of each of its terms has one. -/
private theorem exists_ofFilter_iff {filter : Filter}
    (h : Filter.ofQuery rule now query = .ok filter) :
    (∃ matcher, Matcher.ofFilter filter = .ok matcher) ↔
      ∀ term ∈ query.terms, term.Prepares rule now := by
  induction query generalizing filter with
  | term t =>
    -- the filter of the whole query is the term's own
    have hterm : Filter.ofTerm rule now t = .ok filter := h
    simp [Query.terms, Term.Prepares, hterm]
  | and left right ihl ihr | or left right ihl ihr =>
    -- both sides have filters, and the matcher of the whole is made from theirs
    obtain ⟨l, r, hl, hr, rfl⟩ := pair_eq_ok_iff.mp h
    simp only [ofFilter_and, ofFilter_or, exists_pair_eq_ok_iff, Query.terms,
      List.forall_mem_append, ihl hl, ihr hr]
  | group inner ih => exact ih h

/-- A filter whose patterns cannot be read has the error of the leftmost term whose own cannot. -/
theorem ofFilter_eq_error_iff {filter : Filter} {error : InvalidPattern}
    (h : Filter.ofQuery rule now query = .ok filter) :
    Matcher.ofFilter filter = .error error ↔
      LeftmostFails (Term.Prepares rule now)
        (fun term => ∃ own, Filter.ofTerm rule now term = .ok own ∧
          Matcher.ofFilter own = .error error) query.terms := by
  induction query generalizing filter with
  | term t =>
    have hterm : Filter.ofTerm rule now t = .ok filter := h
    simp [Query.terms, leftmostFails_singleton, hterm]
  | and left right ihl ihr | or left right ihl ihr =>
    -- as in compiling, the right side is reached only where the left side has a matcher
    obtain ⟨l, r, hl, hr, rfl⟩ := pair_eq_ok_iff.mp h
    simp only [ofFilter_and, ofFilter_or, pair_eq_error_iff, Query.terms, leftmostFails_append,
      ← ihl hl, ← ihr hr, exists_ofFilter_iff hl]
  | group inner ih => exact ih h

/-! ## Matching -/

/-- A matcher accepts a document if the query is true of it. -/
theorem accepts_eq_holds {filter : Filter} {matcher : Matcher}
    (h : Filter.ofQuery rule now query = .ok filter) (hm : Matcher.ofFilter filter = .ok matcher)
    (document : Json) :
    matcher.accepts document = query.holds (Term.accepts rule now document) := by
  induction query generalizing filter matcher with
  | term t =>
    have hterm : Filter.ofTerm rule now t = .ok filter := h
    simp [Query.holds, Term.accepts, hterm, hm]
  | and left right ihl ihr | or left right ihl ihr =>
    obtain ⟨l, r, hl, hr, rfl⟩ := pair_eq_ok_iff.mp h
    -- the matcher has a part for each side, and accepts as the connective says
    simp only [ofFilter_and, ofFilter_or, pair_eq_ok_iff] at hm
    obtain ⟨a, b, ha, hb, rfl⟩ := hm
    simp [Matcher.accepts, Matcher.acceptsAll, Matcher.acceptsAny, Query.holds, ihl hl ha,
      ihr hr hb]
  | group inner ih => exact ih h hm

end

/-- A query has a filter exactly if each of its terms has one, and else the error of the leftmost
    term without.  The filter has a matcher exactly if that of each term has one, and else the error
    of the leftmost term whose filter has none.  The matcher accepts the documents of which the
    query is true, where a term is true of the documents that it accepts on its own. -/
theorem query_compositional (rule : Rule) (now : Instant) (query : Query) :
    ((∃ filter, Filter.ofQuery rule now query = .ok filter) ↔
        ∀ term ∈ query.terms, term.Compiles rule now) ∧
      (∀ error, Filter.ofQuery rule now query = .error error ↔
        LeftmostFails (Term.Compiles rule now)
          (fun term => Filter.ofTerm rule now term = .error error) query.terms) ∧
      ∀ filter, Filter.ofQuery rule now query = .ok filter →
        ((∃ matcher, Matcher.ofFilter filter = .ok matcher) ↔
            ∀ term ∈ query.terms, term.Prepares rule now) ∧
          (∀ error, Matcher.ofFilter filter = .error error ↔
            LeftmostFails (Term.Prepares rule now)
              (fun term => ∃ own, Filter.ofTerm rule now term = .ok own ∧
                Matcher.ofFilter own = .error error) query.terms) ∧
          ∀ matcher, Matcher.ofFilter filter = .ok matcher → ∀ document,
            matcher.accepts document = query.holds (Term.accepts rule now document) :=
  ⟨exists_ofQuery_iff, fun _ => ofQuery_eq_error_iff, fun _ h =>
    ⟨exists_ofFilter_iff h, fun _ => ofFilter_eq_error_iff h, fun _ hm => accepts_eq_holds h hm⟩⟩

/-- A conjunction with a bracket around a disjunction, on a document that meets its last term. -/
theorem query_compositional_group :
    ∃ filter matcher,
      Filter.ofQuery ⟨[], [], []⟩ .noon (.and (.term ⟨some "a", .eq, .text "x"⟩)
          (.group (.or (.term ⟨some "b", .gt, .text "y"⟩) (.term ⟨some "c", .eq, .text "NULL"⟩)))) =
        .ok filter ∧
      Matcher.ofFilter filter = .ok matcher ∧
      matcher.accepts (.object [("a", .string "x"), ("c", .string "")]) = true :=
  ⟨_, _, rfl, rfl,
    ((query_compositional ⟨[], [], []⟩ .noon (.and (.term ⟨some "a", .eq, .text "x"⟩)
      (.group (.or (.term ⟨some "b", .gt, .text "y"⟩)
        (.term ⟨some "c", .eq, .text "NULL"⟩))))).2.2 _ rfl).2.2 _ rfl _⟩

end Sift

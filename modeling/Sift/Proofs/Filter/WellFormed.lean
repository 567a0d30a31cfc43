import Sift.Proofs.Filter.BareTerm
import Sift.Proofs.Filter.Printer
import Sift.Proofs.Matcher.InvalidPattern
import Sift.Proofs.Query.RoundTrip

/-!
# Filters of texts are well formed

Filters may be of any shape, but those that texts are compiled to are not: connectives are never
empty, a missing field is only asked for beside an empty one, and numbers are the finite ones that
digits write (`Filter.WellFormed`).  All but the last is the compiler's doing.  That the numbers are
finite is the grammar's, which makes values from tokens only (`exists_token_of_parse`), so it does
not hold of the filters of other queries.
-/

namespace Sift

/-! ## Numbers -/

/-- A JSON value that is a number, and neither a text nor null in the place of one. -/
def Json.IsNumber : Json → Prop
  | .int _ => True
  | .float x => x.isFinite = true
  | _ => False

/-- A scalar that is no number, or else a finite one without a minus sign. -/
def Scalar.IsUnsigned : Scalar → Prop
  | .number x => ∃ rank, x = .finite false rank
  | .string _ => True
  | .date _ => True

/-- A finite number is written as a number. -/
private theorem Number.isNumber_toJson {x : Number} (h : x.isFinite = true) :
    x.toJson.IsNumber := by
  rcases Number.toJson_of_isFinite h with ⟨n, -, hjson⟩ | hjson
  · rw [hjson]
    trivial
  · rw [hjson]
    exact h

/-- A finite quotient has the sign that it was given. -/
private theorem Number.exists_rank_of_isFinite {negative : Bool} {num den : Nat}
    (h : (Number.ofRatio negative num den).isFinite = true) :
    ∃ rank, Number.ofRatio negative num den = .finite negative rank := by
  unfold Number.ofRatio at h ⊢
  dsimp only at h ⊢
  split
  · exact ⟨_, rfl⟩
  · rename_i hrank
    rw [dif_neg hrank] at h
    cases h

/-- Tokens write no signs, and too many digits for a finite number are no number. -/
private theorem Value.isUnsigned_ofToken (token : String) :
    (Value.ofToken token).toScalar.IsUnsigned := by
  unfold Value.ofToken
  split
  · dsimp only
    split
    · rename_i hfinite
      exact Number.exists_rank_of_isFinite hfinite
    · trivial
  · trivial

/-- All values of a text's query are made from tokens. -/
theorem Query.exists_token_of_parse {text : String} {query : Query}
    (h : Query.parse text = .ok query) :
    ∀ term ∈ query.terms, ∃ token, term.value = .ofToken token := by
  obtain ⟨⟨spelling, -, rfl⟩, -⟩ := (Query.parse_eq_ok_iff.mp h).exists_spelling
  clear h
  -- on the spelling of the query, which has a token for the value of each term
  induction spelling with
  | term t =>
    simp only [Spelling.query, Query.terms, List.mem_singleton, forall_eq]
    cases t with
    | bare value => exact ⟨_, rfl⟩
    | full field operator value => exact ⟨_, rfl⟩
  | and left right ihl ihr | or left right ihl ihr =>
    simp only [Spelling.query, Query.terms, List.forall_mem_append]
    exact ⟨ihl, ihr⟩
  | group inner ih => exact ih

/-! ## Filters inside a filter -/

namespace Filter

/-- The filters that a connective joins. -/
def branches : Filter → List Filter
  | .and parts => parts
  | .or parts => parts
  | .field _ _ => []
  | .id _ => []

/-- A filter that stands in another, at any depth. -/
inductive Inside (inner : Filter) : Filter → Prop
  | here : Inside inner inner
  | branch {filter part : Filter} (hmem : part ∈ filter.branches) (h : Inside inner part) :
      Inside inner filter

/-- What holds of all that stands in the filter of a text. -/
structure WellFormed (filter : Filter) : Prop where
  /-- A conjunction has two parts. -/
  and_pair : ∀ {parts}, Inside (.and parts) filter → parts.length = 2
  /-- A disjunction has a part. -/
  or_nonempty : ∀ {parts}, Inside (.or parts) filter → parts ≠ []
  /-- The filter as a whole does not ask whether a field is there. -/
  ne_exists : ∀ name value, filter ≠ .field name (.exists value)
  /-- A part that asks whether a field is there asks whether it is missing, and is the second of two
      parts of a disjunction, after the question whether the same field is the empty string. -/
  exists_null : ∀ {parent name value}, Inside parent filter →
    .field name (.exists value) ∈ parent.branches →
      value = false ∧ parent = .or [equals name (.string ""), .field name (.exists false)]
  /-- A number is finite and has no minus sign, and it is written as a number. -/
  number : ∀ {name comparison x}, Inside (.field name (.compare comparison (.number x))) filter →
    (∃ rank, x = .finite false rank) ∧ x.toJson.IsNumber

/-- What a filter must be at its top to be well formed, if its branches are. -/
def TopFormed : Filter → Prop
  | .and parts => parts.length = 2
  | .or parts => parts ≠ []
  | .field _ (.compare _ scalar) => scalar.IsUnsigned
  | .field _ (.regex _) => True
  | .field _ (.exists _) => False
  | .id _ => True

namespace WellFormed

/-- A filter is well formed if its branches are and its top is. -/
private theorem of_branches {filter : Filter} (htop : filter.TopFormed)
    (hbranches : ∀ part ∈ filter.branches, part.WellFormed) : filter.WellFormed where
  and_pair h := by
    cases h with
    | here => exact htop
    | branch hmem h => exact (hbranches _ hmem).and_pair h
  or_nonempty h := by
    cases h with
    | here => exact htop
    | branch hmem h => exact (hbranches _ hmem).or_nonempty h
  ne_exists name value := by
    rintro rfl
    exact htop
  exists_null h hexists := by
    cases h with
    -- a branch that is well formed by itself does not ask whether a field is there
    | here => exact absurd rfl ((hbranches _ hexists).ne_exists _ _)
    | branch hmem h => exact (hbranches _ hmem).exists_null h hexists
  number h := by
    cases h with
    | here =>
      obtain ⟨rank, rfl⟩ := htop
      exact ⟨⟨rank, rfl⟩, Number.isNumber_toJson rfl⟩
    | branch hmem h => exact (hbranches _ hmem).number h

/-- A condition on a field has no branches. -/
theorem field {name : String} {condition : Condition}
    (htop : (Filter.field name condition).TopFormed) : (Filter.field name condition).WellFormed :=
  of_branches htop (by simp [branches])

/-- Nor has an identifier. -/
theorem id (docId : DocumentId) : (Filter.id docId).WellFormed :=
  of_branches trivial (by simp [branches])

/-- A conjunction of two well-formed filters is well formed. -/
theorem and {left right : Filter} (hl : left.WellFormed) (hr : right.WellFormed) :
    (Filter.and [left, right]).WellFormed :=
  of_branches rfl (by simp [branches, hl, hr])

/-- A disjunction of well-formed filters is well formed, if it has any. -/
theorem or {parts : List Filter} (hne : parts ≠ []) (hparts : ∀ part ∈ parts, part.WellFormed) :
    (Filter.or parts).WellFormed :=
  of_branches hne hparts

end WellFormed

/-- Nothing but its two parts stands in the filter of an empty field. -/
private theorem eq_of_inside_null {inner : Filter} {name : String} (h : Inside inner (null name)) :
    inner = null name ∨ inner = equals name (.string "") ∨ inner = .field name (.exists false) := by
  cases h with
  | here => exact .inl rfl
  | branch hmem h =>
    simp only [null, branches, List.mem_cons, List.not_mem_nil, or_false] at hmem
    -- neither part has branches of its own
    rcases hmem with rfl | rfl
    · cases h with
      | here => exact .inr (.inl rfl)
      | branch hmem h => cases hmem
    · cases h with
      | here => exact .inr (.inr rfl)
      | branch hmem h => cases hmem

/-- The filter of an empty field is well formed as a whole, though its second part alone is not. -/
theorem WellFormed.null (name : String) : (null name).WellFormed where
  and_pair h := by rcases eq_of_inside_null h with h | h | h <;> cases h
  -- the disjunction has two parts
  or_nonempty h := by
    rcases eq_of_inside_null h with h | h | h
    · cases h
      simp
    · cases h
    · cases h
  ne_exists name' value h := by cases h
  exists_null h hexists := by
    -- the condition that a field is missing stands only in the disjunction
    rcases eq_of_inside_null h with rfl | rfl | rfl
    · simp only [Filter.null, branches, equals, List.mem_cons, List.not_mem_nil, or_false,
        Filter.field.injEq, reduceCtorEq, and_false, false_or, Condition.exists.injEq] at hexists
      obtain ⟨rfl, rfl⟩ := hexists
      exact ⟨rfl, rfl⟩
    · cases hexists
    · cases hexists
  number h := by rcases eq_of_inside_null h with h | h | h <;> cases h

/-! ## Filters of terms and queries -/

section

variable {rule : Rule} {now : Instant} {filter : Filter}

/-- A condition compares with its scalar, if it compares at all. -/
private theorem topFormed_condition {scalar : Scalar} (h : scalar.IsUnsigned) (rule : Rule)
    (field : String) (operator : Operator) (source : String) :
    (Filter.field field (condition rule field operator source scalar)).TopFormed := by
  cases operator with
  | contains =>
    -- on a string field a colon drops the scalar for a pattern, unless it is a date
    cases scalar with
    | date t => trivial
    | number | string =>
      unfold condition
      dsimp only
      split
      · trivial
      · exact h
  | regex => trivial
  | gte | gt | lte | lt | eq => exact h

/-- What a plain value asks of one field is well formed. -/
private theorem wellFormed_plainPart {value : Value} (h : value.toScalar.IsUnsigned) (rule : Rule)
    (field : String) : (plainPart rule value field).WellFormed := by
  rw [plainPart, ← condition_contains]
  exact .field (topFormed_condition h rule field .contains value.source)

/-- The filter of a term is well formed if its value has no number but an unsigned one. -/
private theorem wellFormed_of_ofTerm {term : Term} (h : ofTerm rule now term = .ok filter)
    (hvalue : term.value.toScalar.IsUnsigned) : filter.WellFormed := by
  obtain ⟨name, operator, value⟩ := term
  cases name with
  | none =>
    have hbare : ofBareTerm rule value = .ok filter := h
    -- without default fields there is no filter
    have hfields : rule.defaultFields ≠ [] := by
      intro hnil
      rw [ofBareTerm, hnil] at hbare
      cases hbare
    rw [ofBareTerm_eq hfields] at hbare
    obtain rfl := Except.ok.inj hbare
    refine .or (by simpa using hfields) fun part hpart => ?_
    obtain ⟨field, -, rfl⟩ := List.mem_map.mp hpart
    exact wellFormed_plainPart hvalue rule field
  | some field =>
    have hfull : ofFullTerm rule now field operator value = .ok filter := h
    by_cases hid : field = idField
    · -- the identifier is neither normalised nor compared
      rw [ofFullTerm, if_pos hid] at hfull
      split at hfull
      · obtain rfl := Except.ok.inj hfull
        exact .id _
      · cases hfull
    -- what is left is the question for an empty field, or a comparison with a scalar
    · rcases ofFullTerm_cases hid hfull with ⟨-, rfl⟩ | ⟨-, operator', scalar, rfl, hscalar, -⟩
      · exact .null field
      · have hunsigned : scalar.IsUnsigned := by
          rcases hscalar with rfl | ⟨t, rfl⟩
          · exact hvalue
          · trivial
        exact .field (topFormed_condition hunsigned rule field operator' value.source)

/-- The filter of a query is well formed if its terms have no numbers but unsigned ones. -/
private theorem wellFormed_of_ofQuery {query : Query} (h : ofQuery rule now query = .ok filter)
    (hvalues : ∀ term ∈ query.terms, term.value.toScalar.IsUnsigned) : filter.WellFormed := by
  induction query generalizing filter with
  | term term => exact wellFormed_of_ofTerm h (hvalues term (by simp [Query.terms]))
  | and left right ihl ihr =>
    obtain ⟨l, r, hl, hr, rfl⟩ := pair_eq_ok_iff.mp h
    rw [Query.terms, List.forall_mem_append] at hvalues
    exact .and (ihl hl hvalues.1) (ihr hr hvalues.2)
  | or left right ihl ihr =>
    obtain ⟨l, r, hl, hr, rfl⟩ := pair_eq_ok_iff.mp h
    rw [Query.terms, List.forall_mem_append] at hvalues
    exact .or (by simp) (by simp [ihl hl hvalues.1, ihr hr hvalues.2])
  | group inner ih => exact ih h hvalues

end

end Filter

/-- In the filter that a text is compiled to, under any rule and at any time, conjunctions have two
    parts and disjunctions at least one.  No part asks for a field to be there.  One that asks for a
    field to be missing is the second of two parts of a disjunction, of which the first asks for the
    same field to be the empty string.  Numbers are finite and not negative, so they are written as
    JSON numbers. -/
theorem compiled_filter_wellFormed (rule : Rule) (now : Instant) (text : String) (filter : Filter)
    (h : Filter.compile rule now text = .ok filter) : filter.WellFormed := by
  unfold Filter.compile at h
  cases hparse : Query.parse text with
  | error error =>
    rw [hparse] at h
    cases h
  | ok query =>
    rw [hparse] at h
    refine Filter.wellFormed_of_ofQuery h fun term hterm => ?_
    obtain ⟨token, hvalue⟩ := Query.exists_token_of_parse hparse term hterm
    rw [hvalue]
    exact Value.isUnsigned_ofToken token

/-- A bare number over two fields, beside the question for an empty field. -/
theorem compiled_filter_wellFormed_null :
    ∃ filter, Filter.compile ⟨["a", "b"], ["a"], []⟩ .noon "1.5 (c=NULL OR d>20)" = .ok filter ∧
      filter.WellFormed := by
  have hok : (Filter.compile ⟨["a", "b"], ["a"], []⟩ .noon "1.5 (c=NULL OR d>20)").isOk = true := by
    decide +kernel
  cases hfilter : Filter.compile ⟨["a", "b"], ["a"], []⟩ .noon "1.5 (c=NULL OR d>20)" with
  | error error =>
    rw [hfilter] at hok
    cases hok
  | ok filter => exact ⟨filter, rfl, compiled_filter_wellFormed _ _ _ filter hfilter⟩

end Sift

import Mathlib.Data.List.Forall2
import Sift.Proofs.Filter.Contains

/-!
# Bare terms

A bare term searches the default fields of its rule.  On each of them it does what a term with a
colon does there when the field holds no dates (`ofFullTerm_contains`), and nothing else: no word
and no date has a meaning in it, so neither the date fields of the rule nor the present matter to it
(`bare_term_disjunction`).
-/

namespace Sift

namespace Filter

variable {rule : Rule} {field : String} {value : Value}

/-- What a plain value asks of one field: to have the value in its text, or to equal it. -/
def plainPart (rule : Rule) (value : Value) (field : String) : Filter :=
  .field field <|
    if rule.hasString field then substring value.source else .compare .eq value.toScalar

/-- A bare term has a part for each default field, in their order. -/
theorem ofBareTerm_eq (h : rule.defaultFields ≠ []) :
    ofBareTerm rule value = .ok (.or (rule.defaultFields.map (plainPart rule value))) := by
  unfold ofBareTerm
  cases hfields : rule.defaultFields with
  | nil => exact absurd hfields h
  | cons field fields => rfl

/-- A colon on a field without dates takes every value as it is, but the word for an empty field. -/
private theorem ofFullTerm_contains (hid : field ≠ idField) (hdate : field ∉ rule.isDate)
    (hnull : value ≠ .text Value.nullWord) (now : Instant) :
    ofFullTerm rule now field .contains value = .ok (plainPart rule value field) := by
  have hword : value.isWord Value.nullWord = false :=
    Bool.eq_false_iff.mpr fun h => hnull (Value.isWord_iff.mp h)
  -- what could stand for something else does so on date fields only
  have hnormal := Operand.normalize?_eq_value hword (fun hfield => absurd hfield hdate)
    .contains now
  rw [ofFullTerm, if_neg hid, hnormal]
  dsimp only
  rw [condition_contains]
  rfl

end Filter

/-- Where the rule has default fields, none of which is the identifier, and the value is not the
    word for an empty field, a bare term has a disjunction for its filter.  The parts are, for one
    default field after the other, the filters of the term with a colon on that field, under the
    rule without date fields.  The filter is the same whatever the date fields are and whenever the
    term is compiled. -/
theorem bare_term_disjunction (rule : Rule) (operator : Operator) (value : Value)
    (hfields : rule.defaultFields ≠ []) (hid : Filter.idField ∉ rule.defaultFields)
    (hnull : value ≠ .text Value.nullWord) :
    ∃ parts,
      (∀ dates now, Filter.ofTerm { rule with isDate := dates } now ⟨none, operator, value⟩ =
        .ok (.or parts)) ∧
      List.Forall₂ (fun field part => ∀ now,
        Filter.ofTerm { rule with isDate := [] } now ⟨some field, .contains, value⟩ = .ok part)
        rule.defaultFields parts := by
  refine ⟨rule.defaultFields.map (Filter.plainPart rule value), fun dates now => ?_, ?_⟩
  · -- neither the fields nor what is asked of them depends on the dates
    exact @Filter.ofBareTerm_eq { rule with isDate := dates } value hfields
  · -- field by field, with the same part on both sides
    rw [List.forall₂_map_right_iff, List.forall₂_same]
    intro field hfield now
    have hne : field ≠ Filter.idField := fun heq => hid (heq ▸ hfield)
    exact Filter.ofFullTerm_contains hne (by simp) hnull now

/-- A field that is listed twice has two parts, and an amount of time is plain text even on a date
    field. -/
theorem bare_term_disjunction_repeated_field :
    Filter.ofTerm ⟨["due", "a.b", "due"], ["a.b"], ["due"]⟩ .noon ⟨none, .eq, .text "+1d"⟩ =
        .ok (.or [.equals "due" (.string "+1d"), .field "a.b" (.regex "\\+1d"),
          .equals "due" (.string "+1d")]) ∧
      Filter.ofTerm ⟨["due", "a.b", "due"], ["a.b"], []⟩ .noon
          ⟨some "due", .contains, .text "+1d"⟩ =
        .ok (.equals "due" (.string "+1d")) := by
  obtain ⟨parts, hbare, hparts⟩ := bare_term_disjunction ⟨["due", "a.b", "due"], ["a.b"], ["due"]⟩
    .eq (.text "+1d") (by decide) (by decide) (by decide)
  -- the parts are those of the term itself, so the first of them is known
  obtain rfl := Filter.or.inj (Except.ok.inj (hbare [] .noon))
  cases hparts with
  | cons hfirst _ => exact ⟨hbare ["due"] .noon, hfirst .noon⟩

end Sift

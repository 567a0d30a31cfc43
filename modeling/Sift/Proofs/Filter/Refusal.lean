import Sift.Proofs.Filter.Composition
import Sift.Proofs.Filter.DocumentId
import Sift.Proofs.Operand.RelativeDate

/-!
# Terms without a filter

A term is refused for one of three reasons, which `Term.Refused` lists with their errors: a bare
term has no field to be searched in, a term on the identifier does not write one, or a relative date
leads out of range.  `ofTerm_eq_error_iff` says that there are no others.
-/

namespace Sift

/-! ## Reasons to refuse a term -/

/-- The terms that are refused, each with its error. -/
inductive Term.Refused (rule : Rule) (now : Instant) : Term → QueryError → Prop
  /-- A bare term, where no fields are listed. -/
  | bare (operator : Operator) (value : Value) (hany : rule.anyOf = [])
      (hstring : rule.isString = []) :
      Refused rule now ⟨none, operator, value⟩ (.noDefaultFields value.source)
  /-- A term on the identifier that is not made of its digits. -/
  | id (operator : Operator) (value : Value) (hhex : ¬ DocumentId.IsHex value.source) :
      Refused rule now ⟨some Filter.idField, operator, value⟩ (.invalidId value.source)
  /-- A text on a date field that is no word for an empty field and no instant, but an amount of
      time that leads beyond all instants. -/
  | date {field : String} (operator : Operator) {amount : Operand.Amount} {unit : TimeUnit}
      {word : String} (hid : field ≠ Filter.idField) (hfield : field ∈ rule.isDate)
      (hnull : amount.text word ≠ Value.nullWord) (hread : Instant.read? (amount.text word) = none)
      (hfits : amount.Fits) (hword : word ∈ unit.words)
      (hrange : ¬ (unit.span amount.value).EndsInRange now) :
      Refused rule now ⟨some field, operator, .text (amount.text word)⟩
        (.dateOutOfRange (amount.text word))

section

variable {rule : Rule} {now : Instant} {field : String} {operator : Operator} {value : Value}
  {error : QueryError}

/-- A bare term has no fields to search if neither list has any. -/
private theorem Rule.defaultFields_eq_nil_iff :
    rule.defaultFields = [] ↔ rule.anyOf = [] ∧ rule.isString = [] := by
  unfold Rule.defaultFields
  cases rule.anyOf <;> simp

/-- Of all values, only relative dates that lead out of range come down to nothing. -/
private theorem Operand.normalize?_eq_none_iff :
    Operand.normalize? rule field operator value now = none ↔
      field ∈ rule.isDate ∧ ∃ (amount : Operand.Amount) (unit : TimeUnit) (word : String),
        value = .text (amount.text word) ∧ amount.Fits ∧ word ∈ unit.words ∧
          ¬ (unit.span amount.value).EndsInRange now := by
  constructor
  · intro h
    have hbecomes := Operand.becomes_normalize? rule field operator value now
    rw [h] at hbecomes
    -- of all that a value becomes, only a relative date may be nothing
    generalize hresult : (none : Option (Operator × Operand)) = result at hbecomes
    cases hbecomes with
    | relative hfield hfits hword hvalue =>
      have hadd := Option.map_eq_none_iff.mp hresult.symm
      exact ⟨hfield, _, _, _, hvalue, hfits, hword, (Instant.add?_eq_none_iff_ends _ _ _).mp hadd⟩
    | _ => cases hresult
  · rintro ⟨hfield, amount, unit, word, rfl, hfits, hword, hrange⟩
    rw [Operand.normalize?_text hfield hword, if_pos hfits,
      (Instant.add?_eq_none_iff_ends _ _ _).mpr hrange]
    rfl

namespace Filter

/-- A bare term is refused exactly if there is no field to search. -/
private theorem ofBareTerm_eq_error_iff :
    ofBareTerm rule value = .error error ↔
      (rule.anyOf = [] ∧ rule.isString = []) ∧ error = .noDefaultFields value.source := by
  rw [← Rule.defaultFields_eq_nil_iff]
  unfold ofBareTerm
  cases rule.defaultFields with
  | nil => simp [eq_comm]
  | cons field fields => simp

/-- A term on the identifier is refused exactly if it does not write one. -/
private theorem ofFullTerm_id_eq_error_iff :
    ofFullTerm rule now idField operator value = .error error ↔
      ¬ DocumentId.IsHex value.source ∧ error = .invalidId value.source := by
  rw [← DocumentId.exists_ofHex?_iff]
  unfold ofFullTerm DocumentId.parse
  cases DocumentId.ofHex? value.source with
  | none => simp [eq_comm]
  | some id => simp

/-- Any other term is refused exactly if its value comes down to nothing. -/
private theorem ofFullTerm_eq_error_iff (hid : field ≠ idField) :
    ofFullTerm rule now field operator value = .error error ↔
      Operand.normalize? rule field operator value now = none ∧
        error = .dateOutOfRange value.source := by
  rw [ofFullTerm, if_neg hid]
  cases Operand.normalize? rule field operator value now with
  | none => simp [eq_comm]
  | some result =>
    obtain ⟨operator', operand⟩ := result
    cases operand <;> simp

/-- A term that has no filter is refused for one of the reasons, with the error of it. -/
theorem ofTerm_eq_error_iff {term : Term} :
    ofTerm rule now term = .error error ↔ term.Refused rule now error := by
  obtain ⟨name, operator, value⟩ := term
  constructor
  · intro h
    cases name with
    | none =>
      obtain ⟨⟨hany, hstring⟩, rfl⟩ := ofBareTerm_eq_error_iff.mp h
      exact .bare operator value hany hstring
    | some field =>
      by_cases hid : field = idField
      · subst hid
        obtain ⟨hhex, rfl⟩ := ofFullTerm_id_eq_error_iff.mp h
        exact .id operator value hhex
      -- of a term with another field, only a relative date is refused
      · obtain ⟨hnone, rfl⟩ := (ofFullTerm_eq_error_iff hid).mp h
        obtain ⟨hfield, amount, unit, word, rfl, hfits, hword, hrange⟩ :=
          Operand.normalize?_eq_none_iff.mp hnone
        exact .date operator hid hfield (Operand.text_ne_word rfl) (Operand.read?_text hword) hfits
          hword hrange
  · intro h
    cases h with
    | bare _ _ hany hstring => exact ofBareTerm_eq_error_iff.mpr ⟨⟨hany, hstring⟩, rfl⟩
    | id _ _ hhex => exact ofFullTerm_id_eq_error_iff.mpr ⟨hhex, rfl⟩
    | date _ hid hfield _ _ hfits hword hrange =>
      exact (ofFullTerm_eq_error_iff hid).mpr ⟨Operand.normalize?_eq_none_iff.mpr
        ⟨hfield, _, _, _, rfl, hfits, hword, hrange⟩, rfl⟩

/-- All terms that are not refused have a filter. -/
private theorem exists_ofTerm_iff {term : Term} :
    (∃ filter, ofTerm rule now term = .ok filter) ↔ ∀ error, ¬ term.Refused rule now error := by
  simp only [← ofTerm_eq_error_iff]
  cases ofTerm rule now term with
  | error error => simp
  | ok filter => simp

/-- An error of the grammar is that of the text. -/
private theorem compile_eq_parse_error_iff {text : String} {error : Query.ParseError} :
    compile rule now text = .error (.parse error) ↔ Query.parse text = .error error := by
  unfold compile
  cases Query.parse text with
  | error e => simp
  | ok query =>
    simp only [ofQuery_eq_error_iff, reduceCtorEq, iff_false]
    -- no term is refused with an error of the grammar
    rintro ⟨before, term, after, -, -, hterm⟩
    cases ofTerm_eq_error_iff.mp hterm

end Filter

/-- What a text begins with, it begins with also where more follows. -/
private theorem prefix_toList_append {start text : String} (h : start.toList <+: text.toList)
    (middle back : String) : start.toList <+: (text ++ middle ++ back).toList := by
  rw [String.toList_append, String.toList_append, List.append_assoc]
  exact h.trans (List.prefix_append _ _)

/-- The message of an error says whether the configuration or the format of a value is at fault. -/
private theorem Term.Refused.message_start {term : Term} (h : term.Refused rule now error) :
    (if term.field.isNone then "Configuration error: " else "Format error: ").toList <+:
      error.message.toList := by
  unfold QueryError.message
  cases h with
  | bare operator value =>
    have hstart : "Configuration error: ".toList <+: "Configuration error: bare term ".toList :=
      ⟨"bare term ".toList, by decide⟩
    exact prefix_toList_append hstart _ _
  | id operator value => exact prefix_toList_append (List.prefix_refl _) _ _
  | date operator =>
    have hstart : "Format error: ".toList <+: "Format error: date ".toList :=
      ⟨"date ".toList, by decide⟩
    exact prefix_toList_append hstart _ _

end

/-- A term has no filter exactly if no fields are listed for a bare term, a term on the identifier
    does not write one, or a text on a date field is an amount of time that leads beyond all
    instants, also if the present lies in a leap second.  The first is an error of the configuration
    and the others of the format, and all other terms have a filter.  A text is refused with an
    error of the grammar exactly if it has that error, and the filter of any other text is that of
    its query. -/
theorem refused_terms (rule : Rule) (now : Instant) :
    (∀ term error, Filter.ofTerm rule now term = .error error ↔ term.Refused rule now error) ∧
      (∀ term, (∃ filter, Filter.ofTerm rule now term = .ok filter) ↔
        ∀ error, ¬ term.Refused rule now error) ∧
      (∀ (term : Term) (error : QueryError), term.Refused rule now error →
        (if term.field.isNone then "Configuration error: " else "Format error: ").toList <+:
          error.message.toList) ∧
      ∀ text,
        (∀ error, Filter.compile rule now text = .error (.parse error) ↔
          Query.parse text = .error error) ∧
        ∀ query, Query.parse text = .ok query →
          Filter.compile rule now text = Filter.ofQuery rule now query := by
  refine ⟨fun _ _ => Filter.ofTerm_eq_error_iff, fun _ => Filter.exists_ofTerm_iff,
    fun _ _ => Term.Refused.message_start, fun text =>
      ⟨fun _ => Filter.compile_eq_parse_error_iff, ?_⟩⟩
  intro query hparse
  unfold Filter.compile
  rw [hparse]

/-- A term of each kind that is refused: a number written like the word for an empty field, that
    word for an identifier, and an amount of years after a leap second. -/
theorem refused_terms_each_kind :
    Filter.ofTerm ⟨[], [], ["due"]⟩ .noon ⟨none, .eq, .number .nan "NULL"⟩ =
        .error (.noDefaultFields "NULL") ∧
      Filter.ofTerm ⟨["a"], [], ["due"]⟩ .noon ⟨some "id", .regex, .text "NULL"⟩ =
        .error (.invalidId "NULL") ∧
      Filter.ofTerm ⟨["a"], [], ["due"]⟩ ⟨1483228799, 1500000000, by decide, by decide, by decide⟩
          ⟨some "due", .regex, .text "+262143y"⟩ =
        .error (.dateOutOfRange "+262143y") ∧
      Filter.compile ⟨["a"], [], ["due"]⟩ .noon "due~+1y" =
        Filter.ofQuery ⟨["a"], [], ["due"]⟩ .noon (.term ⟨some "due", .regex, .text "+1y"⟩) :=
  ⟨((refused_terms ⟨[], [], ["due"]⟩ .noon).1 _ _).mpr (.bare .eq (.number .nan "NULL") rfl rfl),
    ((refused_terms ⟨["a"], [], ["due"]⟩ .noon).1 _ _).mpr
      (.id .regex (.text "NULL") (by decide)),
    ((refused_terms ⟨["a"], [], ["due"]⟩
        ⟨1483228799, 1500000000, by decide, by decide, by decide⟩).1 _ _).mpr
      (@Term.Refused.date _ _ "due" .regex (.ofDigits .plus "262143".toList rfl) .years "y"
        (by decide) (by simp) (by decide) (by decide) (by decide) (by simp [TimeUnit.words])
        (by decide)),
    ((refused_terms ⟨["a"], [], ["due"]⟩ .noon).2.2.2 "due~+1y").2 _ rfl⟩

end Sift

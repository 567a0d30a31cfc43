import Sift.Proofs.Operand.RelativeDate

/-!
# Telling dates apart

Four recognisers look at the value of a term: for the word for an empty field, for absolute dates,
for relative dates and for the word for the present.  A text shows which of them may accept it: an
absolute date has a hyphen behind its first character and the others have none, and a relative date
does not begin with a letter as the two words do (`eq_only`).

So no value is accepted twice, and it does not matter in which order the recognisers are asked
(`date_recognisers_exclusive`).
-/

namespace Sift.Operand

/-- A test whether a value stands for something other than itself. -/
inductive Recogniser where
  /-- For the word for an empty field. -/
  | null
  /-- For days and timestamps. -/
  | absolute
  /-- For amounts of time. -/
  | relative
  /-- For the word for the present. -/
  | present
  deriving DecidableEq

namespace Recogniser

/-- Whether a recogniser accepts a value. -/
def accepts (value : Value) : Recogniser → Bool
  | null => value.isWord Value.nullWord
  | absolute => (Instant.read? value.source).isSome
  | relative => (relative? value).isSome
  | present => value.isWord Value.nowWord

/-- Whether a recogniser is asked about the values of a field.  Dates are looked for on date fields
    only. -/
def isAsked (rule : Rule) (field : String) : Recogniser → Bool
  | null => true
  | absolute | relative | present => rule.hasDate field

/-- The operator and the operand that a term comes down to by the recogniser that accepts its value,
    or nothing if that is a relative date beyond all instants. -/
def operand? (operator : Operator) (value : Value) (now : Instant) :
    Recogniser → Option (Operator × Operand)
  | null => some (operator, .null)
  | absolute => (Instant.read? value.source).map fun t => (operator, .date t)
  | relative => (relative? value).bind fun (amount, unit) =>
      (now.add? amount unit).map fun t => (.lte, .date t)
  | present => some (.lte, .date now)

/-! ## Exclusion -/

/-- The only recogniser that may accept a text. -/
def only (text : String) : Recogniser :=
  if '-' ∈ text.toList.tail then absolute
  else if text.toList.head?.any Char.isAlpha then
    if text = Value.nullWord then null else present
  else relative

/-- The text of a value shows which recogniser accepts it. -/
theorem eq_only {recogniser : Recogniser} {value : Value}
    (h : recogniser.accepts value = true) : recogniser = only value.source := by
  cases recogniser with
  | null =>
    rw [Value.isWord_iff.mp h]
    decide
  | absolute =>
    -- a day or a timestamp has a hyphen behind its first character
    have hhyphen : '-' ∈ value.source.toList.tail := by
      refine Decidable.of_not_not fun hnot => ?_
      unfold accepts at h
      rw [Instant.read?_eq_none_of_hyphen hnot] at h
      cases h
    rw [only, if_pos hhyphen]
  | relative =>
    obtain ⟨⟨n, unit⟩, hrelative⟩ := Option.isSome_iff_exists.mp h
    obtain ⟨amount, word, -, hword, rfl, -⟩ := relative?_eq_some_iff.mp hrelative
    unfold Value.source only
    -- a relative date has none, and begins with a digit or a sign
    rw [if_neg (hyphen_not_mem_tail_text hword), head_text, if_neg Bool.false_ne_true]
  | present =>
    rw [Value.isWord_iff.mp h]
    decide

/-- No value is accepted by two recognisers. -/
private theorem eq_of_accepts {recogniser other : Recogniser} {value : Value}
    (h : recogniser.accepts value = true) (h' : other.accepts value = true) :
    recogniser = other := by
  rw [eq_only h, eq_only h']

/-- A token that is a number is accepted by none. -/
private theorem not_accepts_number {token written : String} {x : Number}
    (h : Value.ofToken token = .number x written) (recogniser : Recogniser) :
    recogniser.accepts (.ofToken token) = false := by
  have hhyphen : '-' ∉ token.toList := by
    intro hmem
    -- a hyphen would make it text
    rw [Value.ofToken_eq_text hmem rfl (by decide)] at h
    cases h
  have hread : Instant.read? token = none :=
    Instant.read?_eq_none_of_hyphen fun hmem => hhyphen (List.mem_of_mem_tail hmem)
  cases recogniser with
  | absolute =>
    unfold accepts
    rw [Value.source_ofToken, hread]
    rfl
  | null | relative | present =>
    rw [h]
    rfl

end Recogniser

/-! ## Orders -/

/-- What a term comes down to if the recognisers are asked in some order: the first one to accept
    the value decides, and a value that none accepts stays as it is. -/
def normalizeBy? (order : List Recogniser) (rule : Rule) (field : String) (operator : Operator)
    (value : Value) (now : Instant) : Option (Operator × Operand) :=
  match order.find? fun recogniser =>
      recogniser.isAsked rule field && recogniser.accepts value with
  | some recogniser => recogniser.operand? operator value now
  | none => some (operator, .value value)

/-- Where at most one element passes a test, all lists of the same elements have the same first one
    that does. -/
private theorem find?_eq_of_mem_iff {α : Type} {p : α → Bool} {xs ys : List α}
    (hone : ∀ a b, p a = true → p b = true → a = b) (hmem : ∀ a, a ∈ xs ↔ a ∈ ys) :
    xs.find? p = ys.find? p := by
  cases hfind : xs.find? p with
  | none =>
    rw [List.find?_eq_none] at hfind
    exact (List.find?_eq_none.mpr fun a ha => hfind a ((hmem a).mpr ha)).symm
  | some a =>
    -- the two elements that are found both pass the test, so they are one
    have ha := List.find?_some hfind
    have hsome : (ys.find? p).isSome = true :=
      List.find?_isSome.mpr ⟨a, (hmem a).mp (List.mem_of_find?_eq_some hfind), ha⟩
    obtain ⟨b, hb⟩ := Option.isSome_iff_exists.mp hsome
    rw [hb, hone a b ha (List.find?_some hb)]

section

variable (rule : Rule) (field : String) (operator : Operator) (value : Value) (now : Instant)

/-- The order in which a term is looked at. -/
private theorem normalize?_eq_normalizeBy? :
    normalize? rule field operator value now =
      normalizeBy? [.null, .absolute, .relative, .present] rule field operator value now := by
  unfold normalize? normalizeBy?
  -- the questions are answered in their order, and the first yes ends them
  cases hnull : value.isWord Value.nullWord with
  | true => simp [Recogniser.isAsked, Recogniser.accepts, Recogniser.operand?, hnull]
  | false =>
    cases hdate : rule.hasDate field with
    | false => simp [Recogniser.isAsked, Recogniser.accepts, hnull, hdate]
    | true =>
      cases hread : Instant.read? value.source with
      | some t =>
        simp [Recogniser.isAsked, Recogniser.accepts, Recogniser.operand?, hnull, hdate, hread]
      | none =>
        cases hrelative : relative? value with
        | some p =>
          simp [Recogniser.isAsked, Recogniser.accepts, Recogniser.operand?, hnull, hdate, hread,
            hrelative]
        | none =>
          cases hnow : value.isWord Value.nowWord with
          | true =>
            simp [Recogniser.isAsked, Recogniser.accepts, Recogniser.operand?, hnull, hdate, hread,
              hrelative, hnow]
          | false =>
            simp [Recogniser.isAsked, Recogniser.accepts, hnull, hdate, hread, hrelative, hnow]

/-- Only which recognisers are asked counts. -/
private theorem normalizeBy?_eq_of_mem_iff {order order' : List Recogniser}
    (h : ∀ recogniser, recogniser ∈ order ↔ recogniser ∈ order') :
    normalizeBy? order rule field operator value now =
      normalizeBy? order' rule field operator value now := by
  have hone : ∀ a b : Recogniser, (a.isAsked rule field && a.accepts value) = true →
      (b.isAsked rule field && b.accepts value) = true → a = b := by
    intro a b ha hb
    rw [Bool.and_eq_true] at ha hb
    exact Recogniser.eq_of_accepts ha.2 hb.2
  unfold normalizeBy?
  rw [find?_eq_of_mem_iff hone h]

end

/-- At most one of the recognisers of dates accepts a value, and none accepts a token that is a
    number. So whichever order they are asked in, as long as each is asked, a term comes down to the
    same. -/
theorem date_recognisers_exclusive (value : Value) :
    (∀ recogniser other : Recogniser, recogniser.accepts value = true →
        other.accepts value = true → recogniser = other) ∧
      (∀ token x written, value = .ofToken token → value = .number x written →
        ∀ recogniser : Recogniser, recogniser.accepts value = false) ∧
      ∀ order : List Recogniser, (∀ recogniser, recogniser ∈ order) →
        ∀ (rule : Rule) (field : String) (operator : Operator) (now : Instant),
          normalizeBy? order rule field operator value now =
            normalize? rule field operator value now := by
  refine ⟨fun _ _ => Recogniser.eq_of_accepts, ?_, ?_⟩
  · rintro token x written rfl hnumber recogniser
    exact Recogniser.not_accepts_number hnumber recogniser
  · intro order hall rule field operator now
    rw [normalize?_eq_normalizeBy?]
    apply normalizeBy?_eq_of_mem_iff
    intro recogniser
    have hlisted : recogniser ∈ [Recogniser.null, .absolute, .relative, .present] := by
      cases recogniser <;> simp
    exact ⟨fun _ => hlisted, fun _ => hall recogniser⟩

/-- A day with a sign begins as a relative date does, and its digits alone are a number. -/
theorem date_recognisers_exclusive_signed_day :
    Recogniser.relative.accepts (.ofToken "+2024-05-01") = false ∧
      normalizeBy? [.present, .relative, .absolute, .null] ⟨[], [], ["due"]⟩ "due" .gt
          (.ofToken "+2024-05-01") .noon =
        some (.gt, .date ⟨1714521600, 0, by decide, by decide, by decide⟩) ∧
      ∀ recogniser : Recogniser, recogniser.accepts (.ofToken "20240501") = false := by
  obtain ⟨hone, -, horder⟩ := date_recognisers_exclusive (.ofToken "+2024-05-01")
  obtain ⟨-, hnumber, -⟩ := date_recognisers_exclusive (.ofToken "20240501")
  refine ⟨?_, ?_, ?_⟩
  · rw [← Bool.not_eq_true]
    intro hrelative
    exact absurd (hone .relative .absolute hrelative (by decide)) (by decide)
  · rw [horder _ (by intro recogniser; cases recogniser <;> simp)]
    decide
  · have hne : Value.ofToken "20240501" ≠ .text "20240501" := by decide +kernel
    rcases Value.ofToken_cases "20240501" with htext | ⟨x, h⟩
    · exact absurd htext hne
    · exact hnumber "20240501" x "20240501" rfl h

end Sift.Operand

import Sift.Proofs.Query.Tracking

/-!
# What the rules of the machine leave behind

A state is *valid* if its place stands between two characters, its depth is within the limit, and
its failures name nothing twice, and something if they are not at the start.  In a valid state no
rule of the machine breaks down, and each leaves a valid state: at its start with something noted
there or beyond if it fails, and further on if it does not, always at the same depth
(`rules_rewind_and_keep_state`).
-/

namespace Sift.Query

/-! ## Rules that move on -/

namespace Grammar

variable {α β : Type}

/-- A rule that reads something wherever it succeeds. -/
class Consumes (rule : Grammar α) : Prop where
  shorter : ∀ {text rest : List Char} {a : α}, rule.read text = some (a, rest) →
    utf8Length rest < utf8Length text

instance (rule : Grammar α) (next : α → Grammar β) [Lawful rule] [Consumes rule]
    [∀ a, Lawful (next a)] : Consumes (rule >>= next) where
  shorter {text rest b} h := by
    rw [read_bind] at h
    obtain ⟨⟨a, mid⟩, hread, hnext⟩ := Option.bind_eq_some_iff.mp h
    have hle := utf8Length_le_of_suffix (read_suffix (next a) hnext)
    exact Nat.lt_of_le_of_lt hle (Consumes.shorter hread)

instance (rule other : Grammar α) [Lawful rule] [Lawful other] [Consumes rule] [Consumes other] :
    Consumes (rule <|> other) where
  shorter {text rest a} h := by
    rw [read_orElse, Option.or_eq_some_iff] at h
    cases h with
    | inl h => exact Consumes.shorter h
    | inr h => exact Consumes.shorter h.2

end Grammar

open Grammar

/-- Bytes are used up by what is not empty. -/
private theorem utf8Length_lt_append {front : List Char} (h : front ≠ []) (back : List Char) :
    utf8Length back < utf8Length (front ++ back) := by
  obtain ⟨c, front, rfl⟩ := List.exists_cons_of_ne_nil h
  have hsize := c.utf8Size_pos
  rw [utf8Length_append, utf8Length_cons]
  omega

/-- A fixed text that is not empty moves on. -/
private theorem consumes_literal {s : String} (h : s ≠ "") : Consumes (literal s) where
  shorter hread := by
    rw [literal_read_eq_some_iff.mp hread]
    exact utf8Length_lt_append (by simpa using h) _

instance : Consumes (literal "\"") := consumes_literal (by simp)

instance : Consumes (literal "(") := consumes_literal (by simp)

instance : Consumes raw where
  shorter {text rest a} h := by
    obtain ⟨run, back, rfl, hrun, hends⟩ := exists_unreserved_run text
    by_cases hne : run = []
    · subst hne
      rw [List.nil_append, (raw_of_ends hends).1] at h
      cases h
    · rw [(raw_run hne hrun hends).1] at h
      cases h
      exact utf8Length_lt_append hne _

instance : Consumes operator where
  shorter {text rest op} h := by
    rw [eq_append_of_operator_read h]
    exact utf8Length_lt_append (by cases op <;> simp [Operator.symbol]) _

instance : Consumes quoted := by unfold quoted; infer_instance

instance : Consumes string := by unfold string; infer_instance

instance : Consumes fullTerm := by unfold fullTerm; infer_instance

instance : Consumes bareTerm := by unfold bareTerm; infer_instance

instance : Consumes single := by unfold single; infer_instance

instance (part : Grammar Query) [Lawful part] [Consumes part] (separator : String)
    (join : Query → Query → Query) : Consumes (pair part separator join) := by
  unfold pair; infer_instance

instance : Consumes plain := by unfold plain; infer_instance

instance (inside : Grammar Query) [Lawful inside] : Consumes (bracketed inside) := by
  unfold bracketed; infer_instance

instance (depth : Nat) : Consumes (sentence depth) := by rw [sentence_eq]; infer_instance

instance (part : Grammar Query) [Vocal part] (separator : String)
    (join : Query → Query → Query) : Vocal (pair part separator join) := by
  unfold pair; infer_instance

instance (depth : Nat) : Vocal (inner depth) := by
  cases depth <;> (unfold inner; infer_instance)

instance (inside : Grammar Query) [Vocal inside] : Vocal (bracketed inside) := by
  unfold bracketed; infer_instance

/-! ## States -/

variable {α : Type} {input : List Char} {state : State}

namespace State

/-- The place stands between two characters of the query or at one of its ends, no more brackets are
    open than may be, and the failures are sound. -/
structure Valid (input : List Char) (state : State) : Prop where
  boundary : ∃ front back, input = front ++ back ∧ utf8Length front = state.place
  depth_le : state.depth ≤ maxNesting
  failures : state.failures.Sound

/-- The place of a state as a cursor, unless it is inside a character. -/
def cursor? (input : List Char) (state : State) : Option Cursor :=
  (splitBytes? input state.place).map fun p => ⟨state.place, p.2⟩

/-- Before an end of the query a state is valid. -/
private theorem valid_before {text : List Char} (htext : text <:+ input) {depth : Nat}
    (hdepth : depth ≤ maxNesting) {failures : Failures} (hsound : failures.Sound) :
    (State.before input text depth failures).Valid input where
  boundary := by
    obtain ⟨front, rfl⟩ := htext
    exact ⟨front, text, rfl, by simp [State.before]⟩
  depth_le := hdepth
  failures := hsound

/-- A valid state stands before an end of the query. -/
private theorem Valid.exists_text (h : state.Valid input) :
    ∃ text, text <:+ input ∧ state.place = utf8Length input - utf8Length text := by
  obtain ⟨front, text, rfl, hplace⟩ := h.boundary
  refine ⟨text, List.suffix_append _ _, ?_⟩
  rw [utf8Length_append]
  omega

/-- Before an end of the query the cursor is the one before that end. -/
private theorem cursor?_before {text : List Char} (htext : text <:+ input) (depth : Nat)
    (failures : Failures) :
    (State.before input text depth failures).cursor? input =
      some (.before (utf8Length input) text) := by
  obtain ⟨front, rfl⟩ := htext
  have hplace : (State.before (front ++ text) text depth failures).place = utf8Length front := by
    simp [State.before]
  rw [cursor?, hplace, splitBytes?_append]
  simp [Cursor.before]

end State

/-- What a rule leaves of a state, with or without an answer. -/
structure Keeps (input : List Char) (state : State) (answer : Option α) (after : State) : Prop where
  valid : after.Valid input
  depth_eq : after.depth = state.depth
  furthest_le : state.failures.furthest ≤ after.failures.furthest
  /-- Without an answer the rule is at its start again. -/
  rewound : answer = none → after.place = state.place
  /-- Without an answer the rule has noted something, at its start or beyond. -/
  noted : answer = none → state.place ≤ after.failures.furthest ∧ after.failures.expected ≠ []
  /-- With an answer the rule has moved on. -/
  moved : answer ≠ none → state.place < after.place

/-- The rule of the machine has an answer that keeps the state in order, and that is the answer of
    the rule of the grammar. -/
def Answers (input : List Char) (run : Routine α) (rule : Grammar α) (state : State) : Prop :=
  ∃ answer after cursor, run state = some (answer, after) ∧ Keeps input state answer after ∧
    state.cursor? input = some cursor ∧
    rule cursor state.failures =
      (answer.bind fun a => (after.cursor? input).map fun cursor => (a, cursor), after.failures)

/-- A rule that tracks another one, goes back and moves on answers for it in valid states. -/
private theorem Tracks.answers {run : Routine α} {rule : Grammar α} [Rewinds run] [Vocal rule]
    [Consumes rule] (h : Tracks input state.depth run rule) (hvalid : state.Valid input) :
    Answers input run rule state := by
  -- the state is the one before some end of the query, where both rules are compared
  obtain ⟨text, htext, hplace⟩ := hvalid.exists_text
  obtain ⟨start, depth, failures⟩ := state
  have hdepth : depth ≤ maxNesting := hvalid.depth_le
  have hsound : failures.Sound := hvalid.failures
  subst hplace
  obtain ⟨place, hrun⟩ := h text failures htext
  have hcursor := State.cursor?_before htext depth failures
  have hle := utf8Length_le_of_suffix htext
  cases hread : rule.read text with
  | none =>
    -- a rule of the grammar that fails says so at its start or beyond
    obtain ⟨notes, hnotes, n, hn, hrest⟩ := Vocal.complains text hread
    obtain ⟨hsound', hfurthest, hplaces⟩ := hsound.noteAll (utf8Length input) notes
    have hresult := hnotes.run (utf8Length input) failures hle
    rw [hread] at hresult
    rw [hresult] at hrun
    have hback : place = utf8Length input - utf8Length text := Rewinds.place_eq hrun
    subst hback
    refine ⟨none, _, _, hrun, ?_, hcursor, hresult⟩
    have hnoted := hplaces n hn
    have hrest := utf8Length_le_of_suffix hrest
    exact {
      valid := State.valid_before htext hdepth hsound'
      depth_eq := rfl
      furthest_le := hfurthest
      rewound := fun _ => rfl
      noted := fun _ => ⟨by dsimp only; omega,
        hsound.expected_noteAll_ne_nil _ (List.ne_nil_of_mem hn)⟩
      moved := fun hne => absurd rfl hne }
  | some p =>
    obtain ⟨a, rest⟩ := p
    obtain ⟨notes, hnotes⟩ := exists_notes rule text
    obtain ⟨hsound', hfurthest, -⟩ := hsound.noteAll (utf8Length input) notes
    have hsuffix := (hnotes.read_suffix _ hread).trans htext
    have hresult := hnotes.run (utf8Length input) failures hle
    rw [hread] at hresult
    rw [hresult] at hrun
    have hcursor' := State.cursor?_before hsuffix depth (failures.noteAll (utf8Length input) notes)
    refine ⟨some a, .before input rest depth (failures.noteAll (utf8Length input) notes), _, hrun,
      ?_, hcursor, ?_⟩
    · have hshorter := Consumes.shorter hread
      exact {
        valid := State.valid_before hsuffix hdepth hsound'
        depth_eq := rfl
        furthest_le := hfurthest
        rewound := fun hnone => by cases hnone
        noted := fun hnone => by cases hnone
        moved := fun _ => by
          show utf8Length input - utf8Length text < utf8Length input - utf8Length rest
          omega }
    · rw [hcursor']
      exact hresult

/-! ## The rules -/

/-- The rules of the machine, each with the rule of the grammar that it carries out at a depth. -/
inductive CarriesOut (input : List Char) (depth : Nat) :
    {α : Type} → Routine α → Grammar α → Prop
  | orSentences : CarriesOut input depth (Machine.orSentences input)
      (pair (sentence (maxNesting - depth)) " OR " .or)
  | andSentences : CarriesOut input depth (Machine.andSentences input)
      (pair (sentence (maxNesting - depth)) " " .and)
  | sentence : CarriesOut input depth (Machine.sentence input) (sentence (maxNesting - depth))
  | bracketed : CarriesOut input depth (Machine.bracketed input)
      (bracketed (inner (maxNesting - depth)))
  | orTerms : CarriesOut input depth (Machine.orTerms input) (pair single " OR " .or)
  | andTerms : CarriesOut input depth (Machine.andTerms input) (pair single " " .and)
  | single : CarriesOut input depth (Machine.single input) single
  | fullTerm : CarriesOut input depth (Machine.fullTerm input) fullTerm
  | string : CarriesOut input depth (Machine.string input) string
  | quoted : CarriesOut input depth (Machine.quoted input) quoted
  | raw : CarriesOut input depth (Machine.raw input) raw
  | operator : CarriesOut input depth (Machine.operator input) operator
  | literal {text : String} (hne : text ≠ "") :
      CarriesOut input depth (Machine.literal input text) (literal text)

/-- Each rule of the machine answers for its rule of the grammar. -/
private theorem CarriesOut.answers {run : Routine α} {rule : Grammar α}
    (h : CarriesOut input state.depth run rule) (hvalid : state.Valid input) :
    Answers input run rule state := by
  have hsentence : Tracks input state.depth (Machine.sentence input)
      (Query.sentence (maxNesting - state.depth)) := Machine.sentence_tracks hvalid.depth_le
  cases h with
  | orSentences => exact (Machine.pair_tracks hsentence _ _).answers hvalid
  | andSentences => exact (Machine.pair_tracks hsentence _ _).answers hvalid
  | sentence => exact hsentence.answers hvalid
  | bracketed =>
    -- the depth and the brackets to go make up the limit
    have hlevels : state.depth + (maxNesting - state.depth) = maxNesting :=
      Nat.add_sub_cancel' hvalid.depth_le
    exact (Machine.bracketed_tracks (Machine.inner_tracks hlevels)).answers hvalid
  | orTerms => exact (Machine.pair_tracks Machine.single_tracks _ _).answers hvalid
  | andTerms => exact (Machine.pair_tracks Machine.single_tracks _ _).answers hvalid
  | single => exact Machine.single_tracks.answers hvalid
  | fullTerm => exact Machine.fullTerm_tracks.answers hvalid
  | string => exact Machine.string_tracks.answers hvalid
  | quoted => exact Machine.quoted_tracks.answers hvalid
  | raw => exact Machine.raw_tracks.answers hvalid
  | operator => exact Machine.operator_tracks.answers hvalid
  | literal hne =>
    have hconsumes := consumes_literal hne
    exact (Machine.literal_tracks _).answers hvalid

/-- In every valid state each rule of the machine comes to an end without breaking down, gives the
    answer of its rule of the grammar, and leaves a valid state: the one it found, with something
    noted at its start or beyond, where it fails, and one further on where it succeeds, always at
    the same depth.  So the machine reads every query, as the grammar does. -/
theorem rules_rewind_and_keep_state (s : String) :
    (∀ {α : Type} {run : Routine α} {rule : Grammar α} {state : State},
      CarriesOut s.toList state.depth run rule → state.Valid s.toList →
        Answers s.toList run rule state) ∧
      Machine.parse s = some (parse s) :=
  ⟨fun h hvalid => h.answers hvalid, Machine.parse_eq_parse s⟩

/-- A quote that is not closed, before a character of two bytes and inside all brackets that may be
    open. -/
theorem rules_rewind_and_keep_state_unclosed_quote :
    State.Valid "(\"é".toList ⟨1, 128, .none⟩ ∧
      Machine.quoted "(\"é".toList ⟨1, 128, .none⟩ =
        some (none, ⟨1, 128, ⟨4, [.closingQuote]⟩⟩) ∧
      Keeps "(\"é".toList ⟨1, 128, .none⟩ (none : Option String)
        ⟨1, 128, ⟨4, [.closingQuote]⟩⟩ := by
  have hvalid : State.Valid "(\"é".toList ⟨1, 128, .none⟩ :=
    ⟨⟨['('], "\"é".toList, by simp, rfl⟩, Nat.le_refl _, ⟨List.nodup_nil, .inr rfl⟩⟩
  have hrun : Machine.quoted "(\"é".toList ⟨1, 128, .none⟩ =
      some (none, ⟨1, 128, ⟨4, [.closingQuote]⟩⟩) := by
    rfl
  obtain ⟨answer, after, -, hanswer, hkeeps, -⟩ :=
    (rules_rewind_and_keep_state "(\"é").1 .quoted hvalid
  rw [hrun] at hanswer
  cases hanswer
  exact ⟨hvalid, hrun, hkeeps⟩

/-! Inside a character the machine breaks down. -/

example : Machine.quoted "\"é".toList ⟨2, 0, .none⟩ = none := rfl

end Sift.Query

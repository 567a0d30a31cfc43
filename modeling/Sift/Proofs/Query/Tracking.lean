import Sift.Proofs.Query.Machine
import Sift.Proofs.Query.Reach

/-!
# The machine does what the grammar does

A rule of the machine *tracks* a rule of the grammar at some depth if before every text it gives the
same answer with the same failures, ends at the same place, and leaves the depth as it was
(`Tracks`).  Where it fails it may be left anywhere, so a choice needs more of its first rule: that
this goes back to its start (`Rewinds`).  Each rule of the machine tracks its rule of the grammar, a
sentence the one with as many brackets to go as are left at its depth (`sentence_tracks`); so both
read the same queries, and give the same errors (`parse_eq_parse`).
-/

namespace Sift.Query

open Routine

variable {α β : Type}

/-! ## Going back -/

/-- A rule that is at its start again when it fails. -/
class Rewinds (run : Routine α) : Prop where
  place_eq : ∀ {state after : State}, run state = some (none, after) → after.place = state.place

instance (run : Routine α) : Rewinds (attempt run) where
  place_eq {state after} h := by
    unfold attempt at h
    generalize run state = outcome at h
    unfold Outcome.rewind at h
    split at h
    · cases h
      rfl
    · rename_i hdone
      exact absurd h (hdone after)

instance (run other : Routine α) [Rewinds run] [Rewinds other] : Rewinds (run <|> other) where
  place_eq {state after} h := by
    have h : (run state).orElse other = some (none, after) := h
    unfold Outcome.orElse at h
    split at h
    · rename_i between hbetween
      exact (Rewinds.place_eq h).trans (Rewinds.place_eq hbetween)
    · rename_i hdone
      exact absurd h (hdone after)

instance (run : Routine α) (f : α → β) [Rewinds run] :
    Rewinds (run >>= fun a => pure (f a)) where
  place_eq {state after} h := by
    have h : (run state).andThen (fun a state => some (some (f a), state)) = some (none, after) := h
    unfold Outcome.andThen at h
    split at h
    · cases h
    · rename_i hnone
      cases h
      exact Rewinds.place_eq hnone
    · cases h

namespace Machine

variable (input : List Char)

instance (text : String) : Rewinds (literal input text) where
  place_eq {state after} h := by
    unfold literal at h
    rw [rest_bind] at h
    obtain ⟨p, -, h⟩ := Option.bind_eq_some_iff.mp h
    split at h
    · cases h
    · cases h
      rfl

instance : Rewinds (operator input) where
  place_eq {state after} h := by
    unfold operator at h
    rw [rest_bind] at h
    obtain ⟨p, -, h⟩ := Option.bind_eq_some_iff.mp h
    cases hfind : operators.find? (fun op => op.symbol.toList.isPrefixOf p.2) with
    | none =>
      rw [hfind] at h
      cases h
      rfl
    | some op =>
      rw [hfind] at h
      cases h

instance : Rewinds (raw input) where
  place_eq {state after} h := by
    unfold raw at h
    rw [rest_bind] at h
    obtain ⟨p, -, h⟩ := Option.bind_eq_some_iff.mp h
    split at h
    · cases h
      rfl
    · rw [bind_of_some rfl, textBefore_bind] at h
      obtain ⟨q, -, h⟩ := Option.bind_eq_some_iff.mp h
      cases h

instance : Rewinds (quoted input) := by unfold quoted; infer_instance

instance : Rewinds (string input) := by unfold string; infer_instance

instance : Rewinds (fullTerm input) := by unfold fullTerm; infer_instance

instance : Rewinds (bareTerm input) := by unfold bareTerm; infer_instance

instance : Rewinds (single input) := by unfold single; infer_instance

instance (part : Routine Query) (separator : String) (join : Query → Query → Query) :
    Rewinds (pair input part separator join) := by unfold pair; infer_instance

instance : Rewinds (orTerms input) := by unfold orTerms; infer_instance

instance : Rewinds (andTerms input) := by unfold andTerms; infer_instance

instance : Rewinds (bracketed input) := by rw [bracketed_eq]; infer_instance

instance : Rewinds (sentence input) := by rw [sentence_eq]; infer_instance

end Machine

/-! ## Doing what the grammar does -/

/-- The state before a text at the end of the query. -/
def State.before (input text : List Char) (depth : Nat) (failures : Failures) : State :=
  ⟨utf8Length input - utf8Length text, depth, failures⟩

/-- What a rule of the machine comes to at some depth if a rule of the grammar has a result.  Where
    that is a failure, the machine is left at some place. -/
def outcome (depth place : Nat) : Option (α × Cursor) × Failures → Outcome α
  | (some (a, cursor), failures) => some (some a, ⟨cursor.place, depth, failures⟩)
  | (none, failures) => some (none, ⟨place, depth, failures⟩)

section

variable (input : List Char) (depth : Nat)

/-- At some depth, the rule of the machine does what the rule of the grammar does before each text,
    and is left somewhere when it fails. -/
def Tracks (run : Routine α) (rule : Grammar α) : Prop :=
  ∀ text failures, text <:+ input → ∃ place,
    run (.before input text depth failures) =
      outcome depth place (rule (.before (utf8Length input) text) failures)

end

namespace Tracks

open Grammar

variable {input : List Char} {depth : Nat} {run other : Routine α} {rule rule' : Grammar α}
  {next : α → Routine β} {next' : α → Grammar β}

/-- A rule that reads nothing tracks one that reads nothing. -/
protected theorem pure (a : α) : Tracks input depth (pure a) (pure a) :=
  fun _ _ _ => ⟨0, rfl⟩

/-- Rules in a row track rules in a row, since the second ones start at the same place. -/
protected theorem bind [Lawful rule] (h : Tracks input depth run rule)
    (hnext : ∀ a, Tracks input depth (next a) (next' a)) :
    Tracks input depth (run >>= next) (rule >>= next') := by
  intro text failures htext
  obtain ⟨place, hrun⟩ := h text failures htext
  obtain ⟨notes, hnotes⟩ := exists_notes rule text
  have hrule := hnotes.run (utf8Length input) failures (utf8Length_le_of_suffix htext)
  show ∃ place, _ = outcome depth place (Grammar.bind rule next' _ _)
  unfold Grammar.bind
  rw [hrule] at hrun ⊢
  -- both go on from the same place, or both stop
  cases hread : rule.read text with
  | none =>
    rw [hread] at hrun
    exact ⟨place, bind_of_none hrun⟩
  | some p =>
    rw [hread] at hrun
    rw [bind_of_some hrun]
    exact hnext p.1 p.2 _ ((hnotes.read_suffix p hread).trans htext)

/-- Going back after a failure changes no answer. -/
protected theorem attempt (h : Tracks input depth run rule) :
    Tracks input depth (attempt run) rule := by
  intro text failures htext
  obtain ⟨place, hrun⟩ := h text failures htext
  -- it is left at its start, wherever the rule itself was left
  refine ⟨utf8Length input - utf8Length text, ?_⟩
  unfold attempt
  rw [hrun]
  cases rule (.before (utf8Length input) text) failures with
  | mk answer failures => cases answer <;> rfl

/-- A choice tracks a choice if its first rule goes back. -/
protected theorem orElse [Rewinds run] (h : Tracks input depth run rule)
    (hother : Tracks input depth other rule') :
    Tracks input depth (run <|> other) (rule <|> rule') := by
  intro text failures htext
  obtain ⟨place, hrun⟩ := h text failures htext
  show ∃ place, _ = outcome depth place (Grammar.orElse rule (fun _ => rule') _ _)
  unfold Grammar.orElse
  cases hresult : rule (.before (utf8Length input) text) failures with
  | mk answer failures' =>
    rw [hresult] at hrun
    cases answer with
    | some p => exact ⟨place, orElse_of_some hrun⟩
    | none =>
      -- the other rule starts where the first one did
      have hplace : place = utf8Length input - utf8Length text := Rewinds.place_eq hrun
      subst hplace
      rw [orElse_of_none hrun]
      exact hother text failures' htext

end Tracks

/-! ## The rules, one by one

Each rule of the machine tracks the rule of the grammar that has its name. -/

namespace Machine

open Grammar

variable {input text : List Char} {depth : Nat} {failures : Failures}

/-- Before a text at the end of the query, the text is what follows. -/
private theorem rest_bind_before (htext : text <:+ input) (next : List Char → Routine β) :
    (rest input >>= next) (.before input text depth failures) =
      next text (.before input text depth failures) := by
  obtain ⟨front, rfl⟩ := htext
  have hplace : (State.before (front ++ text) text depth failures).place = utf8Length front := by
    simp [State.before]
  rw [rest_bind, hplace, splitBytes?_append]
  rfl

/-- A step over a text leads behind it. -/
private theorem advance_before {front back : List Char} (htext : front ++ back <:+ input) :
    advance (utf8Length front) (.before input (front ++ back) depth failures) =
      some (some (), .before input back depth failures) := by
  have hle := utf8Length_le_of_suffix htext
  rw [utf8Length_append] at hle
  have hplace : utf8Length input - utf8Length (front ++ back) + utf8Length front =
      utf8Length input - utf8Length back := by
    rw [utf8Length_append]
    omega
  simp only [advance, State.before, hplace]

/-- Both read the same and note nothing. -/
private theorem tracks_some {run : Routine α} {rule : Grammar α} {rest : List Char} {a : α}
    (htext : text <:+ input) (h : rule.read text = some (a, rest) ∧ rule.Notes text [])
    (hrun : run (.before input text depth failures) =
      some (some a, .before input rest depth failures)) :
    ∃ place, run (.before input text depth failures) =
      outcome depth place (rule (.before (utf8Length input) text) failures) := by
  obtain ⟨hread, hnotes⟩ := h
  rw [hnotes.run _ _ (utf8Length_le_of_suffix htext), hread, hrun]
  exact ⟨0, rfl⟩

/-- Both fail and note the same. -/
private theorem tracks_none {run : Routine α} {rule : Grammar α} {n : Note} {place : Nat}
    (htext : text <:+ input) (h : rule.read text = none ∧ rule.Notes text [n])
    (hrun : run (.before input text depth failures) = some (none,
      ⟨place, depth, failures.note (utf8Length input - utf8Length n.rest) n.expected⟩)) :
    ∃ place, run (.before input text depth failures) =
      outcome depth place (rule (.before (utf8Length input) text) failures) := by
  obtain ⟨hread, hnotes⟩ := h
  rw [hnotes.run _ _ (utf8Length_le_of_suffix htext), hread, hrun]
  exact ⟨place, rfl⟩

/-- A fixed text. -/
theorem literal_tracks (s : String) : Tracks input depth (literal input s) (Query.literal s) := by
  intro text failures htext
  by_cases hstarts : s.toList <+: text
  · obtain ⟨back, rfl⟩ := hstarts
    apply tracks_some htext (literal_append s back)
    unfold literal
    rw [rest_bind_before htext, if_pos (List.isPrefixOf_iff_prefix.mpr (List.prefix_append _ _))]
    exact advance_before htext
  · apply tracks_none htext (literal_of_not_start hstarts)
    unfold literal
    rw [rest_bind_before htext, if_neg (mt List.isPrefixOf_iff_prefix.mp hstarts)]
    rfl

/-- An operator. -/
theorem operator_tracks : Tracks input depth (operator input) Query.operator := by
  intro text failures htext
  cases hfind : operators.find? (fun op => op.symbol.toList.isPrefixOf text) with
  | none =>
    apply tracks_none htext (operator_of_find_none hfind)
    unfold operator
    rw [rest_bind_before htext, hfind]
    rfl
  | some op =>
    obtain ⟨back, rfl, h⟩ := operator_of_find hfind
    apply tracks_some htext h
    unfold operator
    rw [rest_bind_before htext, hfind]
    exact bind_of_some (advance_before htext)

/-- The place of the first reserved character, or the end, is where a run of others ends. -/
private theorem runLength_eq {run back : List Char} (hrun : ∀ c ∈ run, isReserved c = false)
    (hends : Ends back) :
    (findByte? isReserved (run ++ back)).getD (utf8Length (run ++ back)) = utf8Length run := by
  cases back with
  | nil => rw [List.append_nil, findByte?_eq_none hrun, Option.getD_none]
  | cons c back => rw [findByte?_append hrun (ends_cons.mp hends), Option.getD_some]

/-- A raw string. -/
theorem raw_tracks : Tracks input depth (raw input) Query.raw := by
  intro text failures htext
  obtain ⟨run, back, rfl, hrun, hends⟩ := exists_unreserved_run text
  -- an empty run has length zero, and only such a run has
  cases run with
  | nil =>
    apply tracks_none htext (raw_of_ends hends)
    unfold raw
    rw [rest_bind_before htext]
    dsimp only
    rw [runLength_eq hrun hends]
    rfl
  | cons c run =>
    have hsize := c.utf8Size_pos
    apply tracks_some htext (raw_run (List.cons_ne_nil _ _) hrun hends)
    unfold raw
    rw [rest_bind_before htext]
    rw [runLength_eq hrun hends, if_neg (by simp; omega), bind_of_some (advance_before htext),
      textBefore_bind, splitBytes?_append]
    rfl

/-- The rest of a quoted string. -/
private theorem closing_tracks : Tracks input depth (closing input) Query.closing := by
  intro text failures htext
  rcases exists_unquoted_run text with hnot | ⟨inside, back, rfl, hinside⟩
  · have hfind : findByte? (· == '"') text = none :=
      findByte?_eq_none fun c hc => beq_eq_false_iff_ne.mpr fun heq => hnot (heq ▸ hc)
    apply tracks_none htext (closing_of_not_mem hnot)
    unfold closing
    rw [rest_bind_before htext, hfind]
    rfl
  · have hfind : findByte? (· == '"') (inside ++ '"' :: back) = some (utf8Length inside) :=
      findByte?_append (fun c hc => beq_eq_false_iff_ne.mpr fun heq => hinside (heq ▸ hc)) rfl
    -- the machine moves past the quote too
    have hmove : advance (utf8Length inside + 1)
        (.before input (inside ++ '"' :: back) depth failures) =
          some (some (), .before input back depth failures) := by
      have hsize : utf8Length inside + 1 = utf8Length (inside ++ ['"']) := by
        rw [utf8Length_append]
        rfl
      rw [List.append_cons] at htext ⊢
      rw [hsize]
      exact advance_before htext
    apply tracks_some htext (closing_append hinside)
    unfold closing
    rw [rest_bind_before htext, hfind]
    refine (bind_of_some hmove).trans ?_
    rw [textBefore_bind, splitBytes?_append]
    rfl

/-- A quoted string. -/
theorem quoted_tracks : Tracks input depth (quoted input) Query.quoted :=
  ((literal_tracks _).bind fun _ => closing_tracks).attempt

/-- A string of either kind. -/
theorem string_tracks : Tracks input depth (string input) Query.string :=
  raw_tracks.orElse quoted_tracks

/-- A term with a field. -/
theorem fullTerm_tracks : Tracks input depth (fullTerm input) Query.fullTerm :=
  (string_tracks.bind fun _ => operator_tracks.bind fun _ => string_tracks.bind fun _ =>
    .pure _).attempt

/-- A term without a field. -/
private theorem bareTerm_tracks : Tracks input depth (bareTerm input) Query.bareTerm :=
  string_tracks.bind fun _ => .pure _

/-- A term. -/
theorem single_tracks : Tracks input depth (single input) Query.single :=
  (fullTerm_tracks.orElse bareTerm_tracks).bind fun _ => .pure _

/-- Two parts with a separator between them. -/
theorem pair_tracks {part : Routine Query} {rule : Grammar Query} [Lawful rule]
    (h : Tracks input depth part rule) (separator : String) (join : Query → Query → Query) :
    Tracks input depth (pair input part separator join) (Query.pair rule separator join) :=
  (h.bind fun _ => (literal_tracks _).bind fun _ => h.bind fun _ => .pure _).attempt

/-- A sentence without brackets. -/
private theorem plain_tracks :
    Tracks input depth (orTerms input <|> andTerms input <|> single input) Query.plain :=
  (pair_tracks single_tracks _ _).orElse ((pair_tracks single_tracks _ _).orElse single_tracks)

/-- One bracket deeper, the machine does what the grammar does with one bracket less to go. -/
private theorem deeper_tracks {run : Routine α} {rule : Grammar α} (hdepth : depth < maxNesting)
    (h : Tracks input (depth + 1) run rule) : Tracks input depth (deeper run) rule := by
  intro text failures htext
  obtain ⟨place, hrun⟩ := h text failures htext
  refine ⟨place, ?_⟩
  have hlimit : ¬ maxNesting ≤ (State.before input text depth failures).depth :=
    Nat.not_le.mpr hdepth
  unfold deeper
  rw [if_neg hlimit]
  show Outcome.ascend (run (.before input text (depth + 1) failures)) = _
  rw [hrun]
  cases rule (.before (utf8Length input) text) failures with
  | mk answer failures => cases answer <;> rfl

/-- At the limit the machine fails as the grammar does with no bracket to go. -/
private theorem deeper_tracks_fail (run : Routine α) :
    Tracks input maxNesting (deeper run) (Grammar.fail .nestingDepth) := by
  intro text failures htext
  refine ⟨_, if_pos (Nat.le_refl _)⟩

/-- A sentence in brackets, if the sentence inside is tracked. -/
theorem bracketed_tracks {rule : Grammar Query} [Lawful rule]
    (h : Tracks input depth (deeper (sentence input)) rule) :
    Tracks input depth (bracketed input) (Query.bracketed rule) := by
  rw [bracketed_eq]
  exact ((literal_tracks _).bind fun _ => h.bind fun _ => (literal_tracks _).bind fun _ =>
    .pure _).attempt

/-- A sentence, if what may stand in its brackets is tracked. -/
private theorem sentence_tracks_of_inner {levels : Nat}
    (h : Tracks input depth (deeper (sentence input)) (inner levels)) :
    Tracks input depth (sentence input) (Query.sentence levels) := by
  rw [Machine.sentence_eq, Query.sentence_eq]
  exact (bracketed_tracks h).orElse plain_tracks

/-- What stands in brackets, where the depth and the brackets to go make up the limit. -/
theorem inner_tracks {levels : Nat} (h : depth + levels = maxNesting) :
    Tracks input depth (deeper (sentence input)) (inner levels) := by
  -- the brackets to go get fewer by one where the depth gets one more
  induction levels generalizing depth with
  | zero =>
    rw [Nat.add_zero] at h
    subst h
    exact deeper_tracks_fail _
  | succ levels ih =>
    exact deeper_tracks (by omega) (sentence_tracks_of_inner (ih (by omega)))

/-- A sentence, with as many brackets to go as are left at its depth. -/
theorem sentence_tracks (hdepth : depth ≤ maxNesting) :
    Tracks input depth (sentence input) (Query.sentence (maxNesting - depth)) :=
  sentence_tracks_of_inner (inner_tracks (by omega))

/-- A whole query. -/
private theorem whole_tracks : Tracks input 0 (whole input) Query.whole := by
  have hsentence : Tracks input 0 (sentence input) (Query.sentence maxNesting) :=
    sentence_tracks (Nat.zero_le _)
  exact (pair_tracks hsentence _ _).orElse ((pair_tracks hsentence _ _).orElse hsentence)

/-- The machine never breaks down on a query, and reads it as the grammar does. -/
theorem parse_eq_parse (s : String) : parse s = some (Query.parse s) := by
  obtain ⟨place, hrun⟩ := whole_tracks s.toList .none List.suffix_rfl
  obtain ⟨notes, hnotes⟩ := exists_notes Query.whole s.toList
  have hresult := hnotes.run (utf8Length s.toList) .none (Nat.le_refl _)
  have hstart : Cursor.before (utf8Length s.toList) s.toList = ⟨0, s.toList⟩ := by
    simp [Cursor.before]
  have hstate : State.before s.toList s.toList 0 .none = ⟨0, 0, .none⟩ := by
    simp [State.before]
  rw [hstart] at hrun hresult
  rw [hstate, hresult] at hrun
  unfold parse Query.parse
  rw [hrun, hresult]
  cases hread : Query.whole.read s.toList with
  | none => rfl
  | some p =>
    obtain ⟨q, rest⟩ := p
    have hle := utf8Length_le_of_suffix (hnotes.read_suffix _ hread)
    -- the end is reached in bytes exactly if nothing is left
    cases rest with
    | nil => simp [outcome]
    | cons c rest =>
      have hsize := c.utf8Size_pos
      rw [utf8Length_cons] at hle
      have hne : ¬ utf8Length s.toList - (c.utf8Size + utf8Length rest) = utf8Length s.toList := by
        omega
      simp [outcome, hne]

end Machine

end Sift.Query

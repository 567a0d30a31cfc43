import Sift.Query.Parser

/-!
# What the rules of the grammar read

A rule of the grammar works on a cursor and on the failures so far.  All the rules of the query
grammar are *lawful*: what they read depends on the text that follows the cursor and on nothing
else, and they change the failures only by noting what was missing before some end of that text.

* `Grammar.read rule text` is what the rule reads from a text, and what it leaves.
* `Grammar.Notes rule text notes` says which failures it notes there.
* `read_bind`, `read_orElse` and their companions for `NotesAll` and `NotesSome` take a rule apart
  along its definition, so that no later proof looks at cursors or failures.
* `Failures.Sound` is what notes keep of the failures.
-/

namespace Sift.Query

/-! ## Places -/

/-- No characters have no bytes. -/
@[simp] theorem utf8Length_nil : utf8Length [] = 0 := rfl

/-- The bytes of a text are those of its first character and of the rest. -/
@[simp] theorem utf8Length_cons (c : Char) (cs : List Char) :
    utf8Length (c :: cs) = c.utf8Size + utf8Length cs := rfl

/-- The bytes of two texts in a row add up. -/
@[simp] theorem utf8Length_append (xs ys : List Char) :
    utf8Length (xs ++ ys) = utf8Length xs + utf8Length ys := by
  induction xs with
  | nil => simp
  | cons x xs ih => simp [ih]; omega

/-- An end of a text has no more bytes than the text. -/
theorem utf8Length_le_of_suffix {xs ys : List Char} (h : xs <:+ ys) :
    utf8Length xs ≤ utf8Length ys := by
  obtain ⟨front, rfl⟩ := h
  rw [utf8Length_append]; omega

/-- The place before `rest`, in a query of `total` bytes that ends with `rest`. -/
def Cursor.before (total : Nat) (rest : List Char) : Cursor :=
  ⟨total - utf8Length rest, rest⟩

/-- What follows a place is what it stands before. -/
@[simp] theorem Cursor.before_rest (total : Nat) (rest : List Char) :
    (Cursor.before total rest).rest = rest := rfl

/-- A place is counted from the start of the query. -/
@[simp] theorem Cursor.before_place (total : Nat) (rest : List Char) :
    (Cursor.before total rest).place = total - utf8Length rest := rfl

/-- Moving past the front of a text stops before its back. -/
theorem Cursor.advance_before {total count : Nat} {front rest : List Char}
    (hle : utf8Length (front ++ rest) ≤ total) (hcount : front.length = count) :
    (Cursor.before total (front ++ rest)).advance count = .before total rest := by
  subst hcount
  simp only [utf8Length_append] at hle
  simp only [Cursor.advance, Cursor.before, List.take_left, List.drop_left, utf8Length_append,
    Cursor.mk.injEq, and_true]
  omega

/-- Something that was expected before `rest`. -/
structure Note where
  rest : List Char
  expected : Expected

/-- Notes one thing after the other, in a query of `total` bytes. -/
def Failures.noteAll (failures : Failures) (total : Nat) (notes : List Note) : Failures :=
  notes.foldl (fun failures n => failures.note (total - utf8Length n.rest) n.expected) failures

/-- Without notes the failures stay as they are. -/
@[simp] theorem Failures.noteAll_nil (failures : Failures) (total : Nat) :
    failures.noteAll total [] = failures := rfl

/-- Notes are made from the first on. -/
@[simp] theorem Failures.noteAll_cons (failures : Failures) (total : Nat) (n : Note)
    (notes : List Note) :
    failures.noteAll total (n :: notes) =
      (failures.note (total - utf8Length n.rest) n.expected).noteAll total notes := rfl

/-- Notes may be made in two goes. -/
@[simp] theorem Failures.noteAll_append (failures : Failures) (total : Nat)
    (notes more : List Note) :
    failures.noteAll total (notes ++ more) =
      (failures.noteAll total notes).noteAll total more := by
  simp [Failures.noteAll]

/-! ## Failures that were noted -/

/-- Nothing is expected twice, and where nothing is expected there was no failure. -/
structure Failures.Sound (failures : Failures) : Prop where
  nodup : failures.expected.Nodup
  noted : failures.expected ≠ [] ∨ failures.furthest = 0

namespace Failures

variable {failures : Failures}

/-- A note does not bring the furthest place back. -/
theorem furthest_le_note (place : Nat) (expected : Expected) :
    failures.furthest ≤ (failures.note place expected).furthest := by
  unfold note
  split
  · exact Nat.le_of_lt ‹_›
  · split
    · rename_i hcond
      exact Nat.le_of_eq hcond.1.symm
    · exact Nat.le_refl _

/-- The furthest place is at or beyond the place of a note. -/
theorem le_furthest_note (place : Nat) (expected : Expected) :
    place ≤ (failures.note place expected).furthest := by
  unfold note
  split
  · exact Nat.le_refl _
  · split
    · exact Nat.le_refl _
    · show place ≤ failures.furthest
      omega

/-- After a note there is something to name, even if the note is left out. -/
theorem Sound.expected_note_ne_nil (h : failures.Sound) (place : Nat) (expected : Expected) :
    (failures.note place expected).expected ≠ [] := by
  unfold note
  split
  · exact List.cons_ne_nil _ _
  -- the note is dropped only if its place is passed already, or if it is there
  · rename_i hge
    split
    · simp
    · rename_i hcond
      intro hnil
      have hzero := h.noted.resolve_left (fun hne => hne hnil)
      have hplace : place = failures.furthest := by omega
      exact hcond ⟨hplace, by simp [hnil]⟩

/-- A note keeps the failures sound. -/
theorem Sound.note (h : failures.Sound) (place : Nat) (expected : Expected) :
    (failures.note place expected).Sound where
  nodup := by
    unfold Failures.note
    split
    · simp
    · split
      · rename_i hcond
        -- it was not there before, or it would not have been added
        rw [List.nodup_append]
        refine ⟨h.nodup, by simp, fun a ha b hb heq => ?_⟩
        rw [List.mem_singleton.mp hb] at heq
        exact hcond.2 (heq ▸ ha)
      · exact h.nodup
  noted := .inl (h.expected_note_ne_nil place expected)

/-- Notes keep the failures sound and never bring them back; the furthest place is at or beyond each
    of them. -/
theorem Sound.noteAll (h : failures.Sound) (total : Nat) (notes : List Note) :
    (failures.noteAll total notes).Sound ∧
      failures.furthest ≤ (failures.noteAll total notes).furthest ∧
      ∀ n ∈ notes, total - utf8Length n.rest ≤ (failures.noteAll total notes).furthest := by
  -- on the notes, with the failures as the first of them leaves them
  induction notes generalizing failures with
  | nil => exact ⟨h, Nat.le_refl _, nofun⟩
  | cons n notes ih =>
    obtain ⟨hsound, hle, hall⟩ := ih (h.note (total - utf8Length n.rest) n.expected)
    rw [noteAll_cons]
    refine ⟨hsound, Nat.le_trans (furthest_le_note _ _) hle, List.forall_mem_cons.mpr ⟨?_, hall⟩⟩
    exact Nat.le_trans (le_furthest_note _ _) hle

/-- After some notes there is something to name. -/
theorem Sound.expected_noteAll_ne_nil (h : failures.Sound) (total : Nat) {notes : List Note}
    (hne : notes ≠ []) : (failures.noteAll total notes).expected ≠ [] := by
  induction notes generalizing failures with
  | nil => exact absurd rfl hne
  | cons n notes ih =>
    have hsound := h.note (total - utf8Length n.rest) n.expected
    rw [noteAll_cons]
    cases notes with
    | nil => exact h.expected_note_ne_nil _ _
    | cons m notes => exact ih hsound (List.cons_ne_nil _ _)

end Failures

namespace Grammar

variable {α β : Type}

/-! ## Reading a text -/

/-- What a rule reads from a text, and the rest of the text after it. -/
def read (rule : Grammar α) (text : List Char) : Option (α × List Char) :=
  (rule (.before (utf8Length text) text) .none).1.map fun p => (p.1, p.2.rest)

/-- On this text the rule makes these notes, whatever stands before the text and whatever was
    noted before, and it never looks back beyond its start. -/
structure Notes (rule : Grammar α) (text : List Char) (notes : List Note) : Prop where
  run : ∀ total failures, utf8Length text ≤ total →
    rule (.before total text) failures =
      ((rule.read text).map fun p => (p.1, .before total p.2), failures.noteAll total notes)
  read_suffix : ∀ p ∈ rule.read text, p.2 <:+ text
  suffix : ∀ n ∈ notes, n.rest <:+ text

/-- A rule that acts on every text by what it reads and what it notes. -/
class Lawful (rule : Grammar α) : Prop where
  notes : ∀ text, ∃ notes, rule.Notes text notes

/-- A lawful rule notes something, if only nothing, on every text. -/
theorem exists_notes (rule : Grammar α) [Lawful rule] (text : List Char) :
    ∃ notes, rule.Notes text notes :=
  Lawful.notes text

/-- A rule that is known to succeed on a text, given what it leaves and notes. -/
theorem notes_of_some {rule : Grammar α} {text rest : List Char} {a : α} {notes : List Note}
    (hrest : rest <:+ text) (hnotes : ∀ n ∈ notes, n.rest <:+ text)
    (hrun : ∀ total failures, utf8Length text ≤ total →
      rule (.before total text) failures =
        (some (a, .before total rest), failures.noteAll total notes)) :
    rule.read text = some (a, rest) ∧ rule.Notes text notes := by
  have hread : rule.read text = some (a, rest) := by
    simp [read, hrun _ _ (Nat.le_refl _)]
  refine ⟨hread, fun total failures hle => ?_, ?_, hnotes⟩
  · simp [hrun total failures hle, hread]
  · intro p hp
    simp only [hread, Option.mem_def, Option.some.injEq] at hp
    exact hp ▸ hrest

/-- A rule that is known to fail on a text, given what it notes. -/
theorem notes_of_none {rule : Grammar α} {text : List Char} {notes : List Note}
    (hnotes : ∀ n ∈ notes, n.rest <:+ text)
    (hrun : ∀ total failures, utf8Length text ≤ total →
      rule (.before total text) failures = (none, failures.noteAll total notes)) :
    rule.read text = none ∧ rule.Notes text notes := by
  have hread : rule.read text = none := by
    simp [read, hrun _ _ (Nat.le_refl _)]
  refine ⟨hread, fun total failures hle => ?_, ?_, hnotes⟩
  · simp [hrun total failures hle, hread]
  · simp [hread]

/-- What a lawful rule leaves is an end of the text it was given. -/
theorem read_suffix (rule : Grammar α) [Lawful rule] {text rest : List Char} {a : α}
    (h : rule.read text = some (a, rest)) : rest <:+ text := by
  obtain ⟨notes, hnotes⟩ := exists_notes rule text
  exact hnotes.read_suffix _ h

/-! ## Sequence and choice -/

/-- Two rules of which the first succeeds: the second one goes on with what it left. -/
private theorem bind_of_some {rule : Grammar α} {next : α → Grammar β} {text rest : List Char}
    {a : α} {notes more : List Note} (hn : rule.Notes text notes)
    (hread : rule.read text = some (a, rest)) (hm : (next a).Notes rest more) :
    (rule >>= next).read text = (next a).read rest ∧
      (rule >>= next).Notes text (notes ++ more) := by
  have hrest : rest <:+ text := hn.read_suffix _ hread
  -- the second rule notes at ends of what the first one left
  have hsuffix : ∀ n ∈ notes ++ more, n.rest <:+ text := by
    intro n hmem
    rcases List.mem_append.mp hmem with h | h
    · exact hn.suffix n h
    · exact (hm.suffix n h).trans hrest
  -- both rules run in the same query, so its length stays the one given at the start
  have hrun : ∀ total failures, utf8Length text ≤ total →
      (rule >>= next) (.before total text) failures =
        (((next a).read rest).map fun p => (p.1, .before total p.2),
          failures.noteAll total (notes ++ more)) := by
    intro total failures hle
    show Grammar.bind rule next _ _ = _
    simp only [Grammar.bind, hn.run total failures hle, hread, Option.map_some,
      Failures.noteAll_append]
    exact hm.run total _ (Nat.le_trans (utf8Length_le_of_suffix hrest) hle)
  cases hnext : (next a).read rest with
  | none => exact notes_of_none hsuffix (by simpa [hnext] using hrun)
  | some p =>
    have hp : p.2 <:+ text := (hm.read_suffix p hnext).trans hrest
    exact notes_of_some hp hsuffix (by simpa [hnext] using hrun)

/-- Two rules of which the first fails. -/
private theorem bind_of_none {rule : Grammar α} {next : α → Grammar β} {text : List Char}
    {notes : List Note} (hn : rule.Notes text notes) (hread : rule.read text = none) :
    (rule >>= next).read text = none ∧ (rule >>= next).Notes text notes := by
  refine notes_of_none hn.suffix fun total failures hle => ?_
  show Grammar.bind rule next _ _ = _
  simp [Grammar.bind, hn.run total failures hle, hread]

/-- A choice of which the first rule succeeds. -/
private theorem orElse_of_some {rule other : Grammar α} {text : List Char} {p : α × List Char}
    {notes : List Note} (hn : rule.Notes text notes) (hread : rule.read text = some p) :
    (rule <|> other).read text = some p ∧ (rule <|> other).Notes text notes := by
  refine notes_of_some (hn.read_suffix p hread) hn.suffix fun total failures hle => ?_
  show Grammar.orElse rule (fun _ => other) _ _ = _
  simp [Grammar.orElse, hn.run total failures hle, hread]

/-- A choice of which the first rule fails: the second one starts over. -/
private theorem orElse_of_none {rule other : Grammar α} {text : List Char}
    {notes more : List Note} (hn : rule.Notes text notes) (hread : rule.read text = none)
    (hm : other.Notes text more) :
    (rule <|> other).read text = other.read text ∧
      (rule <|> other).Notes text (notes ++ more) := by
  have hsuffix : ∀ n ∈ notes ++ more, n.rest <:+ text := by
    intro n hmem
    rcases List.mem_append.mp hmem with h | h
    · exact hn.suffix n h
    · exact hm.suffix n h
  -- the second rule starts over at the same place, but keeps what the first one noted
  have hrun : ∀ total failures, utf8Length text ≤ total →
      (rule <|> other) (.before total text) failures =
        ((other.read text).map fun p => (p.1, .before total p.2),
          failures.noteAll total (notes ++ more)) := by
    intro total failures hle
    show Grammar.orElse rule (fun _ => other) _ _ = _
    simp only [Grammar.orElse, hn.run total failures hle, hread, Option.map_none,
      Failures.noteAll_append]
    exact hm.run total _ hle
  cases hother : other.read text with
  | none => exact notes_of_none hsuffix (by simpa [hother] using hrun)
  | some p => exact notes_of_some (hm.read_suffix p hother) hsuffix (by simpa [hother] using hrun)

/-- A rule that reads nothing notes nothing. -/
private theorem pure_notes (a : α) (text : List Char) :
    (pure a : Grammar α).read text = some (a, text) ∧ (pure a : Grammar α).Notes text [] :=
  notes_of_some List.suffix_rfl (by simp) fun _ _ _ => rfl

instance (a : α) : Lawful (pure a : Grammar α) :=
  ⟨fun text => ⟨[], (pure_notes a text).2⟩⟩

instance (rule : Grammar α) (next : α → Grammar β) [Lawful rule] [∀ a, Lawful (next a)] :
    Lawful (rule >>= next) where
  notes text := by
    obtain ⟨notes, hn⟩ := exists_notes rule text
    cases hread : rule.read text with
    | none => exact ⟨notes, (bind_of_none hn hread).2⟩
    | some p =>
      obtain ⟨more, hm⟩ := exists_notes (next p.1) p.2
      exact ⟨notes ++ more, (bind_of_some hn hread hm).2⟩

instance (rule other : Grammar α) [Lawful rule] [Lawful other] : Lawful (rule <|> other) where
  notes text := by
    obtain ⟨notes, hn⟩ := exists_notes rule text
    cases hread : rule.read text with
    | none =>
      obtain ⟨more, hm⟩ := exists_notes other text
      exact ⟨notes ++ more, (orElse_of_none hn hread hm).2⟩
    | some p => exact ⟨notes, (orElse_of_some hn hread).2⟩

/-- A rule that reads nothing leaves the text as it is. -/
@[simp] theorem read_pure (a : α) (text : List Char) :
    (pure a : Grammar α).read text = some (a, text) :=
  (pure_notes a text).1

/-- A sequence reads with its second rule what its first rule left. -/
theorem read_bind (rule : Grammar α) (next : α → Grammar β) [Lawful rule]
    [∀ a, Lawful (next a)] (text : List Char) :
    (rule >>= next).read text = (rule.read text).bind fun p => (next p.1).read p.2 := by
  obtain ⟨notes, hn⟩ := exists_notes rule text
  cases hread : rule.read text with
  | none => exact (bind_of_none hn hread).1
  | some p =>
    obtain ⟨more, hm⟩ := exists_notes (next p.1) p.2
    exact (bind_of_some hn hread hm).1

/-- A choice reads with its second rule where its first rule fails. -/
theorem read_orElse (rule other : Grammar α) [Lawful rule] [Lawful other] (text : List Char) :
    (rule <|> other).read text = (rule.read text).or (other.read text) := by
  obtain ⟨notes, hn⟩ := exists_notes rule text
  cases hread : rule.read text with
  | none =>
    obtain ⟨more, hm⟩ := exists_notes other text
    exact (orElse_of_none hn hread hm).1
  | some p => exact (orElse_of_some hn hread).1

/-! ## What every note satisfies, and what some note satisfies -/

/-- Everything that the rule notes on a text satisfies `Q`. -/
def NotesAll (rule : Grammar α) (text : List Char) (Q : Note → Prop) : Prop :=
  ∃ notes, rule.Notes text notes ∧ ∀ n ∈ notes, Q n

/-- Something that the rule notes on a text satisfies `Q`. -/
def NotesSome (rule : Grammar α) (text : List Char) (Q : Note → Prop) : Prop :=
  ∃ notes, rule.Notes text notes ∧ ∃ n ∈ notes, Q n

variable {rule other : Grammar α} {next : α → Grammar β} {text rest : List Char} {a : α}
  {Q R : Note → Prop}

/-- What every note satisfies may be replaced by what follows from it at an end of the text. -/
theorem NotesAll.mono (h : rule.NotesAll text Q) (himp : ∀ n, n.rest <:+ text → Q n → R n) :
    rule.NotesAll text R := by
  obtain ⟨notes, hn, hall⟩ := h
  exact ⟨notes, hn, fun n hmem => himp n (hn.suffix n hmem) (hall n hmem)⟩

/-- The same for what some note satisfies. -/
theorem NotesSome.mono (h : rule.NotesSome text Q) (himp : ∀ n, n.rest <:+ text → Q n → R n) :
    rule.NotesSome text R := by
  obtain ⟨notes, hn, n, hmem, hq⟩ := h
  exact ⟨notes, hn, n, hmem, himp n (hn.suffix n hmem) hq⟩

/-- A rule that reads nothing notes nothing that could fail to satisfy anything. -/
theorem NotesAll.pure (a : α) (text : List Char) (Q : Note → Prop) :
    (pure a : Grammar α).NotesAll text Q :=
  ⟨[], (pure_notes a text).2, by simp⟩

/-- The notes of a sequence are those of its rules, the second one where the first left off. -/
theorem NotesAll.bind (h : rule.NotesAll text Q)
    (hnext : ∀ a rest, rule.read text = some (a, rest) → (next a).NotesAll rest Q) :
    (rule >>= next).NotesAll text Q := by
  obtain ⟨notes, hn, hall⟩ := h
  cases hread : rule.read text with
  | none => exact ⟨notes, (bind_of_none hn hread).2, hall⟩
  | some p =>
    obtain ⟨more, hm, hmore⟩ := hnext p.1 p.2 hread
    refine ⟨notes ++ more, (bind_of_some hn hread hm).2, fun n hmem => ?_⟩
    rcases List.mem_append.mp hmem with h | h
    · exact hall n h
    · exact hmore n h

/-- The notes of a choice are those of its rules, the second one where the first fails. -/
theorem NotesAll.orElse (h : rule.NotesAll text Q)
    (hother : rule.read text = none → other.NotesAll text Q) :
    (rule <|> other).NotesAll text Q := by
  obtain ⟨notes, hn, hall⟩ := h
  cases hread : rule.read text with
  | some p => exact ⟨notes, (orElse_of_some hn hread).2, hall⟩
  | none =>
    obtain ⟨more, hm, hmore⟩ := hother hread
    refine ⟨notes ++ more, (orElse_of_none hn hread hm).2, fun n hmem => ?_⟩
    rcases List.mem_append.mp hmem with h | h
    · exact hall n h
    · exact hmore n h

/-- What the first rule of a sequence notes, the sequence does. -/
theorem NotesSome.bind_left [∀ a, Lawful (next a)] (h : rule.NotesSome text Q) :
    (rule >>= next).NotesSome text Q := by
  obtain ⟨notes, hn, n, hmem, hq⟩ := h
  cases hread : rule.read text with
  | none => exact ⟨notes, (bind_of_none hn hread).2, n, hmem, hq⟩
  | some p =>
    obtain ⟨more, hm⟩ := exists_notes (next p.1) p.2
    exact ⟨notes ++ more, (bind_of_some hn hread hm).2, n, List.mem_append_left _ hmem, hq⟩

/-- What the second rule of a sequence notes, the sequence does. -/
theorem NotesSome.bind_right [Lawful rule] (hread : rule.read text = some (a, rest))
    (h : (next a).NotesSome rest Q) : (rule >>= next).NotesSome text Q := by
  obtain ⟨notes, hn⟩ := exists_notes rule text
  obtain ⟨more, hm, n, hmem, hq⟩ := h
  exact ⟨notes ++ more, (bind_of_some hn hread hm).2, n, List.mem_append_right _ hmem, hq⟩

/-- What the first rule of a choice notes, the choice does, whether it fails or not. -/
theorem NotesSome.orElse_left [Lawful other] (h : rule.NotesSome text Q) :
    (rule <|> other).NotesSome text Q := by
  obtain ⟨notes, hn, n, hmem, hq⟩ := h
  cases hread : rule.read text with
  | some p => exact ⟨notes, (orElse_of_some hn hread).2, n, hmem, hq⟩
  | none =>
    obtain ⟨more, hm⟩ := exists_notes other text
    exact ⟨notes ++ more, (orElse_of_none hn hread hm).2, n, List.mem_append_left _ hmem, hq⟩

/-- What the second rule of a choice notes, the choice does, if the first fails. -/
theorem NotesSome.orElse_right [Lawful rule] (hread : rule.read text = none)
    (h : other.NotesSome text Q) : (rule <|> other).NotesSome text Q := by
  obtain ⟨notes, hn⟩ := exists_notes rule text
  obtain ⟨more, hm, n, hmem, hq⟩ := h
  exact ⟨notes ++ more, (orElse_of_none hn hread hm).2, n, List.mem_append_right _ hmem, hq⟩

/-! ## Tokens -/

/-- A rule without parts: it reads something and notes nothing, or it reads nothing and notes one
    thing, `missing text`. -/
class Token (rule : Grammar α) (missing : outParam (List Char → Note)) : Prop where
  scans : ∀ text, (rule.read text ≠ none ∧ rule.Notes text []) ∨
    (rule.read text = none ∧ rule.Notes text [missing text])

variable {missing : List Char → Note}

/-- A token reads something and notes nothing, or the other way round. -/
private theorem token_cases (rule : Grammar α) [Token rule missing] (text : List Char) :
    (rule.read text ≠ none ∧ rule.Notes text []) ∨
      (rule.read text = none ∧ rule.Notes text [missing text]) :=
  Token.scans text

instance (rule : Grammar α) [Token rule missing] : Lawful rule where
  notes text := by
    rcases token_cases rule text with ⟨-, h⟩ | ⟨-, h⟩
    · exact ⟨_, h⟩
    · exact ⟨_, h⟩

/-- What a token notes where it is missing. -/
theorem notes_of_missing [Token rule missing] (h : rule.read text = none) :
    rule.Notes text [missing text] := by
  rcases token_cases rule text with ⟨hsome, -⟩ | ⟨-, hnotes⟩
  · exact absurd h hsome
  · exact hnotes

/-- A token notes nothing but what it misses. -/
theorem NotesAll.token [Token rule missing] (h : rule.read text = none → Q (missing text)) :
    rule.NotesAll text Q := by
  rcases token_cases rule text with ⟨-, hnotes⟩ | ⟨hnone, hnotes⟩
  · exact ⟨[], hnotes, by simp⟩
  · exact ⟨_, hnotes, by simpa using h hnone⟩

end Grammar

end Sift.Query

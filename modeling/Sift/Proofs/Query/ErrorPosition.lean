import Sift.Proofs.Query.Expectation
import Sift.Proofs.Query.Reach

/-!
# Where an error is reported

A query that cannot be read is reported at the end of its longest *viable* beginning, that is the
longest one with an accepted continuation (`parse_error_position`).  The only exception is a bracket
beyond the limit, which is reported just after it.

Two results meet here.  Every place that was noted is viable, since what was expected there can be
given (`whole_notes`); and no viable beginning ends beyond the furthest note, since the grammar gets
to the end of each of them (`whole_reaches`).
-/

namespace Sift.Query

open Grammar

/-! ## What the failures record -/

/-- The failures after some notes: the furthest of their places, and what was noted there. -/
structure Failures.Records (failures : Failures) (total : Nat) (notes : List Note) : Prop where
  le_furthest : ∀ n ∈ notes, total - utf8Length n.rest ≤ failures.furthest
  noted : ∀ e ∈ failures.expected, ∃ n ∈ notes,
    n.expected = e ∧ total - utf8Length n.rest = failures.furthest
  nodup : failures.expected.Nodup
  ne_nil : notes ≠ [] → failures.expected ≠ []
  furthest_eq_zero : failures.expected = [] → failures.furthest = 0

/-- Without notes there is nothing to record. -/
private theorem Failures.records_none (total : Nat) : Failures.none.Records total [] where
  le_furthest := by simp
  noted := by simp [Failures.none]
  nodup := List.nodup_nil
  ne_nil h := absurd rfl h
  furthest_eq_zero _ := rfl

/-- What the failures record is sound. -/
private theorem Failures.Records.sound {failures : Failures} {total : Nat} {notes : List Note}
    (h : failures.Records total notes) : failures.Sound where
  nodup := h.nodup
  noted := by
    by_cases hnil : failures.expected = []
    · exact .inr (h.furthest_eq_zero hnil)
    · exact .inl hnil

/-- One more note. -/
theorem Failures.Records.note {failures : Failures} {total : Nat} {notes : List Note}
    (h : failures.Records total notes) (n : Note) :
    (failures.note (total - utf8Length n.rest) n.expected).Records total (notes ++ [n]) where
  le_furthest m hm := by
    rcases List.mem_append.mp hm with hm | hm
    · exact Nat.le_trans (h.le_furthest m hm) (furthest_le_note _ _)
    · rw [List.mem_singleton.mp hm]
      exact le_furthest_note _ _
  noted := by
    have hnew : n ∈ notes ++ [n] := by simp
    unfold Failures.note
    split
    · -- beyond all places so far
      simp only [List.mem_singleton, forall_eq]
      exact ⟨n, hnew, rfl, rfl⟩
    · split
      · -- at the furthest place, and not noted there before
        rename_i hcond
        intro e he
        rcases List.mem_append.mp he with he | he
        · obtain ⟨m, hm, hme, hmp⟩ := h.noted e he
          exact ⟨m, List.mem_append_left _ hm, hme, hmp.trans hcond.1.symm⟩
        · exact ⟨n, hnew, (List.mem_singleton.mp he).symm, rfl⟩
      · -- before the furthest place, or there already
        intro e he
        obtain ⟨m, hm, hme⟩ := h.noted e he
        exact ⟨m, List.mem_append_left _ hm, hme⟩
  nodup := (h.sound.note _ _).nodup
  ne_nil _ := h.sound.expected_note_ne_nil _ _
  furthest_eq_zero hnil := absurd hnil (h.sound.expected_note_ne_nil _ _)

/-- Any number of notes more. -/
private theorem Failures.Records.noteAll {failures : Failures} {total : Nat} {seen : List Note}
    (h : failures.Records total seen) (notes : List Note) :
    (failures.noteAll total notes).Records total (seen ++ notes) := by
  -- on the notes that are still to come
  induction notes generalizing failures seen with
  | nil => simpa using h
  | cons n notes ih => simpa using ih (h.note n)

/-- What an error says about the notes that led to it. -/
private theorem ParseError.records_ofNotes (s : String) (notes : List Note) :
    Failures.Records ⟨(ParseError.ofNotes s notes).position, (ParseError.ofNotes s notes).expected⟩
      (utf8Length s.toList) notes := by
  have h := (Failures.records_none (utf8Length s.toList)).noteAll notes
  rw [List.nil_append] at h
  exact h

/-! ## The notes behind an error -/

variable {s : String} {err : ParseError}

/-- An error comes from all notes of the grammar and, if something was left over, from the note
    that the end was expected before it. -/
private theorem parse_error_notes (h : parse s = .error err) {notes : List Note}
    (hnotes : whole.Notes s.toList notes) :
    (whole.read s.toList = none ∧ err = .ofNotes s notes) ∨
      ∃ q rest, whole.read s.toList = some (q, rest) ∧
        err = .ofNotes s (notes ++ [⟨rest, .endOfInput⟩]) := by
  rw [parse_eq hnotes] at h
  cases hread : whole.read s.toList with
  | none =>
    simp only [hread, Except.error.injEq] at h
    exact .inl ⟨rfl, h.symm⟩
  | some p =>
    obtain ⟨q, rest⟩ := p
    cases rest with
    | nil => simp [hread] at h
    | cons c rest =>
      simp only [hread, Except.error.injEq] at h
      exact .inr ⟨q, c :: rest, rfl, h.symm⟩

/-- Everything an error names was noted at its position. -/
private theorem parse_error_all (h : parse s = .error err) {Q : Note → Prop}
    (hall : whole.NotesAll s.toList Q)
    (hend : ∀ q rest, whole.read s.toList = some (q, rest) → Q ⟨rest, .endOfInput⟩) :
    ∃ notes, err = .ofNotes s notes ∧ ∀ n ∈ notes, Q n := by
  obtain ⟨notes, hnotes, hq⟩ := hall
  rcases parse_error_notes h hnotes with ⟨-, rfl⟩ | ⟨q, rest, hread, rfl⟩
  · exact ⟨notes, rfl, hq⟩
  · refine ⟨_, rfl, fun n hn => ?_⟩
    rcases List.mem_append.mp hn with hn | hn
    · exact hq n hn
    · rw [List.mem_singleton.mp hn]
      exact hend q rest hread

/-- An error is reported at or beyond every place that the grammar reaches. -/
private theorem parse_error_some (h : parse s = .error err) {u : List Char}
    (hreach : whole.Reaches s.toList u) :
    ∃ notes, err = .ofNotes s notes ∧ ∃ n ∈ notes, n.rest <:+ u := by
  -- the place is reached by what is left over, or by a note of the grammar itself
  rcases hreach with ⟨q, rest, hread, hrest⟩ | ⟨notes, hnotes, n, hn, hu⟩
  · obtain ⟨notes, hnotes⟩ := exists_notes whole s.toList
    rcases parse_error_notes h hnotes with ⟨hnone, -⟩ | ⟨q', rest', hread', rfl⟩
    · rw [hread] at hnone; cases hnone
    · rw [hread] at hread'
      obtain ⟨rfl, rfl⟩ := Prod.mk.inj (Option.some.inj hread')
      exact ⟨_, rfl, _, List.mem_append_right _ (List.mem_singleton_self _), hrest⟩
  · rcases parse_error_notes h hnotes with ⟨-, rfl⟩ | ⟨q, rest, -, rfl⟩
    · exact ⟨_, rfl, n, hn, hu⟩
    · exact ⟨_, rfl, n, List.mem_append_left _ hn, hu⟩

/-! ## Positions and beginnings -/

/-- Lengths in bytes are those of strings. -/
theorem utf8ByteSize_ofList (cs : List Char) : (String.ofList cs).utf8ByteSize = utf8Length cs := by
  induction cs with
  | nil => rfl
  | cons c cs ih =>
    rw [String.ofList_cons, String.utf8ByteSize_append, String.utf8ByteSize_singleton, ih,
      utf8Length_cons]

/-- Of two beginnings of one text, the one that has no more bytes is a beginning of the other. -/
private theorem prefix_of_utf8Length_le {xs ys text : List Char} (hx : xs <+: text)
    (hy : ys <+: text) (h : utf8Length xs ≤ utf8Length ys) : xs <+: ys := by
  rcases List.prefix_or_prefix_of_prefix hx hy with hxy | ⟨tail, rfl⟩
  · exact hxy
  · cases tail with
    | nil => simp
    | cons c tail =>
      simp only [utf8Length_append, utf8Length_cons] at h
      have := c.utf8Size_pos
      omega

/-- The place of a note is the length of the text before it. -/
private theorem place_eq_utf8Length {text front rest : List Char} (h : text = front ++ rest) :
    utf8Length text - utf8Length rest = utf8Length front := by
  rw [h, utf8Length_append]; omega

/-! ## Viable beginnings -/

/-- Some continuation of the text can be read. -/
def Viable (front : String) : Prop := ∃ (more : String) (q : Query), parse (front ++ more) = .ok q

/-- `front` is the longest beginning of `s` that is viable. -/
structure IsLongestViable (s front : String) : Prop where
  isPrefix : front.toList <+: s.toList
  viable : Viable front
  longest : ∀ other : String, other.toList <+: s.toList → Viable other →
    other.toList <+: front.toList

/-- A text is viable if it begins an accepted one. -/
theorem viable_iff_begins {front : String} : Viable front ↔ Begins front.toList := by
  constructor
  · rintro ⟨more, q, h⟩
    rw [parse_eq_ok_iff, String.toList_append] at h
    exact ⟨more.toList, q, h⟩
  · rintro ⟨more, q, h⟩
    refine ⟨String.ofList more, q, ?_⟩
    rw [parse_eq_ok_iff, String.toList_append, String.toList_ofList]
    exact h

/-- What a viable beginning begins with is viable. -/
private theorem Begins.of_longer {front longer : List Char} (h : Begins longer)
    (hp : front <+: longer) : Begins front := by
  obtain ⟨tail, rfl⟩ := hp
  obtain ⟨more, q, h⟩ := h
  exact ⟨tail ++ more, q, by simpa using h⟩

/-- What a note says about the text before it, `front`: that it is viable, or that it is not and
    ends in a bracket after a viable beginning. -/
inductive Verdict (e : Expected) (front : List Char) : Prop
  | beyond (h : e = .nestingDepth) (before : List Char) (hfront : front = before ++ ['('])
      (hbegins : Begins before) (hends : ¬ Begins front)
  | viable (h : e ≠ .nestingDepth) (hbegins : Begins front)

/-- Every note on a query gives a verdict on the text before it. -/
private theorem QueryNote.verdict {front rest : List Char} {e : Expected}
    (h : QueryNote (front ++ rest) ⟨rest, e⟩) : Verdict e front := by
  cases h with
  | beyond h before htext hbegins hends =>
    have hfront : front = before ++ ['('] := List.append_cancel_right (htext.trans (by simp))
    exact .beyond h before hfront hbegins (hfront ▸ hends)
  | limit h begun htext _ hbegins =>
    obtain rfl := List.append_cancel_right htext
    exact .viable (fun hlimit => nomatch h.symm.trans hlimit) hbegins
  | ends h begun htext haccepted =>
    obtain rfl := List.append_cancel_right htext
    obtain ⟨q, hq⟩ := haccepted
    exact .viable (fun hlimit => nomatch h.symm.trans hlimit) ⟨[], q, by simpa using hq⟩
  | completes h =>
    obtain ⟨⟨word, hword⟩, begun, htext, hall⟩ := h
    obtain rfl := List.append_cancel_right htext
    obtain ⟨more, q, hq⟩ := hall word hword
    refine .viable (fun hlimit => ?_) ⟨word ++ more, q, hq⟩
    -- the limit of brackets has no spelling
    subst hlimit
    cases hword

/-- Every error has a place in its query, and all that it names was noted there. -/
theorem parse_error_noted (h : parse s = .error err) :
    err.expected ≠ [] ∧ err.expected.Nodup ∧ (∀ e ∈ err.expected, e ∈ expectations) ∧
      ∃ front rest, s.toList = front ++ rest ∧ utf8Length front = err.position ∧
        ∀ e ∈ err.expected, QueryNote (front ++ rest) ⟨rest, e⟩ := by
  have hall := (whole_notes s.toList).mono fun n hsuffix hn => And.intro hsuffix hn
  have hend : ∀ q rest, whole.read s.toList = some (q, rest) →
      rest <:+ s.toList ∧ QueryNote s.toList ⟨rest, .endOfInput⟩ := by
    intro q rest hread
    obtain ⟨front, htext, haccepted⟩ := whole_read_sound hread
    exact ⟨read_suffix whole hread, .ends rfl front htext ⟨q, haccepted⟩⟩
  obtain ⟨notes, hnotes, hall⟩ := parse_error_all h hall hend
  obtain ⟨names, hnames, hnamed⟩ := parse_error_all h (Named.all s.toList)
    fun _ _ _ => by simp [expectations]
  -- a viable beginning that is empty: the grammar notes something at all
  have hletter : Accepted ([] ++ ['x']) (.term TermSpelling.letter.term) :=
    .sentence (.term .letter)
  obtain ⟨found, hfound, n, hn, -⟩ := parse_error_some h (@whole_reaches [] s.toList _ _ hletter)
  have hne : err.expected ≠ [] := by
    rw [hfound]
    exact (ParseError.records_ofNotes s found).ne_nil (List.ne_nil_of_mem hn)
  have hrecords := ParseError.records_ofNotes s notes
  rw [← hnotes] at hrecords
  -- every name has a beginning of its own, and they all have the same length
  have hfront : ∀ e ∈ err.expected, ∃ front rest, s.toList = front ++ rest ∧
      utf8Length front = err.position ∧ QueryNote s.toList ⟨rest, e⟩ := by
    intro e he
    obtain ⟨⟨rest, e'⟩, hn, rfl, hplace⟩ := hrecords.noted e he
    obtain ⟨⟨front, htext⟩, hnote⟩ := hall _ hn
    exact ⟨front, rest, htext.symm, (place_eq_utf8Length htext.symm).symm.trans hplace, hnote⟩
  refine ⟨hne, hrecords.nodup, fun e he => ?_, ?_⟩
  · have hrecords' := ParseError.records_ofNotes s names
    rw [← hnames] at hrecords'
    obtain ⟨n, hn, rfl, -⟩ := hrecords'.noted e he
    exact hnamed n hn
  · obtain ⟨e₀, he₀⟩ := List.exists_mem_of_ne_nil _ hne
    obtain ⟨front, rest, htext, hlength, -⟩ := hfront e₀ he₀
    refine ⟨front, rest, htext, hlength, fun e he => ?_⟩
    obtain ⟨front', rest', htext', hlength', hnote⟩ := hfront e he
    have hsame : front' = front := by
      have hle := prefix_of_utf8Length_le ⟨rest', htext'.symm⟩ ⟨rest, htext.symm⟩ (by omega)
      have hge := prefix_of_utf8Length_le ⟨rest, htext.symm⟩ ⟨rest', htext'.symm⟩ (by omega)
      exact hle.eq_of_length (Nat.le_antisymm hle.length_le hge.length_le)
    subst hsame
    obtain rfl := List.append_cancel_left (htext.symm.trans htext')
    rwa [htext] at hnote

/-- All that an error names gives the same verdict on the text before its place. -/
private theorem parse_error_verdict (h : parse s = .error err) :
    err.expected ≠ [] ∧ err.expected.Nodup ∧ (∀ e ∈ err.expected, e ∈ expectations) ∧
      ∃ front, front <+: s.toList ∧ utf8Length front = err.position ∧
        ∀ e ∈ err.expected, Verdict e front := by
  obtain ⟨hne, hnodup, hknown, front, rest, htext, hlength, hnotes⟩ := parse_error_noted h
  exact ⟨hne, hnodup, hknown, front, ⟨rest, htext.symm⟩, hlength, fun e he => (hnotes e he).verdict⟩

/-- No viable beginning ends beyond the position of an error. -/
private theorem utf8Length_le_position (h : parse s = .error err) {front : List Char}
    (hstart : front <+: s.toList) (hbegins : Begins front) : utf8Length front ≤ err.position := by
  -- the grammar gets to the end of the beginning, and notes something there or further on
  obtain ⟨u, hu⟩ := hstart
  obtain ⟨more, q, haccepted⟩ := hbegins
  have hreach := @whole_reaches front u _ _ haccepted
  rw [hu] at hreach
  obtain ⟨notes, rfl, n, hn, hrest⟩ := parse_error_some h hreach
  have hplace := (ParseError.records_ofNotes s notes).le_furthest n hn
  have hlength := utf8Length_le_of_suffix hrest
  have htotal := congrArg utf8Length hu
  simp only [utf8Length_append] at htotal
  simp only at hplace
  omega

/-! ## The position of an error -/

/-- A list that names one thing only, and nothing twice, has one element. -/
private theorem eq_singleton_of_nodup {es : List Expected} {e : Expected} (hne : es ≠ [])
    (hnodup : es.Nodup) (h : ∀ x ∈ es, x = e) : es = [e] := by
  match es, hne, hnodup with
  | [x], _, _ => rw [h x (by simp)]
  | x :: y :: es, _, hnodup =>
    rw [h x (by simp), h y (by simp)] at hnodup
    simp at hnodup

/-- A bracket beyond the limit is the only thing named, and the text before it is the longest
    viable beginning. -/
private theorem longestViable_of_beyond {front before : List Char}
    (hverdict : ∀ e ∈ err.expected, Verdict e front) (hstart : front <+: s.toList)
    (hfront : front = before ++ ['(']) (hbegins : Begins before) (hends : ¬ Begins front) :
    (∀ e ∈ err.expected, e = .nestingDepth) ∧ IsLongestViable s (String.ofList before) := by
  refine ⟨fun e he => ?_, ?_, ?_, ?_⟩
  · cases hverdict e he with
    | beyond h => exact h
    | viable _ hfront' => exact absurd hfront' hends
  · rw [String.toList_ofList]
    exact (hfront ▸ List.prefix_append _ _).trans hstart
  · rw [viable_iff_begins, String.toList_ofList]
    exact hbegins
  · intro other hother hviable
    rw [viable_iff_begins] at hviable
    rw [String.toList_ofList]
    -- a viable beginning stops before the bracket, or everything up to it would be viable
    rcases List.prefix_or_prefix_of_prefix hother hstart with hle | hge
    · rw [hfront, List.prefix_concat_iff] at hle
      rcases hle with heq | hle
      · exact absurd (hfront ▸ heq ▸ hviable) hends
      · exact hle
    · exact absurd (hviable.of_longer hge) hends

/-- Where an error is not at the limit of brackets, it is at the end of the longest viable
    beginning. -/
private theorem longestViable_of_viable (h : parse s = .error err) {front : List Char}
    (hverdict : ∀ e ∈ err.expected, Verdict e front) (hstart : front <+: s.toList)
    (hlength : utf8Length front = err.position) (hbegins : Begins front) :
    (∀ e ∈ err.expected, e ≠ .nestingDepth) ∧ IsLongestViable s (String.ofList front) := by
  refine ⟨fun e he => ?_, ?_, ?_, ?_⟩
  · cases hverdict e he with
    | beyond _ before _ _ hends => exact absurd hbegins hends
    | viable h => exact h
  · rwa [String.toList_ofList]
  · rwa [viable_iff_begins, String.toList_ofList]
  -- a longer beginning would end beyond the position
  · intro other hother hviable
    rw [viable_iff_begins] at hviable
    rw [String.toList_ofList]
    have hle := utf8Length_le_position h hother hviable
    exact prefix_of_utf8Length_le hother hstart (by omega)

/-- The position of an error is the length in bytes of a beginning of the query, and something is
    expected there, nothing twice.  Either only the limit of brackets is named, the beginning ends
    in a bracket and the text before that bracket is the longest viable beginning; or the limit is
    not named, and it is the longest viable beginning itself. -/
theorem parse_error_position (s : String) (err : ParseError) (h : parse s = .error err) :
    ∃ front : String, front.toList <+: s.toList ∧ front.utf8ByteSize = err.position ∧
      err.position ≤ s.utf8ByteSize ∧
      err.expected.map Expected.text ≠ [] ∧ (err.expected.map Expected.text).Nodup ∧
      ((err.expected.map Expected.text = ["nesting depth"] ∧
          ∃ before, front = before ++ "(" ∧ IsLongestViable s before) ∨
        ("nesting depth" ∉ err.expected.map Expected.text ∧ IsLongestViable s front)) := by
  obtain ⟨hne, hnodup, hknown, front, hstart, hlength, hverdict⟩ := parse_error_verdict h
  have hsize : err.position ≤ s.utf8ByteSize := by
    obtain ⟨tail, htail⟩ := hstart
    have htotal := congrArg utf8Length htail
    rw [utf8Length_append, ← utf8ByteSize_ofList s.toList, String.ofList_toList] at htotal
    omega
  have htexts : (err.expected.map Expected.text).Nodup := by
    refine List.pairwise_map.mpr (hnodup.imp_of_mem fun ha hb hab heq => hab ?_)
    exact text_inj_of_mem_expectations _ (hknown _ ha) _ (hknown _ hb) heq
  refine ⟨String.ofList front, by rwa [String.toList_ofList], by rw [utf8ByteSize_ofList, hlength],
    hsize, by simpa using hne, htexts, ?_⟩
  -- all names give the same verdict, so one of them decides
  obtain ⟨e₀, he₀⟩ := List.exists_mem_of_ne_nil _ hne
  cases hverdict e₀ he₀ with
  | beyond _ before hfront hbegins hends =>
    obtain ⟨honly, hlongest⟩ := longestViable_of_beyond hverdict hstart hfront hbegins hends
    refine .inl ⟨?_, String.ofList before, ?_, hlongest⟩
    · rw [eq_singleton_of_nodup hne hnodup honly]; rfl
    · rw [hfront, String.ofList_append]
  | viable _ hbegins =>
    obtain ⟨hnot, hlongest⟩ := longestViable_of_viable h hverdict hstart hlength hbegins
    refine .inr ⟨fun hmem => ?_, hlongest⟩
    obtain ⟨e, he, htext⟩ := List.mem_map.mp hmem
    exact hnot e he (text_inj_of_mem_expectations e (hknown e he) .nestingDepth
      (by simp [expectations]) htext)

set_option maxRecDepth 1024 in
/-- A bracket that is still open after a word taken for a term. -/
theorem parse_error_position_open_bracket :
    parse "a OR (" = .error ⟨"a OR (", 6, [.literal "(", .term, .literal "\""]⟩ ∧
      ∃ front : String, front.utf8ByteSize = 6 ∧ IsLongestViable "a OR (" front := by
  have hparse : parse "a OR (" =
      .error ⟨"a OR (", 6, [.literal "(", .term, .literal "\""]⟩ := rfl
  refine ⟨hparse, ?_⟩
  obtain ⟨front, -, hsize, -, -, -, ⟨hone, -⟩ | ⟨-, hlongest⟩⟩ :=
    parse_error_position "a OR (" _ hparse
  · exact absurd hone (by decide)
  · exact ⟨front, hsize, hlongest⟩

end Sift.Query

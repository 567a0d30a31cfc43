import Sift.Proofs.Query.Sentence

/-!
# The texts that are accepted

Ordered choice commits to the first alternative that matches, so whether two sentences can stand
side by side depends on what the left one does with the space after it.  A *solid* sentence is read
the same way whatever follows the space.  A *loose* one, a single term or a term and the word `OR`,
would take in a term after the space, and is only read as it stands if none follows.

`Accepted text q` lists the texts of whole queries by these two kinds; `parse_eq_ok_iff` says that
they are exactly the texts that can be read, with the query they are read as.
-/

namespace Sift.Query

open Grammar

variable {depth : Nat} {text front rest : List Char} {q : Query}

/-! ## Solid and loose sentences -/

/-- A sentence that keeps its end whatever follows the space after it. -/
inductive Solid : Nat → List Char → Query → Prop
  | or {depth : Nat} (l r : TermSpelling) :
      Solid depth (l.text ++ (" OR ".toList ++ r.text)) (.or (.term l.term) (.term r.term))
  | and {depth : Nat} (l r : TermSpelling) (hr : r.text ≠ ['O', 'R']) :
      Solid depth (l.text ++ (" ".toList ++ r.text)) (.and (.term l.term) (.term r.term))
  | group {depth : Nat} {text : List Char} {q : Query} (h : Sentence depth text q) :
      Solid (depth + 1) ("(".toList ++ (text ++ ")".toList)) (.group q)

/-- A sentence that would take in a term after the space that follows it. -/
inductive Loose : List Char → Query → Prop
  | term (t : TermSpelling) : Loose t.text (.term t.term)
  | orWord (t : TermSpelling) :
      Loose (t.text ++ (" ".toList ++ TermSpelling.orWord.text))
        (.and (.term t.term) (.term TermSpelling.orWord.term))

/-- A solid sentence is a sentence. -/
theorem Solid.toSentence (h : Solid depth text q) : Sentence depth text q := by
  cases h with
  | or l r => exact .or l r
  | and l r hr => exact .and l r
  | group h => exact .group h

/-- A loose sentence is one, without a bracket. -/
theorem Loose.toSentence (depth : Nat) (h : Loose text q) : Sentence depth text q := by
  cases h with
  | term t => exact .term t
  | orWord t => exact .and t _

/-- A solid sentence is read back before every space. -/
theorem Solid.read (h : Solid depth text q) (rest : List Char) :
    (sentence depth).read (text ++ ' ' :: rest) = some (q, ' ' :: rest) := by
  have hstops : Stops (' ' :: rest) := by simp
  cases h with
  | or l r => exact sentence_read_or _ l r hstops
  | and l r hr => exact sentence_read_and _ l r hstops fun h => absurd h hr
  | group h => exact sentence_read_group (h.read (by simp))

/-- A loose sentence is read back before a space that no term follows. -/
theorem Loose.read (depth : Nat) (h : Loose text q) (hrest : single.read rest = none) :
    (sentence depth).read (text ++ ' ' :: rest) = some (q, ' ' :: rest) := by
  have hstops : Stops (' ' :: rest) := by simp
  have hno : ∀ back, ' ' :: rest = ' ' :: back → single.read back = none := by
    rintro back hback
    obtain ⟨-, rfl⟩ := List.cons.inj hback
    exact hrest
  cases h with
  | term t => exact sentence_read_term _ t hstops hno
  | orWord t => exact sentence_read_and _ t _ hstops fun _ => hno

/-- A loose sentence takes in the term after the space that follows it. -/
theorem Loose.append_term (depth : Nat) (h : Loose text q) (t : TermSpelling) :
    ∃ q', Sentence depth (text ++ (" ".toList ++ t.text)) q' := by
  cases h with
  | term l => exact ⟨_, .and l t⟩
  | orWord l =>
    -- with a term after it the word becomes the connective
    have hor := @Sentence.or depth l t
    exact ⟨_, by simpa using hor⟩

/-- Two terms are solid, or the second of them is the word of a disjunction. -/
private theorem solid_or_loose_and (depth : Nat) (l r : TermSpelling) :
    Solid depth (l.text ++ (" ".toList ++ r.text)) (.and (.term l.term) (.term r.term)) ∨
      (r.text = ['O', 'R'] ∧
        Loose (l.text ++ (" ".toList ++ r.text)) (.and (.term l.term) (.term r.term))) := by
  by_cases hword : r.text = ['O', 'R']
  · obtain rfl := TermSpelling.eq_orWord_of_text hword
    exact .inr ⟨hword, .orWord l⟩
  · exact .inl (.and l r hword)

/-- Every sentence is solid or loose. -/
theorem Sentence.solid_or_loose (h : Sentence depth text q) :
    Solid depth text q ∨ Loose text q := by
  cases h with
  | term t => exact .inr (.term t)
  | or l r => exact .inl (.or l r)
  | and l r => exact (solid_or_loose_and depth l r).imp id And.right
  | group h => exact .inl (.group h)

/-- A sentence that was read up to a space is solid, or it is loose and no term followed. -/
theorem solid_or_loose_of_read
    (h : (sentence depth).read (front ++ ' ' :: rest) = some (q, ' ' :: rest)) :
    Solid depth front q ∨ (Loose front q ∧ single.read rest = none) := by
  rcases sentence_read_cases h with ⟨d, mid, r, rfl, htext, hinside, rfl⟩ | hplain
  · obtain ⟨inside, rfl, hsentence⟩ := sentence_read_sound hinside
    have hfront : front = "(".toList ++ (inside ++ ")".toList) :=
      List.append_cancel_right (htext.trans (by simp))
    exact .inl (hfront ▸ .group hsentence)
  · cases chain_read_eq_some_iff.mp hplain with
    | or hl hr =>
      obtain ⟨l, rfl, htext⟩ := exists_spelling_of_single_read hl
      obtain ⟨r, rfl, rfl⟩ := exists_spelling_of_single_read hr
      have hfront : front = l.text ++ (" OR ".toList ++ r.text) :=
        List.append_cancel_right (htext.trans (by simp))
      exact .inl (hfront ▸ .or l r)
    | and hl hr hor =>
      obtain ⟨l, rfl, htext⟩ := exists_spelling_of_single_read hl
      obtain ⟨r, rfl, rfl⟩ := exists_spelling_of_single_read hr
      have hfront : front = l.text ++ (" ".toList ++ r.text) :=
        List.append_cancel_right (htext.trans (by simp))
      rw [hfront]
      rcases solid_or_loose_and depth l r with hsolid | ⟨hword, hloose⟩
      · exact .inl hsolid
      · -- the second term is the word of a disjunction whose right side is missing
        exact .inr ⟨hloose, hor rest (by simp [hword])⟩
    | part h hor hand =>
      obtain ⟨t, rfl, htext⟩ := exists_spelling_of_single_read h
      have hfront : front = t.text := List.append_cancel_right htext
      exact .inr ⟨hfront ▸ .term t, hand rest rfl⟩

/-! ## Beginnings of sentences -/

/-- A sentence is read from everything that begins with a term. -/
private theorem sentence_read_ne_none (depth : Nat) (t : TermSpelling) (rest : List Char) :
    (sentence depth).read (t.text ++ rest) ≠ none := by
  rw [sentence_read_of_not_bracket _ (t.text_append_ne_bracket rest), plain_eq_chain, Ne,
    chain_read_eq_none_iff]
  exact single_read_ne_none t rest

/-- The text of a sentence is not empty. -/
theorem Sentence.text_ne_nil (h : Sentence depth text q) : text ≠ [] := by
  cases h with
  | term t => exact t.text_ne_nil
  | or l r => simp
  | and l r => simp
  | group h => simp

/-- A sentence that begins where no term does begins with a bracket. -/
private theorem exists_bracket_of_single_none (h : (sentence depth).read text = some (q, rest))
    (hnone : single.read text = none) : ∃ mid, text = '(' :: mid := by
  rcases sentence_read_cases h with ⟨d, mid, r, rfl, htext, -, -⟩ | hplain
  · exact ⟨mid, htext⟩
  · rw [plain_eq_chain, chain_read_eq_none_iff.mpr hnone] at hplain
    cases hplain

/-- What follows the word `OR` and a space in a sentence is itself a sentence, that begins with a
    term. -/
theorem Sentence.of_orWord (h : Sentence depth ("OR ".toList ++ text) q) :
    ∃ (t : TermSpelling) (back : List Char) (q' : Query),
      text = t.text ++ back ∧ Sentence depth text q' := by
  generalize hfull : "OR ".toList ++ text = full at h
  cases h with
  | term t =>
    rw [← List.append_nil t.text] at hfull
    obtain ⟨-, hnil⟩ := TermSpelling.eq_orWord_of_text_append (by simp) hfull.symm
    cases hnil
  | or l r =>
    -- `OR OR r`: without its first word this is a conjunction
    obtain ⟨-, hrest⟩ := TermSpelling.eq_orWord_of_text_append (by simp) hfull.symm
    obtain ⟨-, rfl⟩ := List.cons.inj hrest
    exact ⟨.orWord, ' ' :: r.text, _, rfl, .and .orWord r⟩
  | and l r =>
    obtain ⟨-, hrest⟩ := TermSpelling.eq_orWord_of_text_append (by simp) hfull.symm
    obtain ⟨-, rfl⟩ := List.cons.inj hrest
    exact ⟨r, [], _, (List.append_nil _).symm, .term r⟩
  | group h => simp at hfull

/-! ## Whole queries -/

/-- The texts of whole queries, with what they are read as. -/
inductive Accepted : List Char → Query → Prop
  | sentence {text : List Char} {q : Query} (h : Sentence maxNesting text q) : Accepted text q
  | or {left right : List Char} {l r : Query} (hl : Solid maxNesting left l)
      (hr : Sentence maxNesting right r) : Accepted (left ++ (" OR ".toList ++ right)) (.or l r)
  | and {left right : List Char} {l r : Query} (hl : Solid maxNesting left l)
      (hr : Sentence maxNesting right r) (hor : ¬ "OR ".toList <+: right) :
      Accepted (left ++ (" ".toList ++ right)) (.and l r)
  | andGroup {left right : List Char} {l r : Query} (hl : Loose left l)
      (hr : Sentence maxNesting ('(' :: right) r) :
      Accepted (left ++ (" ".toList ++ '(' :: right)) (.and l r)

/-- An accepted text is read to its end. -/
theorem Accepted.read (h : Accepted text q) : whole.read text = some (q, []) := by
  rw [whole_eq_chain, chain_read_eq_some_iff]
  have hend : ∀ {right : List Char} {r : Query}, Sentence maxNesting right r →
      (Query.sentence maxNesting).read right = some (r, []) := by
    intro right r hr
    simpa using hr.read closes_nil
  cases h with
  | sentence h => exact .part (hend h) (by simp) (by simp)
  | or hl hr => exact .or (hl.read _) (hend hr)
  -- the right side does not begin with the word, so the first alternative fails
  | and hl hr hor =>
    refine .and (hl.read _) (hend hr) ?_
    rintro back rfl
    exact absurd (List.prefix_append _ _) hor
  | andGroup hl hr =>
    refine .and (hl.read _ (single_read_bracket _)) (hend hr) ?_
    intro back hback
    simp at hback

/-- What is read of a text is accepted by itself. -/
theorem whole_read_sound (h : whole.read text = some (q, rest)) :
    ∃ front, text = front ++ rest ∧ Accepted front q := by
  rw [whole_eq_chain, chain_read_eq_some_iff] at h
  cases h with
  | or hl hr =>
    obtain ⟨left, rfl, hleft⟩ := sentence_read_sound hl
    obtain ⟨right, rfl, hright⟩ := sentence_read_sound hr
    rcases solid_or_loose_of_read hl with hsolid | ⟨-, hnone⟩
    · exact ⟨_, by simp, .or hsolid hright⟩
    · -- a loose sentence would have taken in the word `OR` as its second term
      exact absurd hnone (single_read_ne_none TermSpelling.orWord _)
  | and hl hr hor =>
    obtain ⟨left, rfl, hleft⟩ := sentence_read_sound hl
    rcases solid_or_loose_of_read hl with hsolid | ⟨hloose, hnone⟩
    · obtain ⟨right, rfl, hright⟩ := sentence_read_sound hr
      refine ⟨left ++ (" ".toList ++ right), by simp, .and hsolid hright ?_⟩
      -- a sentence after the word `OR` would have been taken by the first alternative
      rintro ⟨back, rfl⟩
      obtain ⟨t, tail, q', rfl, -⟩ := hright.of_orWord
      refine sentence_read_ne_none maxNesting t (tail ++ rest) ?_
      exact hor _ (by simp)
    · -- no term follows the loose sentence, so what was read there begins with a bracket
      obtain ⟨mid, rfl⟩ := exists_bracket_of_single_none hr hnone
      obtain ⟨right, hmid, hright⟩ := sentence_read_sound hr
      obtain ⟨c, right, rfl⟩ := List.exists_cons_of_ne_nil hright.text_ne_nil
      obtain ⟨rfl, rfl⟩ := List.cons.inj hmid
      exact ⟨left ++ (" ".toList ++ '(' :: right), by simp, .andGroup hloose hright⟩
  | part h hor hand =>
    obtain ⟨front, rfl, hfront⟩ := sentence_read_sound h
    exact ⟨front, rfl, .sentence hfront⟩

/-- The error of a query after some notes were made on it. -/
def ParseError.ofNotes (s : String) (notes : List Note) : ParseError :=
  let failures := Failures.none.noteAll (utf8Length s.toList) notes
  ⟨s, failures.furthest, failures.expected⟩

/-- Parsing in terms of what the grammar reads and notes. -/
theorem parse_eq {s : String} {notes : List Note} (hnotes : whole.Notes s.toList notes) :
    parse s = match whole.read s.toList with
      | some (q, []) => .ok q
      | some (_, rest) => .error (.ofNotes s (notes ++ [⟨rest, .endOfInput⟩]))
      | none => .error (.ofNotes s notes) := by
  have hstart : (⟨0, s.toList⟩ : Cursor) = .before (utf8Length s.toList) s.toList := by
    simp [Cursor.before]
  unfold parse
  rw [hstart, hnotes.run _ _ (Nat.le_refl _)]
  cases whole.read s.toList with
  | none => rfl
  | some p =>
    obtain ⟨q, rest⟩ := p
    cases rest with
    | nil => rfl
    | cons c rest => simp [ParseError.ofNotes]

/-- A query is read, and read as `q`, exactly from the texts accepted as `q`. -/
theorem parse_eq_ok_iff {s : String} {q : Query} : parse s = .ok q ↔ Accepted s.toList q := by
  obtain ⟨notes, hnotes⟩ := exists_notes whole s.toList
  rw [parse_eq hnotes]
  constructor
  · intro h
    cases hread : whole.read s.toList with
    | none => simp [hread] at h
    | some p =>
      obtain ⟨q', rest⟩ := p
      -- what was read is accepted, so the text is if nothing is left
      obtain ⟨front, hfront, haccepted⟩ := whole_read_sound hread
      cases rest with
      | nil =>
        simp only [hread, Except.ok.injEq] at h
        rwa [hfront, List.append_nil, ← h]
      | cons c rest => simp [hread] at h
  · intro h
    simp [h.read]

end Sift.Query

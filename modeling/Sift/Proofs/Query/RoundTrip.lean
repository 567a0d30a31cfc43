import Sift.Proofs.Query.Accepted

/-!
# Writing and reading back

Reading a spelling gives back the query that was spelled (`parse_spelling`), and whatever can be
read is a spelling of what it is read as (`exists_spelling_of_parse`).  Both speak of the same
shapes: a `Composed` query is a sentence or two sentences side by side, where a single term on the
left takes only a bracket on its right.  The pairs of two terms are sentences themselves, and a
term before the word `OR` and a bracket is not a shape that is ever read.
-/

namespace Sift.Query

/-- A sentence, or two sentences next to each other. -/
inductive Composed : Query → Prop
  | sentence {q : Query} (h : q.IsSentence) : Composed q
  | and {left right : Query} (hl : left.IsSentence) (hr : right.IsSentence)
      (hterm : ¬ left.IsTerm) : Composed (.and left right)
  | or {left right : Query} (hl : left.IsSentence) (hr : right.IsSentence)
      (hterm : ¬ left.IsTerm) : Composed (.or left right)
  | andGroup (t : Term) {inner : Query} (h : inner.IsSentence) :
      Composed (.and (.term t) (.group inner))

/-- Two sentences of two terms each are the most. -/
private theorem Composed.termCount_le {q : Query} (h : q.Composed) : q.termCount ≤ 4 := by
  cases h with
  | sentence h => exact Nat.le_trans h.termCount_le (by decide)
  | and hl hr | or hl hr =>
    have := hl.termCount_le
    have := hr.termCount_le
    simp only [termCount]; omega
  | andGroup t h =>
    have := h.termCount_le
    simp only [termCount]; omega

/-- The three ways in which a conjunction is composed. -/
private theorem Composed.of_and {left right : Query} (h : (Query.and left right).Composed) :
    (Query.and left right).IsSentence ∨
      (left.IsSentence ∧ right.IsSentence ∧ ¬ left.IsTerm) ∨
      (left.IsTerm ∧ right.IsSentence ∧ right.IsGroup) := by
  cases h with
  | sentence h => exact .inl h
  | and hl hr hterm => exact .inr (.inl ⟨hl, hr, hterm⟩)
  | andGroup t h => exact .inr (.inr ⟨⟨t, rfl⟩, .group h, ⟨_, rfl⟩⟩)

/-- The two ways in which a disjunction is composed. -/
private theorem Composed.of_or {left right : Query} (h : (Query.or left right).Composed) :
    (Query.or left right).IsSentence ∨
      (left.IsSentence ∧ right.IsSentence ∧ ¬ left.IsTerm) := by
  cases h with
  | sentence h => exact .inl h
  | or hl hr hterm => exact .inr ⟨hl, hr, hterm⟩

/-- A composed bracket is a sentence. -/
private theorem Composed.of_group {inner : Query} (h : (Query.group inner).Composed) :
    (Query.group inner).IsSentence := by
  cases h with
  | sentence h => exact h

/-! ## Writing -/

namespace Spelling

/-- A sentence that is more than a term keeps its end before a space, if it does not end in the
    word of a disjunction. -/
private theorem solid {s : Spelling} {depth : Nat} (hs : s.query.IsSentence)
    (hterm : ¬ s.query.IsTerm)
    (hn : s.query.nesting ≤ depth) (hword : .orWord ∉ s.terms) : Solid depth s.text s.query := by
  cases s with
  | term t => exact absurd ⟨t.term, rfl⟩ hterm
  | and left right =>
    obtain ⟨l, rfl⟩ := eq_term_of_query hs.of_and.1
    obtain ⟨r, rfl⟩ := eq_term_of_query hs.of_and.2
    -- two terms are solid unless the second is the word
    refine .and l r fun hr => hword ?_
    simp [terms, TermSpelling.eq_orWord_of_text hr]
  | or left right =>
    obtain ⟨l, rfl⟩ := eq_term_of_query hs.of_or.1
    obtain ⟨r, rfl⟩ := eq_term_of_query hs.of_or.2
    exact .or l r
  | group inner =>
    simp only [query, nesting] at hn
    obtain ⟨d, rfl⟩ : ∃ d, depth = d + 1 := ⟨depth - 1, by omega⟩
    cases hs with
    | group h => exact .group (sentence h (by omega))

/-- A sentence begins with the word of a disjunction only if its first term is that word. -/
private theorem not_start_orWord {s : Spelling} (hs : s.query.IsSentence)
    (hword : .orWord ∉ s.terms) : ¬ "OR ".toList <+: s.text := by
  rintro ⟨back, hback⟩
  cases s with
  -- a term has no space behind the word
  | term t =>
    rw [text, ← List.append_nil t.text] at hback
    obtain ⟨-, hnil⟩ := TermSpelling.eq_orWord_of_text_append (by simp) hback.symm
    cases hnil
  | and left right =>
    obtain ⟨l, rfl⟩ := eq_term_of_query hs.of_and.1
    obtain ⟨rfl, -⟩ := TermSpelling.eq_orWord_of_text_append (by simp) hback.symm
    exact hword (by simp [terms])
  | or left right =>
    obtain ⟨l, rfl⟩ := eq_term_of_query hs.of_or.1
    obtain ⟨rfl, -⟩ := TermSpelling.eq_orWord_of_text_append (by simp) hback.symm
    exact hword (by simp [terms])
  | group inner => simp [text] at hback

/-- Every spelling of a composed query is accepted, if the word of a disjunction is not one of its
    terms. -/
private theorem accepted {s : Spelling} (hs : s.query.Composed) (hn : s.query.nesting ≤ maxNesting)
    (hword : .orWord ∉ s.terms) : Accepted s.text s.query := by
  cases s with
  | term t => exact .sentence (.term t)
  | and left right =>
    have hleft : .orWord ∉ left.terms := fun h => hword (List.mem_append_left _ h)
    have hright : .orWord ∉ right.terms := fun h => hword (List.mem_append_right _ h)
    have hnl : left.query.nesting ≤ maxNesting := Nat.le_trans (Nat.le_max_left _ _) hn
    have hnr : right.query.nesting ≤ maxNesting := Nat.le_trans (Nat.le_max_right _ _) hn
    -- two terms are a sentence of their own; a term on the left of anything else is loose
    rcases hs.of_and with h | ⟨hl, hr, hterm⟩ | ⟨hl, hr, inner, hgroup⟩
    · exact .sentence (sentence h hn)
    · exact .and (solid hl hterm hnl hleft) (sentence hr hnr) (not_start_orWord hr hright)
    · obtain ⟨t, rfl⟩ := eq_term_of_query hl
      have hr' := sentence hr hnr
      cases right with
      | group inner => exact .andGroup (.term t) hr'
      | term | and | or => cases hgroup
  | or left right =>
    have hleft : .orWord ∉ left.terms := fun h => hword (List.mem_append_left _ h)
    have hnl : left.query.nesting ≤ maxNesting := Nat.le_trans (Nat.le_max_left _ _) hn
    have hnr : right.query.nesting ≤ maxNesting := Nat.le_trans (Nat.le_max_right _ _) hn
    rcases hs.of_or with h | ⟨hl, hr, hterm⟩
    · exact .sentence (sentence h hn)
    · exact .or (solid hl hterm hnl hleft) (sentence hr hnr)
  | group inner => exact .sentence (sentence hs.of_group hn)

end Spelling

/-- Every spelling of a composed query with at most `maxNesting` brackets around one another is read
    as that query, unless one of its bare terms is the raw word `OR`. -/
theorem parse_spelling (s : Spelling) (hs : s.query.Composed)
    (hn : s.query.nesting ≤ maxNesting) (hword : .orWord ∉ s.terms) :
    parse (String.ofList s.text) = .ok s.query := by
  rw [parse_eq_ok_iff, String.toList_ofList]
  exact s.accepted hs hn hword

/-- Two terms, one of them the quoted word `OR`, before a disjunction with a bracket. -/
theorem parse_spelling_quoted_word :
    parse "a \"OR\" OR (f>=1)" =
      .ok (.or (.and (.term ⟨none, .eq, .ofToken "a"⟩) (.term ⟨none, .eq, .ofToken "OR"⟩))
        (.group (.term ⟨some "f", .gte, .ofToken "1"⟩))) :=
  parse_spelling
    (.or (.and (.term (.bare (.word "a" (by decide))))
        (.term (.bare (.quoted "OR" (by decide)))))
      (.group (.term (.full (.word "f" (by decide)) .gte
        (.word "1" (by decide))))))
    (.or (.and _ _) (.group (.term _)) (by rintro ⟨t, ht⟩; cases ht)) (by decide)
    (by simp [Spelling.terms, TermSpelling.orWord, StringSpelling.word])

/-! ## Whatever is read was written -/

/-- A solid sentence is more than a term. -/
theorem Solid.not_isTerm {depth : Nat} {text : List Char} {q : Query}
    (h : Solid depth text q) : ¬ q.IsTerm := by
  rintro ⟨t, rfl⟩
  cases h

/-- A sentence whose text begins with a bracket is a sentence inside it. -/
theorem Sentence.exists_inside {depth : Nat} {tail : List Char} {q : Query}
    (h : Sentence depth ('(' :: tail) q) :
    ∃ d inside r, tail = inside ++ [')'] ∧ depth = d + 1 ∧ q = .group r ∧ Sentence d inside r := by
  generalize htext : '(' :: tail = text at h
  cases h with
  | term t => exact absurd ((List.append_nil _).trans htext.symm) (t.text_append_ne_bracket [] tail)
  | or l r | and l r => exact absurd htext.symm (l.text_append_ne_bracket _ tail)
  | group h =>
    obtain ⟨-, rfl⟩ := List.cons.inj htext
    exact ⟨_, _, _, rfl, rfl, rfl, h⟩

/-- A sentence whose text begins with a bracket is a bracket. -/
theorem Sentence.isGroup_of_bracket {depth : Nat} {tail : List Char} {q : Query}
    (h : Sentence depth ('(' :: tail) q) : q.IsGroup := by
  obtain ⟨-, -, r, -, -, hq, -⟩ := h.exists_inside
  exact ⟨r, hq⟩

/-- An accepted text is a spelling of what it is read as, and that is a composed query. -/
theorem Accepted.exists_spelling {text : List Char} {q : Query} (h : Accepted text q) :
    (∃ s : Spelling, s.text = text ∧ s.query = q) ∧ q.Composed ∧ q.nesting ≤ maxNesting := by
  cases h with
  | sentence h =>
    obtain ⟨hs, hq, hn⟩ := h.exists_spelling
    exact ⟨hs, .sentence hq, hn⟩
  | or hl hr =>
    obtain ⟨⟨l, rfl, rfl⟩, hlq, hln⟩ := hl.toSentence.exists_spelling
    obtain ⟨⟨r, rfl, rfl⟩, hrq, hrn⟩ := hr.exists_spelling
    exact ⟨⟨.or l r, rfl, rfl⟩, .or hlq hrq hl.not_isTerm, Nat.max_le.mpr ⟨hln, hrn⟩⟩
  | and hl hr hor =>
    obtain ⟨⟨l, rfl, rfl⟩, hlq, hln⟩ := hl.toSentence.exists_spelling
    obtain ⟨⟨r, rfl, rfl⟩, hrq, hrn⟩ := hr.exists_spelling
    exact ⟨⟨.and l r, rfl, rfl⟩, .and hlq hrq hl.not_isTerm, Nat.max_le.mpr ⟨hln, hrn⟩⟩
  | andGroup hl hr =>
    obtain ⟨inner, rfl⟩ := hr.isGroup_of_bracket
    obtain ⟨⟨l, hltext, hlquery⟩, -, hln⟩ := (hl.toSentence maxNesting).exists_spelling
    obtain ⟨⟨r, hrtext, hrquery⟩, hrq, hrn⟩ := hr.exists_spelling
    refine ⟨⟨.and l r, ?_, ?_⟩, ?_, Nat.max_le.mpr ⟨hln, hrn⟩⟩
    · rw [Spelling.text, hltext, hrtext]
    · rw [Spelling.query, hlquery, hrquery]
    · -- the word `OR` after a term is read as a second term, so the left side is a pair
      cases hl with
      | term t =>
        cases hrq with
        | group hinner => exact .andGroup t.term hinner
      | orWord t => exact .and (.and _ _) hrq (by rintro ⟨t, ht⟩; cases ht)

/-- A text that is read as a query is a spelling of that query, character for character.  The query
    is composed of at most two sentences, with at most `maxNesting` brackets around one another, so
    it has at most four terms. -/
theorem exists_spelling_of_parse (s : String) (q : Query) (h : parse s = .ok q) :
    (∃ w : Spelling, w.text = s.toList ∧ w.query = q) ∧
      q.Composed ∧ q.nesting ≤ maxNesting ∧ q.termCount ≤ 4 := by
  obtain ⟨hw, hq, hn⟩ := (parse_eq_ok_iff.mp h).exists_spelling
  exact ⟨hw, hq, hn, hq.termCount_le⟩

/-- The word `OR` between a term and a bracket is read as a term, and so not lost. -/
theorem exists_spelling_of_word_before_bracket :
    ∃ q : Query, parse "a OR (b)" = .ok q ∧
      (∃ w : Spelling, w.text = "a OR (b)".toList ∧ w.query = q) ∧
        q.Composed ∧ q.nesting ≤ maxNesting ∧ q.termCount ≤ 4 :=
  ⟨_, rfl, exists_spelling_of_parse "a OR (b)" _ rfl⟩

end Sift.Query

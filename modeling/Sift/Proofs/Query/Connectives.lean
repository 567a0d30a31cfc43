import Sift.Proofs.Query.RoundTrip

/-!
# Connectives between terms and brackets

A term or a bracket can stand on either side of a space, which makes a conjunction.  The word `OR`
makes a disjunction of two of them in three of the four cases.  Between a term and a bracket it
does not: the sentence on the left may hold two terms, so the word is taken for the second of them
and the bracket is joined by the space that follows it.
-/

namespace Sift.Query

open Grammar

variable {text : List Char} {q : Query}

/-! ## Terms and brackets as whole queries -/

/-- A text that is read as a term is a spelling of that term. -/
private theorem Accepted.exists_term (h : Accepted text q) (hq : q.IsTerm) :
    ∃ t : TermSpelling, text = t.text ∧ q = .term t.term := by
  obtain ⟨t, rfl⟩ := hq
  cases h with
  | sentence h =>
    cases h with
    | term t => exact ⟨t, rfl, rfl⟩

/-- A sentence that is a bracket is solid and begins with the bracket. -/
private theorem Sentence.solid_of_group {depth : Nat} {inner : Query}
    (h : Sentence depth text (.group inner)) :
    Solid depth text (.group inner) ∧ ∃ tail, text = '(' :: tail := by
  cases h with
  | group h => exact ⟨.group h, _, rfl⟩

/-- A text that is read as a bracket is the text of a sentence. -/
private theorem Accepted.sentence_of_group {inner : Query} (h : Accepted text (.group inner)) :
    Sentence maxNesting text (.group inner) := by
  cases h with
  | sentence h => exact h

/-! ## A space -/

/-- A term or a bracket before a space and a term or a bracket is a conjunction. -/
private theorem Accepted.and_pieces {left right : List Char} {l r : Query} (hl : Accepted left l)
    (hr : Accepted right r) (hlp : l.IsTerm ∨ l.IsGroup) (hrp : r.IsTerm ∨ r.IsGroup) :
    Accepted (left ++ (" ".toList ++ right)) (.and l r) := by
  rcases hlp with hlt | ⟨li, rfl⟩ <;> rcases hrp with hrt | ⟨ri, rfl⟩
  · obtain ⟨lt, rfl, rfl⟩ := hl.exists_term hlt
    obtain ⟨rt, rfl, rfl⟩ := hr.exists_term hrt
    exact .sentence (.and lt rt)
  · -- a term keeps its end before a bracket
    obtain ⟨lt, rfl, rfl⟩ := hl.exists_term hlt
    obtain ⟨-, tail, rfl⟩ := hr.sentence_of_group.solid_of_group
    exact .andGroup (.term lt) hr.sentence_of_group
  · obtain ⟨hsolid, -⟩ := hl.sentence_of_group.solid_of_group
    obtain ⟨rt, rfl, rfl⟩ := hr.exists_term hrt
    refine .and hsolid (.term rt) ?_
    -- a term that begins with the word `OR` and a space would end before that space
    rintro ⟨back, hback⟩
    rw [← List.append_nil rt.text] at hback
    obtain ⟨-, hnil⟩ := TermSpelling.eq_orWord_of_text_append (by simp) hback.symm
    cases hnil
  · obtain ⟨hsolid, -⟩ := hl.sentence_of_group.solid_of_group
    obtain ⟨-, tail, rfl⟩ := hr.sentence_of_group.solid_of_group
    refine .and hsolid hr.sentence_of_group ?_
    rintro ⟨back, hback⟩
    simp at hback

/-! ## The word `OR` -/

/-- A bracket before the word `OR`, or a term before it and a term after it, is a disjunction. -/
private theorem Accepted.or_pieces {left right : List Char} {l r : Query} (hl : Accepted left l)
    (hr : Accepted right r) (hlp : l.IsTerm ∨ l.IsGroup) (hrp : r.IsTerm ∨ r.IsGroup)
    (h : ¬ (l.IsTerm ∧ r.IsGroup)) : Accepted (left ++ (" OR ".toList ++ right)) (.or l r) := by
  rcases hlp with hlt | ⟨li, rfl⟩
  · obtain hrt | hrg := hrp
    · obtain ⟨lt, rfl, rfl⟩ := hl.exists_term hlt
      obtain ⟨rt, rfl, rfl⟩ := hr.exists_term hrt
      exact .sentence (.or lt rt)
    · exact absurd ⟨hlt, hrg⟩ h
  · obtain ⟨hsolid, -⟩ := hl.sentence_of_group.solid_of_group
    rcases hrp with hrt | ⟨ri, rfl⟩
    · obtain ⟨rt, rfl, rfl⟩ := hr.exists_term hrt
      exact .or hsolid (.term rt)
    · exact .or hsolid hr.sentence_of_group

/-- The word `OR` as it is read when it is not taken for a connective. -/
def orTerm : Query := .term ⟨none, .eq, .text "OR"⟩

/-- A term before the word `OR` and a bracket takes the word for a second term. -/
private theorem Accepted.or_term_group {left right : List Char} {l r : Query} (hl : Accepted left l)
    (hr : Accepted right r) (hlt : l.IsTerm) (hrg : r.IsGroup) :
    Accepted (left ++ (" OR ".toList ++ right)) (.and (.and l orTerm) r) := by
  obtain ⟨lt, rfl, rfl⟩ := hl.exists_term hlt
  obtain ⟨ri, rfl⟩ := hrg
  obtain ⟨-, tail, rfl⟩ := hr.sentence_of_group.solid_of_group
  have hand := Accepted.andGroup (.orWord lt) hr.sentence_of_group
  rw [show Query.term TermSpelling.orWord.term = orTerm from rfl] at hand
  simpa using hand

/-- Two queries that are each a term or a bracket make a conjunction with a space between them.
    With the word `OR` between them they make a disjunction exactly if they are not a term on the
    left and a bracket on the right; in that case the word is read as a term of its own. -/
theorem parse_connectives (s₁ s₂ : String) (q₁ q₂ : Query) (h₁ : parse s₁ = .ok q₁)
    (h₂ : parse s₂ = .ok q₂) (hp₁ : q₁.IsTerm ∨ q₁.IsGroup) (hp₂ : q₂.IsTerm ∨ q₂.IsGroup) :
    parse (s₁ ++ " " ++ s₂) = .ok (.and q₁ q₂) ∧
      (parse (s₁ ++ " OR " ++ s₂) = .ok (.or q₁ q₂) ↔ ¬ (q₁.IsTerm ∧ q₂.IsGroup)) ∧
      (q₁.IsTerm ∧ q₂.IsGroup →
        parse (s₁ ++ " OR " ++ s₂) = .ok (.and (.and q₁ orTerm) q₂)) := by
  rw [parse_eq_ok_iff] at h₁ h₂
  -- the one case in which the word is not taken for a connective
  have hword : q₁.IsTerm ∧ q₂.IsGroup →
      parse (s₁ ++ " OR " ++ s₂) = .ok (.and (.and q₁ orTerm) q₂) := by
    rintro ⟨ht, hg⟩
    rw [parse_eq_ok_iff]
    simpa using h₁.or_term_group h₂ ht hg
  refine ⟨?_, ⟨?_, ?_⟩, hword⟩
  · rw [parse_eq_ok_iff]
    simpa using h₁.and_pieces h₂ hp₁ hp₂
  · intro hor hcase
    rw [hword hcase] at hor
    cases hor
  · intro hcase
    rw [parse_eq_ok_iff]
    simpa using h₁.or_pieces h₂ hp₁ hp₂ hcase

/-- A bracket before the word `OR` and a term, which is a disjunction. -/
theorem parse_bracket_or_term :
    parse "(b)" = .ok (.group (.term ⟨none, .eq, .text "b"⟩)) ∧
      parse "a" = .ok (.term ⟨none, .eq, .text "a"⟩) ∧
      parse "(b) OR a" =
        .ok (.or (.group (.term ⟨none, .eq, .text "b"⟩)) (.term ⟨none, .eq, .text "a"⟩)) :=
  ⟨rfl, rfl, (parse_connectives "(b)" "a" _ _ rfl rfl (.inr ⟨_, rfl⟩) (.inl ⟨_, rfl⟩)).2.1.mpr
    (by rintro ⟨⟨t, ht⟩, -⟩; cases ht)⟩

/-- The same two with their sides exchanged are read as a conjunction of three terms. -/
theorem parse_term_or_bracket_ne :
    parse "a" = .ok (.term ⟨none, .eq, .text "a"⟩) ∧
      parse "(b)" = .ok (.group (.term ⟨none, .eq, .text "b"⟩)) ∧
      parse "a OR (b)" = .ok (.and (.and (.term ⟨none, .eq, .text "a"⟩) orTerm)
        (.group (.term ⟨none, .eq, .text "b"⟩))) ∧
      parse "a OR (b)" ≠
        .ok (.or (.term ⟨none, .eq, .text "a"⟩) (.group (.term ⟨none, .eq, .text "b"⟩))) :=
  ⟨rfl, rfl, rfl, by
    intro h
    have hread : parse "a OR (b)" = .ok (.and (.and (.term ⟨none, .eq, .text "a"⟩) orTerm)
        (.group (.term ⟨none, .eq, .text "b"⟩))) := rfl
    rw [hread] at h
    cases h⟩

end Sift.Query

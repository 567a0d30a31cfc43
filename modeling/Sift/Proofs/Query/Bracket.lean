import Sift.Filter.Compile
import Sift.Proofs.Query.RoundTrip

/-!
# Brackets around a query

What stands inside brackets is read by the rule for sentences, at one level more of brackets and up
to the closing bracket, where a whole query is read up to its end.  A query that can be read can be
put in brackets exactly if it is a single sentence and leaves a level for the brackets
(`parse_in_brackets`), and the brackets change nothing in what it finds.
-/

namespace Sift.Query

open Grammar

variable {depth : Nat} {text inside tail : List Char} {q r : Query}

/-! ## Levels of brackets -/

/-- A sentence may stand wherever there are levels enough for its own brackets. -/
private theorem Sentence.of_nesting_le {d : Nat} (h : Sentence depth text q) (hn : q.nesting ≤ d) :
    Sentence d text q := by
  obtain ⟨⟨s, rfl, rfl⟩, hs, -⟩ := h.exists_spelling
  exact s.sentence hs hn

/-- A sentence with a closing bracket after it is no beginning of a query. -/
private theorem Sentence.not_accepted_bracket (h : Sentence depth inside q)
    (hd : q.nesting ≤ maxNesting) : ¬ Accepted (inside ++ ')' :: tail) r := by
  intro haccepted
  -- the sentence is read up to the bracket, and as no connective stands there nothing beyond it is
  have hread := (h.of_nesting_le hd).read (@closes_cons tail ')' |>.mpr rfl)
  have hwhole : whole.read (inside ++ ')' :: tail) = some (q, ')' :: tail) := by
    rw [whole_eq_chain, chain_read_eq_some_iff]
    exact .part hread (by simp) (by simp)
  rw [haccepted.read] at hwhole
  cases hwhole

/-! ## Taking brackets off -/

/-- Where brackets around a text are two parts of a query, the text is no query: the first part has
    a closing bracket inside the text. -/
private theorem not_accepted_of_parts {left right : List Char} {l : Query}
    (hl : Sentence maxNesting left l) (hright : right ≠ [])
    (heq : left ++ right = '(' :: (text ++ [')'])) : ¬ Accepted text q := by
  obtain ⟨c, tail, rfl⟩ := List.exists_cons_of_ne_nil hl.text_ne_nil
  rw [List.cons_append] at heq
  obtain ⟨rfl, heq⟩ := List.cons.inj heq
  obtain ⟨d, inside, r, rfl, hd, -, hinside⟩ := hl.exists_inside
  have hn : r.nesting ≤ maxNesting := by
    have := hinside.exists_spelling.2.2
    omega
  -- the last character of the second part is the bracket at the end
  obtain ⟨back, last, rfl⟩ : ∃ back last, right = back ++ [last] :=
    ⟨right.dropLast, right.getLast hright, (List.dropLast_concat_getLast hright).symm⟩
  have hconcat : (inside ++ ')' :: back) ++ [last] = text ++ [')'] := by simpa using heq
  obtain ⟨rfl, -⟩ := List.append_inj' hconcat rfl
  exact hinside.not_accepted_bracket hn

/-- A query and brackets around it are both read only if the query is a sentence with a level to
    spare, and then the brackets are read as brackets around it. -/
private theorem Accepted.sentence_of_brackets (h : Accepted text q)
    (hb : Accepted ('(' :: (text ++ [')'])) r) :
    r = .group q ∧ q.nesting < maxNesting ∧ Sentence maxNesting text q := by
  generalize hfull : '(' :: (text ++ [')']) = full at hb
  cases hb with
  | sentence hs =>
    rw [← hfull] at hs
    obtain ⟨d, inside, r', heq, hd, rfl, hinside⟩ := hs.exists_inside
    obtain ⟨rfl, -⟩ := List.append_inj' heq rfl
    have hn := hinside.exists_spelling.2.2
    have hlevels : Sentence maxNesting text r' := hinside.of_nesting_le (by omega)
    -- the text is read in one way only
    have hread := (Accepted.sentence hlevels).read
    rw [h.read] at hread
    obtain ⟨rfl, -⟩ := Prod.mk.inj (Option.some.inj hread)
    exact ⟨rfl, by omega, hlevels⟩
  | or hl hr => exact absurd h (not_accepted_of_parts hl.toSentence (by simp) hfull.symm)
  | and hl hr => exact absurd h (not_accepted_of_parts hl.toSentence (by simp) hfull.symm)
  | andGroup hl hr =>
    exact absurd h (not_accepted_of_parts (hl.toSentence maxNesting) (by simp) hfull.symm)

/-! ## Putting brackets on -/

/-- A query that is one sentence: a term, two terms under a connective, or a bracket. -/
def OneSentence : Query → Prop
  | .term _ => True
  | .and left right => left.IsTerm ∧ right.IsTerm
  | .or left right => left.IsTerm ∧ right.IsTerm
  | .group _ => True

/-- A query with the shape of a sentence is one. -/
private theorem IsSentence.oneSentence (h : q.IsSentence) : q.OneSentence := by
  cases h with
  | term t => trivial
  | and l r => exact ⟨⟨l, rfl⟩, ⟨r, rfl⟩⟩
  | or l r => exact ⟨⟨l, rfl⟩, ⟨r, rfl⟩⟩
  | group h => trivial

/-- A text that is read as one sentence is the text of that sentence. -/
private theorem Accepted.sentence_of_oneSentence (h : Accepted text q) (hq : q.OneSentence) :
    Sentence maxNesting text q := by
  cases h with
  | sentence h => exact h
  | or hl hr => exact absurd hq.1 hl.not_isTerm
  | and hl hr hor => exact absurd hq.1 hl.not_isTerm
  | andGroup hl hr =>
    -- the right side is a bracket, and no term
    obtain ⟨inner, rfl⟩ := hr.isGroup_of_bracket
    obtain ⟨t, ht⟩ := hq.2
    cases ht

/-- A sentence with a level to spare is accepted in brackets. -/
private theorem Sentence.accepted_brackets (h : Sentence depth text q)
    (hn : q.nesting < maxNesting) : Accepted ('(' :: (text ++ [')'])) (.group q) :=
  .sentence (h.of_nesting_le (Nat.le_pred_of_lt hn)).group

/-- If a text is read as a query, brackets around it can be read exactly if the query is a term, two
    terms under a connective or a bracket, and has at least one level of brackets less than is
    allowed.  They are then read as brackets around the query, and under every rule and at every
    time they have the same filter, or the same error, as without. -/
theorem parse_in_brackets (s : String) (q : Query) (h : parse s = .ok q) :
    ((∃ r, parse ("(" ++ s ++ ")") = .ok r) ↔ q.OneSentence ∧ q.nesting < maxNesting) ∧
      ∀ r, parse ("(" ++ s ++ ")") = .ok r → r = .group q ∧
        ∀ rule now, Filter.compile rule now ("(" ++ s ++ ")") = Filter.compile rule now s := by
  have haccepted := parse_eq_ok_iff.mp h
  have hbrackets : ∀ r, parse ("(" ++ s ++ ")") = .ok r ↔
      Accepted ('(' :: (s.toList ++ [')'])) r := by
    intro r
    rw [parse_eq_ok_iff]
    simp
  simp only [hbrackets]
  refine ⟨⟨?_, ?_⟩, fun r hr => ?_⟩
  · rintro ⟨r, hr⟩
    -- brackets that are read show that the query is one sentence
    obtain ⟨-, hn, hs⟩ := haccepted.sentence_of_brackets hr
    exact ⟨hs.exists_spelling.2.1.oneSentence, hn⟩
  · rintro ⟨hq, hn⟩
    exact ⟨_, (haccepted.sentence_of_oneSentence hq).accepted_brackets hn⟩
  · obtain ⟨rfl, -, -⟩ := haccepted.sentence_of_brackets hr
    refine ⟨rfl, fun rule now => ?_⟩
    -- both are read, and a bracket has the filter of what is inside
    unfold Filter.compile
    rw [h, (hbrackets _).mpr hr]
    rfl

/-- Two terms, the second of them the word `OR`, can be put in brackets, and three terms cannot. -/
theorem parse_in_brackets_word :
    parse "(a OR)" = .ok (.group (.and (.term ⟨none, .eq, .text "a"⟩)
        (.term ⟨none, .eq, .text "OR"⟩))) ∧
      ¬ ∃ r, parse "(a b c)" = .ok r := by
  constructor
  · obtain ⟨hexists, hgroup⟩ := parse_in_brackets "a OR" _ rfl
    obtain ⟨r, hr⟩ := hexists.mpr ⟨⟨⟨_, rfl⟩, ⟨_, rfl⟩⟩, by decide⟩
    obtain ⟨rfl, -⟩ := hgroup r hr
    exact hr
  · intro hread
    obtain ⟨⟨⟨t, ht⟩, -⟩, -⟩ := (parse_in_brackets "a b c" _ rfl).1.mp hread
    cases ht

end Sift.Query

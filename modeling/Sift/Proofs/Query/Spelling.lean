import Sift.Query.Parser

/-!
# Spellings of queries

A query can be written in more than one way: each of its strings stands raw or between quotes.  A
`Spelling` records the choice at every string, so it determines both the text and the query that
the text is meant to say.  The shapes that the grammar knows are predicates on queries
(`IsSentence`, `nesting`), and `Sentence depth text q` joins the two for the sentences that have at
most `depth` brackets around one another.
-/

namespace Sift.Query

/-! ## Strings and terms -/

/-- A string of a query, as it is written. -/
inductive StringSpelling where
  | raw (token : String) (nonempty : token.toList ≠ [])
      (unreserved : ∀ c ∈ token.toList, isReserved c = false)
  | quoted (token : String) (unquoted : '"' ∉ token.toList)

namespace StringSpelling

/-- The string that is meant. -/
def token : StringSpelling → String
  | raw token _ _ => token
  | quoted token _ => token

/-- The characters that are written. -/
def text : StringSpelling → List Char
  | raw token _ _ => token.toList
  | quoted token _ => '"' :: (token.toList ++ ['"'])

/-- A raw string that is given, where evaluation finds that it may stand raw. -/
def word (token : String) (h : (!token.isEmpty && token.toList.all (!isReserved ·)) = true) :
    StringSpelling :=
  raw token (by simpa using (Bool.and_eq_true_iff.mp h).1)
    (by simpa using (Bool.and_eq_true_iff.mp h).2)

end StringSpelling

/-- A term, as it is written. -/
inductive TermSpelling where
  | bare (value : StringSpelling)
  | full (field : StringSpelling) (op : Operator) (value : StringSpelling)

namespace TermSpelling

def term : TermSpelling → Term
  | bare value => ⟨none, .eq, Value.ofToken value.token⟩
  | full field op value => ⟨some field.token, op, Value.ofToken value.token⟩

def text : TermSpelling → List Char
  | bare value => value.text
  | full field op value => field.text ++ (op.symbol.toList ++ value.text)

/-- The shortest term, which completes whatever waits for one. -/
def letter : TermSpelling := bare (.word "x" (by decide))

/-- The shortest term is one letter. -/
@[simp] theorem letter_text : letter.text = ['x'] := rfl

/-- The word between the two sides of a disjunction, as a term. -/
def orWord : TermSpelling := bare (.word "OR" (by decide))

/-- The word is written as two letters. -/
@[simp] theorem orWord_text : orWord.text = ['O', 'R'] := rfl

end TermSpelling

/-! ## Queries -/

/-- A query, as it is written. -/
inductive Spelling where
  | term (term : TermSpelling)
  | and (left right : Spelling)
  | or (left right : Spelling)
  | group (inner : Spelling)

namespace Spelling

def query : Spelling → Query
  | term t => .term t.term
  | and left right => .and left.query right.query
  | or left right => .or left.query right.query
  | group inner => .group inner.query

def text : Spelling → List Char
  | term t => t.text
  | and left right => left.text ++ (" ".toList ++ right.text)
  | or left right => left.text ++ (" OR ".toList ++ right.text)
  | group inner => "(".toList ++ (inner.text ++ ")".toList)

/-- The terms of a spelling, from left to right. -/
def terms : Spelling → List TermSpelling
  | term t => [t]
  | and left right => left.terms ++ right.terms
  | or left right => left.terms ++ right.terms
  | group inner => inner.terms

end Spelling

/-! ## Shapes -/

/-- How many brackets stand around one another. -/
def nesting : Query → Nat
  | .term _ => 0
  | .and left right => max left.nesting right.nesting
  | .or left right => max left.nesting right.nesting
  | .group inner => inner.nesting + 1

def termCount : Query → Nat
  | .term _ => 1
  | .and left right => left.termCount + right.termCount
  | .or left right => left.termCount + right.termCount
  | .group inner => inner.termCount

def IsTerm (q : Query) : Prop := ∃ t, q = .term t

def IsGroup (q : Query) : Prop := ∃ inner, q = .group inner

/-- One or two terms, or a sentence in brackets. -/
inductive IsSentence : Query → Prop
  | term (t : Term) : IsSentence (.term t)
  | and (left right : Term) : IsSentence (.and (.term left) (.term right))
  | or (left right : Term) : IsSentence (.or (.term left) (.term right))
  | group {inner : Query} (h : IsSentence inner) : IsSentence (.group inner)

/-- A sentence has at most two terms. -/
theorem IsSentence.termCount_le {q : Query} (h : q.IsSentence) : q.termCount ≤ 2 := by
  induction h with
  | group _ ih => exact ih
  | term | and | or => simp [termCount]

/-- The sides of a conjunction that is a sentence are terms. -/
theorem IsSentence.of_and {left right : Query} (h : (Query.and left right).IsSentence) :
    left.IsTerm ∧ right.IsTerm := by
  cases h with
  | and l r => exact ⟨⟨l, rfl⟩, ⟨r, rfl⟩⟩

/-- The sides of a disjunction that is a sentence are terms. -/
theorem IsSentence.of_or {left right : Query} (h : (Query.or left right).IsSentence) :
    left.IsTerm ∧ right.IsTerm := by
  cases h with
  | or l r => exact ⟨⟨l, rfl⟩, ⟨r, rfl⟩⟩

/-! ## Texts of sentences -/

/-- The text of a sentence with at most `depth` brackets around one another, and its query. -/
inductive Sentence : Nat → List Char → Query → Prop
  | term {depth : Nat} (t : TermSpelling) : Sentence depth t.text (.term t.term)
  | or {depth : Nat} (l r : TermSpelling) :
      Sentence depth (l.text ++ (" OR ".toList ++ r.text)) (.or (.term l.term) (.term r.term))
  | and {depth : Nat} (l r : TermSpelling) :
      Sentence depth (l.text ++ (" ".toList ++ r.text)) (.and (.term l.term) (.term r.term))
  | group {depth : Nat} {text : List Char} {q : Query} (h : Sentence depth text q) :
      Sentence (depth + 1) ("(".toList ++ (text ++ ")".toList)) (.group q)

namespace Sentence

/-- The text of a sentence is a spelling of its query, which has the shape of a sentence. -/
theorem exists_spelling {depth : Nat} {text : List Char} {q : Query} (h : Sentence depth text q) :
    (∃ s : Spelling, s.text = text ∧ s.query = q) ∧ q.IsSentence ∧ q.nesting ≤ depth := by
  induction h with
  | term t => exact ⟨⟨.term t, rfl, rfl⟩, .term _, Nat.zero_le _⟩
  | or l r => exact ⟨⟨.or (.term l) (.term r), rfl, rfl⟩, .or _ _, by simp [nesting]⟩
  | and l r => exact ⟨⟨.and (.term l) (.term r), rfl, rfl⟩, .and _ _, by simp [nesting]⟩
  | group _ ih =>
    obtain ⟨⟨s, rfl, rfl⟩, hs, hn⟩ := ih
    exact ⟨⟨.group s, rfl, rfl⟩, .group hs, by simp only [nesting]; omega⟩

end Sentence

/-- A spelling of a term is nothing but that term. -/
theorem Spelling.eq_term_of_query {s : Spelling} (h : s.query.IsTerm) :
    ∃ t : TermSpelling, s = .term t := by
  obtain ⟨t, ht⟩ := h
  cases s with
  | term ts => exact ⟨ts, rfl⟩
  | and | or | group => cases ht

/-- Every spelling of a query with the shape of a sentence is the text of that sentence. -/
theorem Spelling.sentence {s : Spelling} {depth : Nat} (hs : s.query.IsSentence)
    (hn : s.query.nesting ≤ depth) : Sentence depth s.text s.query := by
  -- only a bracket holds another sentence, at one level less
  induction s generalizing depth with
  | term t => exact .term t
  | and left right =>
    obtain ⟨l, rfl⟩ := eq_term_of_query hs.of_and.1
    obtain ⟨r, rfl⟩ := eq_term_of_query hs.of_and.2
    exact .and l r
  | or left right =>
    obtain ⟨l, rfl⟩ := eq_term_of_query hs.of_or.1
    obtain ⟨r, rfl⟩ := eq_term_of_query hs.of_or.2
    exact .or l r
  | group inner ih =>
    simp only [query, nesting] at hn
    obtain ⟨d, rfl⟩ : ∃ d, depth = d + 1 := ⟨depth - 1, by omega⟩
    cases hs with
    | group hi => exact .group (ih hi (by omega))

end Sift.Query

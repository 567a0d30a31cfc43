import Sift.Proofs.Query.ErrorPosition

/-!
# What an error promises

An error names what would have been accepted at its position.  Each of these names is a promise
about the text up to there: with the named thing after it, however that is spelled, the text can be
completed to a query, and where the end is named it is a query as it stands.  All promises are kept
but those at the limit of brackets (`parse_error_promises`): the limit itself is nothing that could
be written, and a further bracket is named also where all that are allowed are open.
-/

namespace Sift.Query

/-- What is expected after a text can be given there. -/
inductive Promised (front : String) : Expected → Prop
  | ends {q : Query} (h : parse front = .ok q) : Promised front .endOfInput
  | spelled {e : Expected} (hspelling : ∃ word, e.Spells word)
      (h : ∀ word, e.Spells word → Viable (front ++ String.ofList word)) : Promised front e

/-- What is noted on a query can be given at the place of the note. -/
private theorem QueryNote.promised {front rest : List Char} {e : Expected}
    (h : QueryNote (front ++ rest) ⟨rest, e⟩) (hlimit : e ≠ .nestingDepth)
    (hbracket : ¬ (e = .literal "(" ∧ openBrackets front = maxNesting)) :
    Promised (String.ofList front) e := by
  cases h with
  | beyond h => exact absurd h hlimit
  -- a bracket at the limit is left out by assumption
  | limit h begun htext hopen =>
    obtain rfl := List.append_cancel_right htext
    exact absurd ⟨h, hopen⟩ hbracket
  | ends h begun htext haccepted =>
    obtain rfl := List.append_cancel_right htext
    obtain rfl : e = .endOfInput := h
    obtain ⟨q, hq⟩ := haccepted
    have hread : Accepted (String.ofList front).toList q := by rwa [String.toList_ofList]
    exact .ends (parse_eq_ok_iff.mpr hread)
  | completes h =>
    obtain ⟨hspelling, begun, htext, hall⟩ := h
    obtain rfl := List.append_cancel_right htext
    -- the note holds for every spelling of what is missing
    refine .spelled hspelling fun word hword => viable_iff_begins.mpr ?_
    obtain ⟨more, q, hq⟩ := hall word hword
    exact ⟨more, q, by simpa using hq⟩

/-- The position of an error parts the query in two, and what the error names can be given after the
    first part: where the end of the query is named, the part is a query itself; else, with every
    spelling of what is named after it, it is the beginning of a query.  Left out are the limit of
    brackets, and a bracket where as many are open as may be. -/
theorem parse_error_promises (s : String) (err : ParseError) (h : parse s = .error err) :
    ∃ front rest : String, s = front ++ rest ∧ front.utf8ByteSize = err.position ∧
      ∀ e ∈ err.expected, e ≠ .nestingDepth →
        ¬ (e = .literal "(" ∧ openBrackets front.toList = maxNesting) → Promised front e := by
  obtain ⟨-, -, -, front, rest, htext, hlength, hnotes⟩ := parse_error_noted h
  refine ⟨String.ofList front, String.ofList rest, ?_, ?_, fun e he hlimit hbracket => ?_⟩
  · rw [← String.ofList_append, ← htext, String.ofList_toList]
  · rw [utf8ByteSize_ofList, hlength]
  · rw [String.toList_ofList] at hbracket
    exact (hnotes e he).promised hlimit hbracket

set_option maxRecDepth 1024 in
/-- A quote inside a word: before it the query could have ended, or gone on with an operator. -/
theorem parse_error_promises_word :
    parse "a OR b\"c" = .error
        ⟨"a OR b\"c", 6, [.operator, .literal " OR ", .literal " ", .endOfInput]⟩ ∧
      ∃ front rest : String, "a OR b\"c" = front ++ rest ∧ front.utf8ByteSize = 6 ∧
        (∃ q, parse front = .ok q) ∧ Viable (front ++ ">=") := by
  have hparse : parse "a OR b\"c" = .error
      ⟨"a OR b\"c", 6, [.operator, .literal " OR ", .literal " ", .endOfInput]⟩ := rfl
  obtain ⟨front, rest, htext, hlength, hpromised⟩ := parse_error_promises _ _ hparse
  refine ⟨hparse, front, rest, htext, hlength, ?_, ?_⟩
  · cases hpromised .endOfInput (by simp) (by simp) (by simp) with
    | ends h => exact ⟨_, h⟩
    | spelled hspelling =>
      obtain ⟨word, hword⟩ := hspelling
      cases hword
  · cases hpromised .operator (by simp) (by simp) (by simp) with
    | spelled hspelling h => exact h _ (.operator .gte)

end Sift.Query

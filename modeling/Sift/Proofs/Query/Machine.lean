import Sift.Proofs.Query.Reading

/-!
# The grammar as a machine

The rules of the grammar get a cursor and give one back, so they cannot but start over from the same
place when an alternative fails.  A machine has one state for all rules: a place in the query, the
number of brackets that are open, and the failures so far.  A rule changes the state as it goes, and
what it has changed stays so when it fails, unless the rule itself puts it back.

A rule of the machine can also break down: the text from a place on can be taken only if the place
stands between two characters.  The rules for sentences and brackets call each other; they come to
an end because each bracket that is opened brings the depth nearer to the limit.
-/

namespace Sift.Query

/-! ## Texts by bytes -/

/-- What stands before and after a number of bytes, if no character is cut there. -/
def splitBytes? : List Char → Nat → Option (List Char × List Char)
  | text, 0 => some ([], text)
  | [], _ + 1 => none
  | c :: text, count + 1 =>
    if c.utf8Size ≤ count + 1 then
      (splitBytes? text (count + 1 - c.utf8Size)).map fun p => (c :: p.1, p.2)
    else none

/-- The bytes of a beginning end between two characters. -/
theorem splitBytes?_append (front back : List Char) :
    splitBytes? (front ++ back) (utf8Length front) = some (front, back) := by
  -- a character has at least one byte, so the count goes down with each of them
  induction front with
  | nil => rw [List.nil_append, utf8Length_nil, splitBytes?]
  | cons c front ih =>
    have hsize := c.utf8Size_pos
    obtain ⟨count, hcount⟩ : ∃ count, utf8Length (c :: front) = count + 1 :=
      Nat.exists_eq_succ_of_ne_zero (by simp; omega)
    have hrest : count + 1 - c.utf8Size = utf8Length front := by
      rw [← hcount, utf8Length_cons]
      omega
    have hle : c.utf8Size ≤ count + 1 := by
      rw [← hcount, utf8Length_cons]
      omega
    rw [hcount, List.cons_append, splitBytes?, if_pos hle, hrest, ih, Option.map_some]

/-- Where the first character stands that is as wanted, in bytes. -/
def findByte? (wanted : Char → Bool) : List Char → Option Nat
  | [] => none
  | c :: text => if wanted c then some 0 else (findByte? wanted text).map (c.utf8Size + ·)

/-- Where no character is as wanted, none is found. -/
theorem findByte?_eq_none {wanted : Char → Bool} {text : List Char}
    (h : ∀ c ∈ text, wanted c = false) : findByte? wanted text = none := by
  induction text with
  | nil => rfl
  | cons c text ih =>
    rw [List.forall_mem_cons] at h
    rw [findByte?, h.1, ih h.2]
    rfl

/-- The first character that is as wanted stands behind the bytes of those before it. -/
theorem findByte?_append {wanted : Char → Bool} {front back : List Char} {c : Char}
    (h : ∀ c ∈ front, wanted c = false) (hc : wanted c = true) :
    findByte? wanted (front ++ c :: back) = some (utf8Length front) := by
  induction front with
  | nil =>
    rw [List.nil_append, findByte?, hc]
    rfl
  | cons d front ih =>
    rw [List.forall_mem_cons] at h
    rw [List.cons_append, findByte?, h.1, ih h.2]
    rfl

/-! ## The machine -/

/-- The state of the machine. -/
structure State where
  /-- The place, in bytes. -/
  place : Nat
  /-- How many brackets are open. -/
  depth : Nat
  failures : Failures

/-- What a rule comes to.  It breaks down (`none`), or it gives an answer, which is nothing if the
    rule fails, and leaves the state in some way. -/
abbrev Outcome (α : Type) : Type := Option (Option α × State)

namespace Outcome

variable {α β : Type}

/-- Goes on with an answer. -/
def andThen (outcome : Outcome α) (next : α → State → Outcome β) : Outcome β :=
  match outcome with
  | some (some a, state) => next a state
  | some (none, state) => some (none, state)
  | none => none

/-- Goes on where there is no answer. -/
def orElse (outcome : Outcome α) (other : State → Outcome α) : Outcome α :=
  match outcome with
  | some (none, state) => other state
  | done => done

/-- Goes back to a place where there is no answer. -/
def rewind (outcome : Outcome α) (place : Nat) : Outcome α :=
  match outcome with
  | some (none, state) => some (none, { state with place })
  | done => done

/-- Leaves a bracket, whether there is an answer or not. -/
def ascend (outcome : Outcome α) : Outcome α :=
  outcome.map fun p => (p.1, { p.2 with depth := p.2.depth - 1 })

end Outcome

/-- A rule of the machine. -/
def Routine (α : Type) : Type := State → Outcome α

namespace Routine

variable {α β : Type}

instance : Monad Routine where
  pure a := fun state => some (some a, state)
  bind rule next := fun state => (rule state).andThen next

instance : OrElse (Routine α) where
  orElse rule other := fun state => (rule state).orElse (other ())

/-- Goes back to the place where a rule started, if the rule fails. -/
def attempt (rule : Routine α) : Routine α := fun state => (rule state).rewind state.place

/-- Fails, noting what was expected at this place. -/
def fail (expected : Expected) : Routine α := fun state =>
  some (none, { state with failures := state.failures.note state.place expected })

/-- Moves on by some bytes. -/
def advance (count : Nat) : Routine Unit := fun state =>
  some (some (), { state with place := state.place + count })

/-- Moves to a place. -/
def jump (place : Nat) : Routine Unit := fun state => some (some (), { state with place })

/-- The text before a number of bytes.  Breaks down where a character is cut. -/
def textBefore (text : List Char) (count : Nat) : Routine (List Char) := fun state =>
  (splitBytes? text count).map fun p => (some p.1, state)

/-- The text that follows the place.  Breaks down where a character is cut. -/
def rest (input : List Char) : Routine (List Char) := fun state =>
  (splitBytes? input state.place).map fun p => (some p.2, state)

/-- Runs a rule inside one more bracket, unless that is one too many. -/
def deeper (rule : Routine α) : Routine α := fun state =>
  if maxNesting ≤ state.depth then fail .nestingDepth state
  else (rule { state with depth := state.depth + 1 }).ascend

section

variable {rule other : Routine α} {next : α → Routine β} {state after : State} {a : α}

/-- A rule that gives an answer is followed by the next one. -/
theorem bind_of_some (h : rule state = some (some a, after)) :
    (rule >>= next) state = next a after := by
  show (rule state).andThen next = _
  rw [h]
  rfl

/-- A rule that fails ends the sequence, with the state it leaves. -/
theorem bind_of_none (h : rule state = some (none, after)) :
    (rule >>= next) state = some (none, after) := by
  show (rule state).andThen next = _
  rw [h]
  rfl

/-- A rule that gives an answer makes the choice. -/
theorem orElse_of_some (h : rule state = some (some a, after)) :
    (rule <|> other) state = some (some a, after) := by
  show (rule state).orElse other = _
  rw [h]
  rfl

/-- A rule that fails leaves the choice to the other one, with the state it leaves. -/
theorem orElse_of_none (h : rule state = some (none, after)) :
    (rule <|> other) state = other after := by
  show (rule state).orElse other = _
  rw [h]
  rfl

/-- The text from the place on is there only if no character is cut. -/
theorem rest_bind (input : List Char) (next : List Char → Routine β) (state : State) :
    (rest input >>= next) state = (splitBytes? input state.place).bind fun p => next p.2 state := by
  show Outcome.andThen ((splitBytes? input state.place).map fun p => (some p.2, state)) next = _
  cases splitBytes? input state.place <;> rfl

/-- The same for the text before a number of bytes. -/
theorem textBefore_bind (text : List Char) (count : Nat) (next : List Char → Routine β)
    (state : State) :
    (textBefore text count >>= next) state =
      (splitBytes? text count).bind fun p => next p.1 state := by
  show Outcome.andThen ((splitBytes? text count).map fun p => (some p.1, state)) next = _
  cases splitBytes? text count <;> rfl

end

end Routine

/-! ## Tokens and terms -/

namespace Machine

open Routine

variable (input : List Char)

def literal (text : String) : Routine Unit := do
  let rest ← rest input
  if text.toList.isPrefixOf rest then advance (utf8Length text.toList) else fail (.literal text)

def raw : Routine String := do
  let rest ← rest input
  let count := (findByte? isReserved rest).getD (utf8Length rest)
  if count = 0 then fail .term
  else do
    advance count
    let token ← textBefore rest count
    pure (String.ofList token)

/-- The rest of a quoted string.  Where its closing quote is missing, the place is moved to the end
    of the query. -/
def closing : Routine String := do
  let rest ← rest input
  match findByte? (· == '"') rest with
  | none => do
    jump (utf8Length input)
    fail .closingQuote
  | some count => do
    advance (count + 1)
    let inside ← textBefore rest count
    pure (String.ofList inside)

def quoted : Routine String := attempt do
  literal input "\""
  closing input

def string : Routine String := raw input <|> quoted input

def operator : Routine Operator := do
  let rest ← rest input
  match operators.find? (fun op => op.symbol.toList.isPrefixOf rest) with
  | some op => do
    advance (utf8Length op.symbol.toList)
    pure op
  | none => fail .operator

def fullTerm : Routine Term := attempt do
  let field ← string input
  let op ← operator input
  let token ← string input
  pure ⟨some field, op, Value.ofToken token⟩

def bareTerm : Routine Term := do
  let token ← string input
  pure ⟨none, .eq, Value.ofToken token⟩

def single : Routine Query := do
  let t ← fullTerm input <|> bareTerm input
  pure (.term t)

/-- Two queries of one kind, with a separator between them. -/
def pair (part : Routine Query) (separator : String) (join : Query → Query → Query) :
    Routine Query := attempt do
  let left ← part
  literal input separator
  let right ← part
  pure (join left right)

def orTerms : Routine Query := pair input (single input) " OR " .or

def andTerms : Routine Query := pair input (single input) " " .and

/-! ## Sentences -/

/-- The end of a bracket, with a query inside. -/
def close (q : Query) : Routine Query := do
  literal input ")"
  pure (.group q)

variable {input} in
/-- A fixed text opens no bracket. -/
private theorem depth_of_literal {text : String} {state after : State} {answer : Option Unit}
    (h : literal input text state = some (answer, after)) : after.depth = state.depth := by
  -- whether the text is there or not, only the place and the failures change
  unfold literal at h
  rw [rest_bind] at h
  obtain ⟨p, -, h⟩ := Option.bind_eq_some_iff.mp h
  split at h
  · cases h
    rfl
  · cases h
    rfl

mutual

/-- A sentence: in brackets, or of one or two terms. -/
def runSentence (state : State) : Outcome Query :=
  (runBracketed state).orElse (orTerms input <|> andTerms input <|> single input)
termination_by (maxNesting - state.depth, 1)

/-- A sentence in brackets.  While it is read the bracket is counted, and no longer when it ends in
    whatever way. -/
def runBracketed (state : State) : Outcome Query :=
  let outcome := match _hopened : literal input "(" state with
    | some (some (), opened) =>
      if maxNesting ≤ opened.depth then fail .nestingDepth opened
      else
        (runSentence { opened with depth := opened.depth + 1 }).ascend.andThen (close input)
    | some (none, after) => some (none, after)
    | none => none
  outcome.rewind state.place
termination_by (maxNesting - state.depth, 0)
decreasing_by
  -- a bracket was opened below the limit, and the literal left the depth as it was
  have hdepth := depth_of_literal _hopened
  apply Prod.Lex.left
  omega

end

def sentence : Routine Query := runSentence input

def bracketed : Routine Query := runBracketed input

/-- The rule for sentences, without its measure. -/
theorem sentence_eq :
    sentence input = (bracketed input <|> orTerms input <|> andTerms input <|> single input) := by
  funext state
  rw [sentence, runSentence]
  rfl

/-- The rule for brackets, without its measure: it goes back to its start where it fails. -/
theorem bracketed_eq : bracketed input = attempt (do
    literal input "("
    let q ← deeper (sentence input)
    close input q) := by
  funext state
  rw [bracketed, runBracketed]
  show _ = Outcome.rewind (Outcome.andThen (literal input "(" state) _) _
  congr 1
  split
  · -- the bracket is there; one beyond the limit is not entered
    rename_i opened hopened
    rw [hopened]
    show _ = Outcome.andThen (ite _ _ _) _
    split
    · rfl
    · rfl
  · rename_i after hafter
    rw [hafter]
    rfl
  · rename_i hnone
    rw [hnone]
    rfl

def orSentences : Routine Query := pair input (sentence input) " OR " .or

def andSentences : Routine Query := pair input (sentence input) " " .and

/-- A whole query, not yet checked to reach the end. -/
def whole : Routine Query := orSentences input <|> andSentences input <|> sentence input

/-- Reads a query. -/
def parse (input : String) : Option (Except ParseError Query) :=
  match whole input.toList ⟨0, 0, .none⟩ with
  | some (some q, state) =>
    if state.place = utf8Length input.toList then some (.ok q)
    else
      let failures := state.failures.note state.place .endOfInput
      some (.error ⟨input, failures.furthest, failures.expected⟩)
  | some (none, state) =>
    some (.error ⟨input, state.failures.furthest, state.failures.expected⟩)
  | none => none

end Machine

end Sift.Query

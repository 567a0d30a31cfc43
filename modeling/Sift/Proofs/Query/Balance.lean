import Sift.Proofs.Query.Spelling

/-!
# Open brackets

How many brackets are open at some place of a query is counted from the text before it: a scan goes
over the characters one by one and leaves out what stands between quotes.  A sentence closes the
brackets that it opens, so that a scan comes out of it as it went in (`Sentence.balanced`).
-/

namespace Sift.Query

/-- What a scan knows at a place: whether it is between quotes, and how many brackets are open. -/
structure Scan where
  quoted : Bool
  opened : Nat
  deriving DecidableEq

/-- The scan behind one more character. -/
def Scan.step (scan : Scan) (c : Char) : Scan :=
  if c = '"' then ⟨!scan.quoted, scan.opened⟩
  else if scan.quoted then scan
  else if c = '(' then ⟨false, scan.opened + 1⟩
  else if c = ')' then ⟨false, scan.opened - 1⟩
  else scan

/-- How many brackets are open at the end of a text. -/
def openBrackets (text : List Char) : Nat := (text.foldl Scan.step ⟨false, 0⟩).opened

/-- A text without an effect on a scan that comes to it outside of quotes. -/
def Balanced (text : List Char) : Prop :=
  ∀ count, text.foldl Scan.step ⟨false, count⟩ = ⟨false, count⟩

/-! ## Balanced texts -/

/-- Balanced texts in a row are balanced. -/
theorem Balanced.append {xs ys : List Char} (hx : Balanced xs) (hy : Balanced ys) :
    Balanced (xs ++ ys) := by
  intro count
  rw [List.foldl_append, hx count, hy count]

/-- Characters other than quotes and brackets change nothing. -/
private theorem balanced_of_plain {text : List Char} (h : ∀ c ∈ text, c ≠ '"' ∧ c ≠ '(' ∧ c ≠ ')') :
    Balanced text := by
  intro count
  induction text with
  | nil => rfl
  | cons c text ih =>
    obtain ⟨hquote, hopen, hclose⟩ := h c List.mem_cons_self
    have hstep : Scan.step ⟨false, count⟩ c = ⟨false, count⟩ := by
      simp [Scan.step, hquote, hopen, hclose]
    rw [List.foldl_cons, hstep]
    exact ih fun d hd => h d (List.mem_cons_of_mem c hd)

/-- Between quotes everything is left out. -/
private theorem foldl_step_quoted {inside : List Char} (h : '"' ∉ inside) (count : Nat) :
    inside.foldl Scan.step ⟨true, count⟩ = ⟨true, count⟩ := by
  induction inside with
  | nil => rfl
  | cons c inside ih =>
    obtain ⟨hc, hinside⟩ := not_or.mp (mt List.mem_cons.mpr h)
    have hstep : Scan.step ⟨true, count⟩ c = ⟨true, count⟩ := by
      simp [Scan.step, Ne.symm hc]
    rw [List.foldl_cons, hstep]
    exact ih hinside

/-- A string is balanced, since raw strings have no brackets and quoted ones are left out. -/
theorem StringSpelling.balanced (s : StringSpelling) : Balanced s.text := by
  cases s with
  | raw token nonempty unreserved =>
    refine balanced_of_plain fun c hc => ?_
    have hreserved := unreserved c hc
    -- the three characters are reserved
    refine ⟨?_, ?_, ?_⟩ <;> rintro rfl <;> exact absurd hreserved (by decide)
  | quoted token unquoted =>
    intro count
    rw [text, List.foldl_cons, List.foldl_append,
      show Scan.step ⟨false, count⟩ '"' = ⟨true, count⟩ from rfl, foldl_step_quoted unquoted]
    rfl

/-- A term is balanced. -/
theorem TermSpelling.balanced (t : TermSpelling) : Balanced t.text := by
  cases t with
  | bare value => exact value.balanced
  | full field op value =>
    refine field.balanced.append (Balanced.append ?_ value.balanced)
    cases op <;> exact fun _ => rfl

/-- A sentence closes what it opens. -/
theorem Sentence.balanced {depth : Nat} {text : List Char} {q : Query} (h : Sentence depth text q) :
    Balanced text := by
  induction h with
  | term t => exact t.balanced
  | or l r => exact l.balanced.append (Balanced.append (fun _ => rfl) r.balanced)
  | and l r => exact l.balanced.append (Balanced.append (fun _ => rfl) r.balanced)
  -- the bracket is open while the sentence in it is scanned
  | @group depth text q h ih =>
    intro count
    have hopen : Scan.step ⟨false, count⟩ '(' = ⟨false, count + 1⟩ := rfl
    have hclose : Scan.step ⟨false, count + 1⟩ ')' = ⟨false, count⟩ := rfl
    show ('(' :: (text ++ [')'])).foldl Scan.step ⟨false, count⟩ = _
    rw [List.foldl_cons, hopen, List.foldl_append, ih, List.foldl_cons, hclose, List.foldl_nil]

/-! ## Open brackets in a row -/

/-- Open brackets, as many as asked for. -/
def opening (count : Nat) : List Char := List.replicate count '('

/-- No brackets are no text. -/
@[simp] theorem opening_zero : opening 0 = [] := rfl

/-- One bracket more stands in front. -/
@[simp] theorem opening_succ (count : Nat) :
    opening (count + 1) = '(' :: opening count := rfl

/-- Each bracket in a row opens one more. -/
private theorem foldl_step_opening (count opened : Nat) :
    (opening count).foldl Scan.step ⟨false, opened⟩ = ⟨false, opened + count⟩ := by
  induction count generalizing opened with
  | zero => rfl
  | succ count ih =>
    have hstep : Scan.step ⟨false, opened⟩ '(' = ⟨false, opened + 1⟩ := rfl
    rw [opening_succ, List.foldl_cons, hstep, ih]
    congr 1
    omega

/-- Brackets behind a balanced text are all that is open. -/
theorem Balanced.openBrackets_opening {text : List Char} (h : Balanced text) (count : Nat) :
    openBrackets (text ++ opening count) = count := by
  rw [openBrackets, List.foldl_append, h, foldl_step_opening, Nat.zero_add]

end Sift.Query

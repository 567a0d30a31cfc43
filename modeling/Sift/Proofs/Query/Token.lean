import Sift.Proofs.Query.Reading
import Sift.Proofs.Query.Spelling

/-!
# What strings and terms read

For each rule below sentences: what it reads from the spelling of a token, when it reads nothing,
and what it notes then.  A raw string takes in every character up to the next reserved one, so it
can only be read back where such a character or the end follows (`Ends`); a term is read back
before everything that can follow it in a query (`Stops`).
-/

namespace Sift.Query

open Grammar

/-! ## Fixed texts -/

/-- A fixed text is read where it stands, and nothing is noted. -/
theorem literal_append (s : String) (rest : List Char) :
    (literal s).read (s.toList ++ rest) = some ((), rest) ∧
      (literal s).Notes (s.toList ++ rest) [] := by
  refine notes_of_some (List.suffix_append _ _) (by simp) fun total failures hle => ?_
  simp only [literal, Cursor.before_rest, List.isPrefixOf_iff_prefix.mpr (List.prefix_append _ _),
    ↓reduceIte, Cursor.advance_before hle rfl, Failures.noteAll_nil]

/-- Where it does not stand, it is noted as missing. -/
theorem literal_of_not_start {s : String} {text : List Char} (h : ¬ s.toList <+: text) :
    (literal s).read text = none ∧ (literal s).Notes text [⟨text, .literal s⟩] := by
  refine notes_of_none (by simp) fun total failures hle => ?_
  simp [literal, List.isPrefixOf_iff_prefix, h]

instance (s : String) : Token (literal s) fun text => ⟨text, .literal s⟩ where
  scans text := by
    by_cases h : s.toList <+: text
    · obtain ⟨rest, rfl⟩ := h
      have hread := literal_append s rest
      exact .inl ⟨by simp [hread.1], hread.2⟩
    · exact .inr (literal_of_not_start h)

/-- A fixed text is read exactly from the texts that begin with it. -/
theorem literal_read_eq_some_iff {s : String} {text rest : List Char} :
    (literal s).read text = some ((), rest) ↔ text = s.toList ++ rest := by
  constructor
  · intro h
    by_cases hp : s.toList <+: text
    · obtain ⟨back, rfl⟩ := hp
      rw [(literal_append s back).1] at h
      cases h; rfl
    · rw [(literal_of_not_start hp).1] at h
      cases h
  · rintro rfl
    exact (literal_append s rest).1

/-! ## Raw strings -/

/-- Where a raw string ends: before a reserved character or at the end of the query. -/
def Ends (rest : List Char) : Prop := ∀ c ∈ rest.head?, isReserved c = true

/-- A raw string ends at the end of the query. -/
@[simp] theorem ends_nil : Ends [] := by simp [Ends]

/-- A raw string ends before a reserved character. -/
@[simp] theorem ends_cons {c : Char} {rest : List Char} :
    Ends (c :: rest) ↔ isReserved c = true := by
  simp [Ends]

/-- Every text begins with a longest run of characters that are not reserved. -/
theorem exists_unreserved_run (text : List Char) :
    ∃ run rest, text = run ++ rest ∧ (∀ c ∈ run, isReserved c = false) ∧ Ends rest := by
  -- on the text: the run goes on until the first reserved character
  induction text with
  | nil => exact ⟨[], [], rfl, by simp, ends_nil⟩
  | cons c text ih =>
    by_cases hc : isReserved c = true
    · exact ⟨[], c :: text, rfl, by simp, ends_cons.mpr hc⟩
    · obtain ⟨run, rest, rfl, hrun, hends⟩ := ih
      refine ⟨c :: run, rest, rfl, ?_, hends⟩
      simp only [List.mem_cons, forall_eq_or_imp]
      exact ⟨by simpa using hc, hrun⟩

/-- A raw string takes in the whole run. -/
private theorem takeWhile_run {run rest : List Char} (hrun : ∀ c ∈ run, isReserved c = false)
    (hends : Ends rest) : (run ++ rest).takeWhile (!isReserved ·) = run := by
  rw [List.takeWhile_append_of_pos (by simpa using hrun)]
  cases rest with
  | nil => simp
  | cons c rest => simp [ends_cons.mp hends]

/-- A run of characters that are not reserved is read as a raw string. -/
theorem raw_run {run rest : List Char} (hne : run ≠ [])
    (hrun : ∀ c ∈ run, isReserved c = false) (hends : Ends rest) :
    raw.read (run ++ rest) = some (String.ofList run, rest) ∧ raw.Notes (run ++ rest) [] := by
  refine notes_of_some (List.suffix_append _ _) (by simp) fun total failures hle => ?_
  simp only [raw, Cursor.before_rest, takeWhile_run hrun hends]
  cases run with
  | nil => exact absurd rfl hne
  | cons c run => simp only [Cursor.advance_before hle rfl, Failures.noteAll_nil]

/-- Where no such run begins, a term is noted as missing. -/
theorem raw_of_ends {text : List Char} (h : Ends text) :
    raw.read text = none ∧ raw.Notes text [⟨text, .term⟩] := by
  refine notes_of_none (by simp) fun total failures hle => ?_
  have htake : text.takeWhile (!isReserved ·) = [] := by
    simpa using @takeWhile_run [] text (by simp) h
  simp [raw, htake]

instance : Token raw fun text => ⟨text, .term⟩ where
  scans text := by
    obtain ⟨run, rest, rfl, hrun, hends⟩ := exists_unreserved_run text
    by_cases hne : run = []
    · subst hne
      exact .inr (raw_of_ends hends)
    · have hread := raw_run hne hrun hends
      exact .inl ⟨by simp [hread.1], hread.2⟩

/-! ## Quoted strings -/

/-- Text without quotes is taken in up to the next one. -/
private theorem takeWhile_unquoted {inside : List Char} (h : '"' ∉ inside) (rest : List Char) :
    (inside ++ rest).takeWhile (· != '"') = inside ++ rest.takeWhile (· != '"') := by
  refine List.takeWhile_append_of_pos fun c hc => ?_
  rw [bne_iff_ne]
  rintro rfl
  exact h hc

/-- The rest of a quoted string is read up to its quote, which is taken off. -/
theorem closing_append {inside rest : List Char} (h : '"' ∉ inside) :
    closing.read (inside ++ '"' :: rest) = some (String.ofList inside, rest) ∧
      closing.Notes (inside ++ '"' :: rest) [] := by
  have hsplit : inside ++ '"' :: rest = (inside ++ ['"']) ++ rest := by simp
  have htake : (inside ++ '"' :: rest).takeWhile (· != '"') = inside := by
    simp [takeWhile_unquoted h]
  have hsuffix : rest <:+ inside ++ '"' :: rest := ⟨inside ++ ['"'], by simp⟩
  refine notes_of_some hsuffix (by simp) fun total failures hle => ?_
  simp only [closing, Cursor.before_rest, htake]
  rw [if_pos (by simp)]
  -- the cursor moves past the quote too
  rw [hsplit] at hle ⊢
  rw [Cursor.advance_before hle (by simp), Failures.noteAll_nil]

/-- A quote that is missing is missing at the end of the query. -/
theorem closing_of_not_mem {text : List Char} (h : '"' ∉ text) :
    closing.read text = none ∧ closing.Notes text [⟨[], .closingQuote⟩] := by
  have htake : text.takeWhile (· != '"') = text := by
    simpa using takeWhile_unquoted h []
  refine notes_of_none (by simp) fun total failures hle => ?_
  have hadvance := @Cursor.advance_before total _ text [] (by simpa using hle) rfl
  simp only [List.append_nil] at hadvance
  simp [closing, htake, hadvance]

/-- A text without a quote, or one up to its first quote. -/
theorem exists_unquoted_run (text : List Char) :
    '"' ∉ text ∨ ∃ inside rest, text = inside ++ '"' :: rest ∧ '"' ∉ inside := by
  by_cases h : '"' ∈ text
  · obtain ⟨inside, rest, htext, hinside⟩ := List.eq_append_cons_of_mem h
    exact .inr ⟨inside, rest, htext, hinside⟩
  · exact .inl h

instance : Token closing fun _ => ⟨[], .closingQuote⟩ where
  scans text := by
    rcases exists_unquoted_run text with h | ⟨inside, rest, rfl, h⟩
    · exact .inr (closing_of_not_mem h)
    · have hread := @closing_append inside rest h
      exact .inl ⟨by simp [hread.1], hread.2⟩

/-- Where the closing quote is missing there is no quote at all. -/
theorem not_mem_of_closing_read_eq_none {text : List Char} (h : closing.read text = none) :
    '"' ∉ text := by
  rcases exists_unquoted_run text with hnot | ⟨inside, rest, rfl, hinside⟩
  · exact hnot
  · rw [(closing_append hinside).1] at h; cases h

instance : Lawful quoted := by unfold quoted; infer_instance

/-! ## Strings -/

instance : Lawful string := by unfold string; infer_instance

namespace StringSpelling

/-- Where this spelling is the whole of the string that begins with it. -/
def EndsBefore (s : StringSpelling) (rest : List Char) : Prop :=
  match s with
  | raw .. => Ends rest
  | quoted .. => True

/-- Where a raw string ends, every string does. -/
private theorem endsBefore_of_ends (s : StringSpelling) {rest : List Char} (h : Ends rest) :
    s.EndsBefore rest := by
  cases s with
  | raw => exact h
  | quoted => trivial

/-- A string has at least one character. -/
theorem text_ne_nil (s : StringSpelling) : s.text ≠ [] := by
  cases s with
  | raw _ nonempty _ => exact nonempty
  | quoted => simp [text]

/-- A string begins with a quote or with a character that is not reserved. -/
theorem text_head (s : StringSpelling) {c : Char} {rest : List Char} (h : s.text = c :: rest) :
    c = '"' ∨ isReserved c = false := by
  cases s with
  | raw token nonempty unreserved =>
    simp only [text] at h
    exact .inr (unreserved c (by simp [h]))
  | quoted token unquoted =>
    simp only [text, List.cons.injEq] at h
    exact .inl h.1.symm

end StringSpelling

/-- The three ways in which a text can begin: with a string, with nothing of a string, or with a
    quoted string that is never closed. -/
private theorem string_cases (text : List Char) :
    (∃ (s : StringSpelling) (rest : List Char), text = s.text ++ rest ∧ s.EndsBefore rest) ∨
      (Ends text ∧ ∀ rest, text ≠ '"' :: rest) ∨
      ∃ inside, text = '"' :: inside ∧ '"' ∉ inside := by
  obtain ⟨run, rest, rfl, hrun, hends⟩ := exists_unreserved_run text
  by_cases hne : run = []
  · -- a reserved character comes first: only a quote can begin a string then
    subst hne
    simp only [List.nil_append]
    by_cases hq : ∃ tail, rest = '"' :: tail
    · obtain ⟨tail, rfl⟩ := hq
      rcases exists_unquoted_run tail with h | ⟨inside, back, rfl, h⟩
      · exact .inr (.inr ⟨tail, rfl, h⟩)
      · refine .inl ⟨.quoted (String.ofList inside) (by simpa using h), back, ?_, trivial⟩
        simp [StringSpelling.text]
    · exact .inr (.inl ⟨hends, fun tail h => hq ⟨tail, h⟩⟩)
  · refine .inl ⟨.raw (String.ofList run) (by simpa using hne) (by simpa using hrun), rest, ?_,
      hends⟩
    simp [StringSpelling.text]

/-- A string is read back from its spelling. -/
private theorem string_read (s : StringSpelling) {rest : List Char} (h : s.EndsBefore rest) :
    string.read (s.text ++ rest) = some (s.token, rest) := by
  show (raw <|> quoted).read _ = _
  rw [read_orElse]
  cases s with
  | raw token nonempty unreserved =>
    simp only [StringSpelling.text, (raw_run nonempty unreserved h).1, Option.some_or,
      StringSpelling.token, String.ofList_toList]
  | quoted token unquoted =>
    -- a quote is reserved, so the raw alternative fails on it
    have hends : Ends ('"' :: (token.toList ++ ['"']) ++ rest) := by simp; decide
    have hlit : (literal "\"").read ('"' :: (token.toList ++ ['"']) ++ rest) =
        some ((), token.toList ++ '"' :: rest) := literal_read_eq_some_iff.mpr (by simp)
    have hquoted : quoted.read ('"' :: (token.toList ++ ['"']) ++ rest) = some (token, rest) := by
      show (literal "\"" >>= fun _ => closing).read _ = _
      rw [read_bind, hlit]
      simp [(closing_append unquoted).1]
    simp only [StringSpelling.text, (raw_of_ends hends).1, Option.none_or, hquoted,
      StringSpelling.token]

/-- Nothing is read, and a string noted as missing, where none begins. -/
private theorem string_of_missing {text : List Char} (hends : Ends text)
    (hq : ∀ rest, text ≠ '"' :: rest) : string.read text = none := by
  show (raw <|> quoted).read _ = _
  have hlit : (literal "\"").read text = none := by
    refine (literal_of_not_start ?_).1
    rintro ⟨rest, rfl⟩
    exact hq rest rfl
  rw [read_orElse, (raw_of_ends hends).1, Option.none_or]
  show (literal "\"" >>= fun _ => closing).read _ = _
  rw [read_bind, hlit, Option.bind_none]

/-- Nothing is read where a quoted string is never closed. -/
private theorem string_of_unclosed {inside : List Char} (h : '"' ∉ inside) :
    string.read ('"' :: inside) = none := by
  show (raw <|> quoted).read _ = _
  have hlit : (literal "\"").read ('"' :: inside) = some ((), inside) :=
    literal_read_eq_some_iff.mpr rfl
  rw [read_orElse, (raw_of_ends (ends_cons.mpr (by decide))).1, Option.none_or]
  show (literal "\"" >>= fun _ => closing).read _ = _
  rw [read_bind, hlit]
  exact (closing_of_not_mem h).1

/-- What a string rule reads is a spelling of its string. -/
theorem exists_spelling_of_string_read {text rest : List Char} {token : String}
    (h : string.read text = some (token, rest)) :
    ∃ s : StringSpelling, s.token = token ∧ text = s.text ++ rest ∧ s.EndsBefore rest := by
  rcases string_cases text with ⟨s, back, rfl, hs⟩ | ⟨hends, hq⟩ | ⟨inside, rfl, hinside⟩
  · rw [string_read s hs] at h
    obtain ⟨rfl, rfl⟩ := Prod.mk.inj (Option.some.inj h)
    exact ⟨s, rfl, rfl, hs⟩
  · rw [string_of_missing hends hq] at h; cases h
  · rw [string_of_unclosed hinside] at h; cases h

/-- A string is read from every character that is not reserved. -/
private theorem string_read_ne_none_of_unreserved {c : Char} (hc : isReserved c = false)
    (rest : List Char) : string.read (c :: rest) ≠ none := by
  rcases string_cases (c :: rest) with ⟨s, back, htext, hs⟩ | ⟨hends, -⟩ | ⟨inside, htext, -⟩
  · rw [htext, string_read s hs]
    exact Option.some_ne_none _
  · rw [ends_cons.mp hends] at hc
    cases hc
  · obtain ⟨rfl, -⟩ := List.cons.inj htext
    exact absurd hc (by decide)

/-- A string is read from everything that begins with a spelling, perhaps a longer one. -/
private theorem string_read_ne_none (s : StringSpelling) (rest : List Char) :
    string.read (s.text ++ rest) ≠ none := by
  cases s with
  | raw token nonempty unreserved =>
    obtain ⟨c, tail, hc⟩ := List.exists_cons_of_ne_nil nonempty
    simp only [StringSpelling.text, hc, List.cons_append]
    exact string_read_ne_none_of_unreserved (unreserved c (by simp [hc])) _
  | quoted token unquoted =>
    rw [@string_read (.quoted token unquoted) rest trivial]
    exact Option.some_ne_none _

/-! ## Operators -/

/-- The first operator whose symbol stands there is read. -/
theorem operator_of_find {text : List Char} {op : Operator}
    (h : operators.find? (fun op => op.symbol.toList.isPrefixOf text) = some op) :
    ∃ rest, text = op.symbol.toList ++ rest ∧
      operator.read text = some (op, rest) ∧ operator.Notes text [] := by
  have hp : op.symbol.toList.isPrefixOf text = true := by
    have := List.find?_some h
    exact this
  obtain ⟨rest, rfl⟩ := List.isPrefixOf_iff_prefix.mp hp
  refine ⟨rest, rfl, notes_of_some (List.suffix_append _ _) (by simp) fun total failures hle => ?_⟩
  simp only [operator, Cursor.before_rest, h, Cursor.advance_before hle rfl, Failures.noteAll_nil]

/-- Where there is none, an operator is noted as missing. -/
theorem operator_of_find_none {text : List Char}
    (h : operators.find? (fun op => op.symbol.toList.isPrefixOf text) = none) :
    operator.read text = none ∧ operator.Notes text [⟨text, .operator⟩] := by
  refine notes_of_none (by simp) fun total failures hle => ?_
  simp [operator, h]

instance : Token operator fun text => ⟨text, .operator⟩ where
  scans text := by
    cases h : operators.find? (fun op => op.symbol.toList.isPrefixOf text) with
    | none => exact .inr (operator_of_find_none h)
    | some op =>
      obtain ⟨rest, -, hread, hnotes⟩ := operator_of_find h
      exact .inl ⟨by simp [hread], hnotes⟩

/-- An operator is read back from its symbol, unless what follows makes a longer symbol of it. -/
private theorem operator_read (op : Operator) {rest : List Char} (h : ∀ tail, rest ≠ '=' :: tail) :
    operator.read (op.symbol.toList ++ rest) = some (op, rest) := by
  have hfind : operators.find? (fun o => o.symbol.toList.isPrefixOf (op.symbol.toList ++ rest)) =
      some op := by
    cases rest with
    | nil => cases op <;> rfl
    | cons c rest =>
      -- the two symbols that are longer than another one end in `=`
      have hc : '=' ≠ c := fun hc => h rest (by rw [hc])
      cases op <;> simp [operators, Operator.symbol, List.isPrefixOf, hc]
  obtain ⟨back, hback, hread, -⟩ := operator_of_find hfind
  rw [hread, List.append_cancel_left hback]

/-- What an operator leaves follows its symbol. -/
theorem eq_append_of_operator_read {text rest : List Char} {op : Operator}
    (h : operator.read text = some (op, rest)) : text = op.symbol.toList ++ rest := by
  cases hfind : operators.find? (fun op => op.symbol.toList.isPrefixOf text) with
  | none => rw [(operator_of_find_none hfind).1] at h; cases h
  | some o =>
    obtain ⟨back, hback, hread, -⟩ := operator_of_find hfind
    rw [hread] at h
    obtain ⟨rfl, rfl⟩ := Prod.mk.inj (Option.some.inj h)
    exact hback

/-- The characters with which an operator begins. -/
def operatorHeads : List Char := [':', '~', '>', '<', '=']

/-- Whether an operator begins is seen from one character. -/
theorem operator_read_eq_none_iff {c : Char} {rest : List Char} :
    operator.read (c :: rest) = none ↔ c ∉ operatorHeads := by
  constructor
  · intro h hc
    cases hfind : operators.find? (fun op => op.symbol.toList.isPrefixOf (c :: rest)) with
    | none =>
      -- each of the characters is a symbol by itself, so the search would have found one
      simp only [operatorHeads, List.mem_cons, List.not_mem_nil, or_false] at hc
      rcases hc with rfl | rfl | rfl | rfl | rfl <;>
        simp [operators, Operator.symbol, List.isPrefixOf] at hfind
    | some op =>
      obtain ⟨back, -, hread, -⟩ := operator_of_find hfind
      rw [hread] at h; cases h
  · intro hc
    refine (operator_of_find_none ?_).1
    simp only [operatorHeads, List.mem_cons, List.not_mem_nil, or_false, not_or] at hc
    obtain ⟨h1, h2, h3, h4, h5⟩ := hc
    simp [operators, Operator.symbol, List.isPrefixOf, Ne.symm h1, Ne.symm h2, Ne.symm h3,
      Ne.symm h4, Ne.symm h5]

/-- No operator is read where none begins. -/
private theorem operator_of_not_head {text : List Char} (h : ∀ c ∈ text.head?, c ∉ operatorHeads) :
    operator.read text = none := by
  cases text with
  | nil => exact (operator_of_find_none rfl).1
  | cons c rest => exact operator_read_eq_none_iff.mpr (h c (by simp))

/-- Which operator it is is seen from two characters. -/
theorem operator_read_map_fst (c d : Char) (rest back : List Char) :
    (operator.read (c :: d :: rest)).map Prod.fst =
      (operator.read (c :: d :: back)).map Prod.fst := by
  have hsame : operators.find? (fun op => op.symbol.toList.isPrefixOf (c :: d :: rest)) =
      operators.find? (fun op => op.symbol.toList.isPrefixOf (c :: d :: back)) := rfl
  cases hfind : operators.find? (fun op => op.symbol.toList.isPrefixOf (c :: d :: rest)) with
  | none => rw [(operator_of_find_none hfind).1, (operator_of_find_none (hsame ▸ hfind)).1]
  | some op =>
    obtain ⟨r₁, -, hread, -⟩ := operator_of_find hfind
    obtain ⟨r₂, -, hread', -⟩ := operator_of_find (hsame ▸ hfind)
    rw [hread, hread']; rfl

/-! ## Terms -/

/-- What can follow a term in a query: a space, a closing bracket or the end. -/
def Stops (rest : List Char) : Prop := ∀ c ∈ rest.head?, c = ' ' ∨ c = ')'

/-- A term may be followed by the end of the query. -/
@[simp] theorem stops_nil : Stops [] := by simp [Stops]

/-- A term may be followed by a space or a closing bracket. -/
@[simp] theorem stops_cons {c : Char} {rest : List Char} :
    Stops (c :: rest) ↔ c = ' ' ∨ c = ')' := by
  simp [Stops]

/-- What can follow a term ends a raw string. -/
theorem Stops.ends {rest : List Char} (h : Stops rest) : Ends rest := by
  intro c hc
  rcases h c hc with rfl | rfl <;> decide

/-- What can follow a term begins no operator. -/
private theorem Stops.not_operator {rest : List Char} (h : Stops rest) :
    ∀ c ∈ rest.head?, c ∉ operatorHeads := by
  intro c hc
  rcases h c hc with rfl | rfl <;> decide

instance : Lawful fullTerm := by unfold fullTerm; infer_instance

instance : Lawful bareTerm := by unfold bareTerm; infer_instance

instance : Lawful single := by unfold single; infer_instance

/-- What a term with a field reads, step by step. -/
private theorem fullTerm_read (text : List Char) :
    fullTerm.read text = (string.read text).bind fun f => (operator.read f.2).bind fun o =>
      (string.read o.2).map fun v => (⟨some f.1, o.1, Value.ofToken v.1⟩, v.2) := by
  show (string >>= fun field => operator >>= fun op => string >>= fun token =>
    pure (⟨some field, op, Value.ofToken token⟩ : Term)).read text = _
  simp only [read_bind, read_pure]
  congr; funext f; congr; funext o
  cases string.read o.2 <;> rfl

/-- What a term without a field reads. -/
private theorem bareTerm_read (text : List Char) :
    bareTerm.read text =
      (string.read text).map fun v => (⟨none, .eq, Value.ofToken v.1⟩, v.2) := by
  show (string >>= fun token => pure (⟨none, .eq, Value.ofToken token⟩ : Term)).read text = _
  simp only [read_bind, read_pure]
  cases string.read text <;> rfl

/-- A term with a field is tried first, and then one without. -/
private theorem single_read_eq (text : List Char) :
    single.read text =
      ((fullTerm.read text).or (bareTerm.read text)).map fun t => (.term t.1, t.2) := by
  show ((fullTerm <|> bareTerm) >>= fun t => pure (Query.term t)).read text = _
  simp only [read_bind, read_pure, read_orElse]
  cases (fullTerm.read text).or (bareTerm.read text) <;> rfl

namespace TermSpelling

/-- A term has at least one character. -/
theorem text_ne_nil (t : TermSpelling) : t.text ≠ [] := by
  cases t with
  | bare value => exact value.text_ne_nil
  | full field op value => simp [text, field.text_ne_nil]

/-- So does a term. -/
theorem text_head (t : TermSpelling) {c : Char} {rest : List Char} (h : t.text = c :: rest) :
    c = '"' ∨ isReserved c = false := by
  cases t with
  | bare value => exact value.text_head h
  | full field op value =>
    obtain ⟨d, tail, hfield⟩ := List.exists_cons_of_ne_nil field.text_ne_nil
    simp only [text, hfield, List.cons_append, List.cons.injEq] at h
    exact h.1 ▸ field.text_head hfield

end TermSpelling

/-- A term is read back from its spelling. -/
theorem single_read (t : TermSpelling) {rest : List Char} (h : Stops rest) :
    single.read (t.text ++ rest) = some (.term t.term, rest) := by
  rw [single_read_eq]
  cases t with
  | bare value =>
    -- the rule for a term with a field reads the value as a field and then misses an operator
    have hvalue := string_read value (value.endsBefore_of_ends h.ends)
    simp only [TermSpelling.text, fullTerm_read, bareTerm_read, hvalue,
      operator_of_not_head h.not_operator, Option.bind_some, Option.bind_none, Option.none_or,
      Option.map_some, TermSpelling.term]
  | full field op value =>
    -- the symbol of an operator is reserved, so it ends the field
    have hends : Ends (op.symbol.toList ++ (value.text ++ rest)) := by
      cases op <;> simp [Operator.symbol] <;> decide
    have hfield := string_read field (field.endsBefore_of_ends hends)
    have hop : operator.read (op.symbol.toList ++ (value.text ++ rest)) =
        some (op, value.text ++ rest) := by
      -- the sign that would make the symbol longer is reserved, and no value begins with it
      refine operator_read op fun tail htail => ?_
      obtain ⟨d, back, hvalue⟩ := List.exists_cons_of_ne_nil value.text_ne_nil
      simp only [hvalue, List.cons_append, List.cons.injEq] at htail
      rcases value.text_head hvalue with hd | hd
      · rw [hd] at htail; exact absurd htail.1 (by decide)
      · rw [htail.1] at hd; exact absurd hd (by decide)
    have hvalue := string_read value (value.endsBefore_of_ends h.ends)
    simp only [TermSpelling.text, List.append_assoc, fullTerm_read, hfield, hop, hvalue,
      Option.bind_some, Option.map_some, Option.some_or, TermSpelling.term]

/-- What a single term reads is a spelling of it. -/
theorem exists_spelling_of_single_read {text rest : List Char} {q : Query}
    (h : single.read text = some (q, rest)) :
    ∃ t : TermSpelling, q = .term t.term ∧ text = t.text ++ rest := by
  rw [single_read_eq] at h
  -- the parts that were read in turn are spellings, and their texts follow one another
  cases hfull : fullTerm.read text with
  | some p =>
    simp only [hfull, Option.some_or, Option.map_some, Option.some.injEq, Prod.mk.injEq] at h
    obtain ⟨rfl, rfl⟩ := h
    simp only [fullTerm_read, Option.bind_eq_some_iff, Option.map_eq_some_iff] at hfull
    obtain ⟨⟨field, r₁⟩, hf, ⟨op, r₂⟩, ho, ⟨token, r₃⟩, hv, rfl⟩ := hfull
    obtain ⟨fs, rfl, rfl, -⟩ := exists_spelling_of_string_read hf
    obtain ⟨vs, rfl, hr₂, -⟩ := exists_spelling_of_string_read hv
    refine ⟨.full fs op vs, rfl, ?_⟩
    have hr₁ : r₁ = op.symbol.toList ++ r₂ := eq_append_of_operator_read ho
    have hr₂ : r₂ = vs.text ++ r₃ := hr₂
    simp [TermSpelling.text, hr₁, hr₂]
  | none =>
    simp only [hfull, Option.none_or, Option.map_eq_some_iff, bareTerm_read] at h
    obtain ⟨p, ⟨⟨token, r⟩, hv, rfl⟩, hp⟩ := h
    obtain ⟨rfl, rfl⟩ := Prod.mk.inj hp
    obtain ⟨vs, rfl, rfl, -⟩ := exists_spelling_of_string_read hv
    exact ⟨.bare vs, rfl, rfl⟩

/-- A term is missing exactly where a string is. -/
private theorem single_read_eq_none_iff {text : List Char} :
    single.read text = none ↔ string.read text = none := by
  rw [single_read_eq, fullTerm_read, bareTerm_read]
  cases string.read text with
  | none => simp
  | some p => simp

/-- A term is read from everything that begins with a spelling of one. -/
theorem single_read_ne_none (t : TermSpelling) (rest : List Char) :
    single.read (t.text ++ rest) ≠ none := by
  rw [Ne, single_read_eq_none_iff]
  cases t with
  | bare value => exact string_read_ne_none value rest
  | full field op value =>
    rw [TermSpelling.text, List.append_assoc]
    exact string_read_ne_none field _

/-- No term begins with a bracket. -/
theorem single_read_bracket (rest : List Char) : single.read ('(' :: rest) = none := by
  rw [single_read_eq_none_iff]
  refine string_of_missing (ends_cons.mpr (by decide)) fun tail h => ?_
  simp at h

end Sift.Query

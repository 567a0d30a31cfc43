import Sift.Proofs.Query.Token

/-!
# What sentences read

Terms inside a sentence and sentences inside a query are put together by the same three
alternatives, a `chain`.  `ChainReads` says once how a chain is read, with the reason why each
alternative before the one taken did not match.

* `Sentence.read`: a sentence is read back from its text, before a closing bracket or the end.
* `sentence_read_sound`: what a sentence reads is the text of that sentence.
-/

namespace Sift.Query

open Grammar

/-! ## Chains -/

/-- Two parts with the word `OR` between them, two parts with a space between them, or one part. -/
def chain (part : Grammar Query) : Grammar Query :=
  pair part " OR " .or <|> pair part " " .and <|> part

/-- A sentence without brackets is a chain of terms. -/
theorem plain_eq_chain : plain = chain single := rfl

/-- A query is a chain of sentences. -/
theorem whole_eq_chain : whole = chain (sentence maxNesting) := rfl

variable {part : Grammar Query} {text rest : List Char} {q : Query}

instance (part : Grammar Query) [Lawful part] (separator : String)
    (join : Query → Query → Query) : Lawful (pair part separator join) := by
  unfold pair; infer_instance

instance (part : Grammar Query) [Lawful part] : Lawful (chain part) := by
  unfold chain; infer_instance

/-- What a pair reads. -/
private theorem pair_read [Lawful part] (separator : String) (join : Query → Query → Query)
    (text : List Char) :
    (pair part separator join).read text = (part.read text).bind fun l =>
      ((literal separator).read l.2).bind fun s =>
        (part.read s.2).map fun r => (join l.1 r.1, r.2) := by
  show (part >>= fun left => literal separator >>= fun _ => part >>= fun right =>
    pure (join left right)).read text = _
  simp only [read_bind, read_pure]
  congr; funext l; congr; funext s
  cases part.read s.2 <;> rfl

/-- A pair is read where its parts are, with the separator between them. -/
theorem pair_read_eq_some_iff [Lawful part] {separator : String}
    {join : Query → Query → Query} :
    (pair part separator join).read text = some (q, rest) ↔
      ∃ l r mid, part.read text = some (l, separator.toList ++ mid) ∧
        part.read mid = some (r, rest) ∧ q = join l r := by
  simp only [pair_read, Option.bind_eq_some_iff, Option.map_eq_some_iff]
  constructor
  · rintro ⟨⟨l, r₁⟩, hl, ⟨⟨⟩, mid⟩, hs, ⟨r, back⟩, hr, heq⟩
    obtain ⟨rfl, rfl⟩ := Prod.mk.inj heq
    rw [literal_read_eq_some_iff] at hs
    exact ⟨l, r, mid, hs ▸ hl, hr, rfl⟩
  · rintro ⟨l, r, mid, hl, hr, rfl⟩
    exact ⟨_, hl, ((), mid), literal_read_eq_some_iff.mpr rfl, (r, rest), hr, rfl⟩

/-- How a chain is read: the alternatives in their order, each with the reason why the ones before
    it did not match. -/
inductive ChainReads (part : Grammar Query) (text : List Char) : Query → List Char → Prop
  | or {l r : Query} {mid rest : List Char} (hl : part.read text = some (l, " OR ".toList ++ mid))
      (hr : part.read mid = some (r, rest)) : ChainReads part text (.or l r) rest
  | and {l r : Query} {mid rest : List Char} (hl : part.read text = some (l, " ".toList ++ mid))
      (hr : part.read mid = some (r, rest))
      (hor : ∀ back, mid = "OR ".toList ++ back → part.read back = none) :
      ChainReads part text (.and l r) rest
  | part {q : Query} {rest : List Char} (h : part.read text = some (q, rest))
      (hor : ∀ back, rest = " OR ".toList ++ back → part.read back = none)
      (hand : ∀ back, rest = " ".toList ++ back → part.read back = none) :
      ChainReads part text q rest

/-- No pair is read where what follows its separator is not. -/
private theorem pair_read_eq_none [Lawful part] {separator : String}
    {join : Query → Query → Query} {l : Query} (hl : part.read text = some (l, rest))
    (h : ∀ back, rest = separator.toList ++ back → part.read back = none) :
    (pair part separator join).read text = none := by
  rw [Option.eq_none_iff_forall_ne_some]
  rintro ⟨q, out⟩ hq
  obtain ⟨l', r, mid, hl', hr, -⟩ := pair_read_eq_some_iff.mp hq
  rw [hl] at hl'
  obtain ⟨-, rfl⟩ := Prod.mk.inj (Option.some.inj hl')
  rw [h mid rfl] at hr; cases hr

/-- Where a pair is not read, what follows its separator is not. -/
theorem right_read_eq_none [Lawful part] {separator : String}
    {join : Query → Query → Query} (h : (pair part separator join).read text = none) {l : Query}
    (hl : part.read text = some (l, rest)) :
    ∀ back, rest = separator.toList ++ back → part.read back = none := by
  rintro back rfl
  rw [Option.eq_none_iff_forall_ne_some]
  rintro ⟨r, out⟩ hr
  rw [pair_read_eq_some_iff.mpr ⟨l, r, back, hl, hr, rfl⟩] at h
  cases h

/-- A chain reads what one of its alternatives does. -/
theorem chain_read_eq_some_iff [Lawful part] :
    (chain part).read text = some (q, rest) ↔ ChainReads part text q rest := by
  show (pair part " OR " .or <|> (pair part " " .and <|> part)).read text = _ ↔ _
  rw [read_orElse, read_orElse]
  constructor
  · intro h
    -- the alternatives in turn; a pair that failed says what does not follow its separator
    cases hor : (pair part " OR " Query.or).read text with
    | some p =>
      rw [hor, Option.some_or] at h
      obtain ⟨l, r, mid, hl, hr, rfl⟩ := pair_read_eq_some_iff.mp (hor.trans h)
      exact .or hl hr
    | none =>
      rw [hor, Option.none_or] at h
      cases hand : (pair part " " Query.and).read text with
      | some p =>
        rw [hand, Option.some_or] at h
        obtain ⟨l, r, mid, hl, hr, rfl⟩ := pair_read_eq_some_iff.mp (hand.trans h)
        exact .and hl hr fun back hback => right_read_eq_none hor hl back (by simp [hback])
      | none =>
        rw [hand, Option.none_or] at h
        exact .part h (right_read_eq_none hor h) (right_read_eq_none hand h)
  · intro h
    cases h with
    | or hl hr => rw [pair_read_eq_some_iff.mpr ⟨_, _, _, hl, hr, rfl⟩, Option.some_or]
    | and hl hr hor =>
      rw [pair_read_eq_none hl (fun back hback => hor back (by simpa using hback)),
        Option.none_or, pair_read_eq_some_iff.mpr ⟨_, _, _, hl, hr, rfl⟩, Option.some_or]
    | part h hor hand =>
      rw [pair_read_eq_none h hor, pair_read_eq_none h hand, Option.none_or, Option.none_or, h]

/-- A chain reads something wherever its part does. -/
theorem chain_read_eq_none_iff [Lawful part] :
    (chain part).read text = none ↔ part.read text = none := by
  show (pair part " OR " .or <|> (pair part " " .and <|> part)).read text = _ ↔ _
  rw [read_orElse, read_orElse, pair_read, pair_read]
  -- all three alternatives begin with the part, and the last one is nothing else
  cases part.read text with
  | none => simp
  | some p => simp

/-! ## Brackets and sentences -/

instance (inner : Grammar Query) [Lawful inner] : Lawful (bracketed inner) := by
  unfold bracketed; infer_instance

/-- A rule that always fails notes what it is given. -/
theorem fail_notes (expected : Expected) (text : List Char) :
    (Grammar.fail expected : Grammar Query).read text = none ∧
      (Grammar.fail expected : Grammar Query).Notes text [⟨text, expected⟩] :=
  notes_of_none (by simp) fun _ _ _ => rfl

instance (expected : Expected) :
    Token (Grammar.fail expected : Grammar Query) fun text => ⟨text, expected⟩ :=
  ⟨fun text => .inr (fail_notes expected text)⟩

instance : Lawful plain := inferInstanceAs (Lawful (chain single))

/-- What may stand inside the brackets of a sentence. -/
def inner : Nat → Grammar Query
  | 0 => Grammar.fail .nestingDepth
  | depth + 1 => sentence depth

/-- A sentence is one in brackets or one without. -/
theorem sentence_eq (depth : Nat) : sentence depth = (bracketed (inner depth) <|> plain) := by
  cases depth <;> rfl

instance (depth : Nat) : Lawful (sentence depth) := by
  induction depth with
  | zero => exact inferInstanceAs (Lawful (bracketed (Grammar.fail .nestingDepth) <|> plain))
  | succ depth ih => exact inferInstanceAs (Lawful (bracketed (sentence depth) <|> plain))

instance (depth : Nat) : Lawful (inner depth) := by
  cases depth <;> (unfold inner; infer_instance)

instance : Lawful whole := inferInstanceAs (Lawful (chain (sentence maxNesting)))

/-- Brackets are read where what is inside of them is, up to the closing one. -/
private theorem bracketed_read_eq_some_iff {inside : Grammar Query} [Lawful inside] :
    (bracketed inside).read text = some (q, rest) ↔
      ∃ mid r, text = "(".toList ++ mid ∧ inside.read mid = some (r, ")".toList ++ rest) ∧
        q = .group r := by
  show (literal "(" >>= fun _ => inside >>= fun r => literal ")" >>= fun _ =>
    pure (Query.group r)).read text = _ ↔ _
  -- the three steps in a row
  simp only [read_bind, read_pure, Option.bind_eq_some_iff]
  constructor
  · rintro ⟨⟨⟨⟩, mid⟩, hopen, ⟨r, out⟩, hinside, ⟨⟨⟩, back⟩, hclose, heq⟩
    obtain ⟨rfl, rfl⟩ := Prod.mk.inj (Option.some.inj heq)
    rw [literal_read_eq_some_iff] at hopen hclose
    exact ⟨mid, r, hopen, hclose ▸ hinside, rfl⟩
  · rintro ⟨mid, r, hopen, hinside, rfl⟩
    exact ⟨((), mid), literal_read_eq_some_iff.mpr hopen, _, hinside, ((), rest),
      literal_read_eq_some_iff.mpr rfl, rfl⟩

/-- A sentence that does not begin with a bracket has none. -/
theorem sentence_read_of_not_bracket (depth : Nat) (h : ∀ mid, text ≠ '(' :: mid) :
    (sentence depth).read text = plain.read text := by
  have hnone : (bracketed (inner depth)).read text = none := by
    rw [Option.eq_none_iff_forall_ne_some]
    rintro ⟨q, rest⟩ hq
    obtain ⟨mid, r, htext, -⟩ := bracketed_read_eq_some_iff.mp hq
    exact h mid htext
  rw [sentence_eq, read_orElse, hnone, Option.none_or]

/-- A sentence that begins with a bracket has that bracket. -/
private theorem sentence_read_of_bracket (depth : Nat) (mid : List Char) :
    (sentence depth).read ('(' :: mid) = (bracketed (inner depth)).read ('(' :: mid) := by
  have hplain : plain.read ('(' :: mid) = none :=
    chain_read_eq_none_iff.mpr (single_read_bracket mid)
  rw [sentence_eq, read_orElse, hplain, Option.or_none]

/-! ## The text of a sentence -/

/-- What can follow a sentence that stands alone: a closing bracket or the end. -/
def Closes (rest : List Char) : Prop := ∀ c ∈ rest.head?, c = ')'

/-- A sentence may stand before the end. -/
@[simp] theorem closes_nil : Closes [] := by simp [Closes]

/-- A sentence may stand before a closing bracket. -/
@[simp] theorem closes_cons {c : Char} : Closes (c :: rest) ↔ c = ')' := by simp [Closes]

/-- What can follow a sentence can follow a term. -/
private theorem Closes.stops (h : Closes rest) : Stops rest := fun c hc => .inr (h c hc)

/-- What can follow a sentence does not begin with a space. -/
private theorem Closes.ne_space (h : Closes rest) (back : List Char) : rest ≠ ' ' :: back := by
  rintro rfl
  exact absurd (closes_cons.mp h) (by decide)

namespace TermSpelling

/-- Two spellings with one text are spellings of one term, wherever they end. -/
private theorem eq_of_text_append {t u : TermSpelling} {r₁ r₂ : List Char} (h₁ : Stops r₁)
    (h₂ : Stops r₂)
    (h : t.text ++ r₁ = u.text ++ r₂) : t.term = u.term ∧ t.text = u.text ∧ r₁ = r₂ := by
  have hread := single_read t h₁
  rw [h, single_read u h₂] at hread
  obtain ⟨hterm, rfl⟩ := Prod.mk.inj (Option.some.inj hread)
  exact ⟨(Query.term.inj hterm).symm, List.append_cancel_right h, rfl⟩

/-- Only one spelling of a term is the word of a disjunction. -/
theorem eq_orWord_of_text {t : TermSpelling} (h : t.text = ['O', 'R']) : t = .orWord := by
  cases t with
  | bare value =>
    cases value with
    | raw token nonempty unreserved =>
      have htoken : token = "OR" := String.toList_injective h
      subst htoken; rfl
    | quoted token unquoted => simp [text, StringSpelling.text] at h
  | full field op value =>
    -- a text is read as one term only, and the word is read as one without a field
    obtain ⟨hterm, -, -⟩ := @eq_of_text_append (.full field op value) .orWord [] [] (by simp)
      (by simp) (by simp [h])
    cases hterm

/-- A term whose text goes on as the word `OR` and a space is that word. -/
theorem eq_orWord_of_text_append {t : TermSpelling} {back : List Char} (hstops : Stops rest)
    (h : t.text ++ rest = "OR ".toList ++ back) : t = .orWord ∧ rest = ' ' :: back := by
  have hword : t.text ++ rest = orWord.text ++ ' ' :: back := h
  obtain ⟨-, htext, hrest⟩ := eq_of_text_append hstops (by simp) hword
  exact ⟨eq_orWord_of_text htext, hrest⟩

/-- The text of a term does not begin with a bracket. -/
theorem text_append_ne_bracket (t : TermSpelling) (rest mid : List Char) :
    t.text ++ rest ≠ '(' :: mid := by
  obtain ⟨c, tail, hc⟩ := List.exists_cons_of_ne_nil t.text_ne_nil
  rw [hc, List.cons_append]
  intro h
  obtain ⟨rfl, -⟩ := List.cons.inj h
  rcases t.text_head hc with h | h
  · exact absurd h (by decide)
  · exact absurd h (by decide)

end TermSpelling

/-- Where a term is followed by nothing that would make a pair of it, it is a sentence. -/
theorem sentence_read_term (depth : Nat) (t : TermSpelling) (hstops : Stops rest)
    (hand : ∀ back, rest = ' ' :: back → single.read back = none) :
    (sentence depth).read (t.text ++ rest) = some (.term t.term, rest) := by
  rw [sentence_read_of_not_bracket _ (t.text_append_ne_bracket _)]
  refine chain_read_eq_some_iff.mpr (.part (single_read t hstops) ?_ hand)
  rintro back rfl
  -- the word `OR` is itself a term, so the space before it would make a pair
  have hword := hand ("OR ".toList ++ back) rfl
  rw [show "OR ".toList ++ back = TermSpelling.orWord.text ++ ' ' :: back from rfl,
    single_read _ (by simp)] at hword
  cases hword

/-- Two terms with the word `OR` between them, whatever follows. -/
theorem sentence_read_or (depth : Nat) (l r : TermSpelling) (hstops : Stops rest) :
    (sentence depth).read (l.text ++ (" OR ".toList ++ r.text) ++ rest) =
      some (.or (.term l.term) (.term r.term), rest) := by
  rw [List.append_assoc, sentence_read_of_not_bracket _ (l.text_append_ne_bracket _),
    List.append_assoc]
  exact chain_read_eq_some_iff.mpr (.or (single_read l (by simp)) (single_read r hstops))

/-- Two terms with a space between them, unless the second could be the word of a disjunction. -/
theorem sentence_read_and (depth : Nat) (l r : TermSpelling) (hstops : Stops rest)
    (hor : r.text = ['O', 'R'] → ∀ back, rest = ' ' :: back → single.read back = none) :
    (sentence depth).read (l.text ++ (" ".toList ++ r.text) ++ rest) =
      some (.and (.term l.term) (.term r.term), rest) := by
  rw [List.append_assoc, sentence_read_of_not_bracket _ (l.text_append_ne_bracket _),
    List.append_assoc]
  refine chain_read_eq_some_iff.mpr (.and (single_read l (by simp)) (single_read r hstops) ?_)
  intro back hback
  obtain ⟨rfl, hrest⟩ := TermSpelling.eq_orWord_of_text_append hstops hback
  exact hor rfl back hrest

/-- A sentence that is read up to a closing bracket is read in brackets. -/
theorem sentence_read_group {depth : Nat} {text : List Char}
    (h : (sentence depth).read (text ++ (")".toList ++ rest)) = some (q, ")".toList ++ rest)) :
    (sentence (depth + 1)).read ("(".toList ++ (text ++ ")".toList) ++ rest) =
      some (.group q, rest) := by
  have hsplit : "(".toList ++ (text ++ ")".toList) ++ rest =
      '(' :: (text ++ (")".toList ++ rest)) := by simp
  rw [hsplit, sentence_read_of_bracket, bracketed_read_eq_some_iff]
  exact ⟨_, q, rfl, h, rfl⟩

/-- A sentence is read back from its text. -/
theorem Sentence.read {depth : Nat} (h : Sentence depth text q) (hrest : Closes rest) :
    (sentence depth).read (text ++ rest) = some (q, rest) := by
  have hno : ∀ back, rest = ' ' :: back → single.read back = none :=
    fun back hback => absurd hback (hrest.ne_space back)
  -- inside brackets the sentence is followed by the closing one, hence the general `rest`
  induction h generalizing rest with
  | term t => exact sentence_read_term _ t hrest.stops hno
  | or l r => exact sentence_read_or _ l r hrest.stops
  | and l r => exact sentence_read_and _ l r hrest.stops fun _ => hno
  | group h ih => exact sentence_read_group (ih (by simp) (by simp))

/-- What is read without brackets is one term or two. -/
private theorem plain_read_sound (depth : Nat) (h : plain.read text = some (q, rest)) :
    ∃ front, text = front ++ rest ∧ Sentence depth front q := by
  cases chain_read_eq_some_iff.mp h with
  | or hl hr =>
    obtain ⟨l, rfl, rfl⟩ := exists_spelling_of_single_read hl
    obtain ⟨r, rfl, rfl⟩ := exists_spelling_of_single_read hr
    exact ⟨_, by simp, .or l r⟩
  | and hl hr hor =>
    obtain ⟨l, rfl, rfl⟩ := exists_spelling_of_single_read hl
    obtain ⟨r, rfl, rfl⟩ := exists_spelling_of_single_read hr
    exact ⟨_, by simp, .and l r⟩
  | part h hor hand =>
    obtain ⟨t, rfl, rfl⟩ := exists_spelling_of_single_read h
    exact ⟨_, rfl, .term t⟩

/-- A sentence is read as a bracket around a sentence that may hold fewer brackets, or without
    brackets. -/
theorem sentence_read_cases {depth : Nat} (h : (sentence depth).read text = some (q, rest)) :
    (∃ d mid r, depth = d + 1 ∧ text = '(' :: mid ∧
      (sentence d).read mid = some (r, ")".toList ++ rest) ∧ q = .group r) ∨
      plain.read text = some (q, rest) := by
  by_cases hb : ∃ mid, text = '(' :: mid
  · obtain ⟨mid, rfl⟩ := hb
    rw [sentence_read_of_bracket, bracketed_read_eq_some_iff] at h
    obtain ⟨mid', r, hmid, hinside, rfl⟩ := h
    cases depth with
    | zero =>
      -- no bracket may stand here at all
      rw [show inner 0 = Grammar.fail .nestingDepth from rfl, (fail_notes _ _).1] at hinside
      cases hinside
    | succ d => exact .inl ⟨d, mid', r, rfl, hmid, hinside, rfl⟩
  · rw [sentence_read_of_not_bracket _ (fun mid hmid => hb ⟨mid, hmid⟩)] at h
    exact .inr h

/-- What a sentence reads is the text of that sentence. -/
theorem sentence_read_sound {depth : Nat} (h : (sentence depth).read text = some (q, rest)) :
    ∃ front, text = front ++ rest ∧ Sentence depth front q := by
  -- on the brackets that may be opened; the sentence inside has one of them less
  induction depth generalizing text q rest with
  | zero =>
    rcases sentence_read_cases h with ⟨d, -, -, hd, -⟩ | hplain
    · cases hd
    · exact plain_read_sound 0 hplain
  | succ depth ih =>
    rcases sentence_read_cases h with ⟨d, mid, r, hd, rfl, hinside, rfl⟩ | hplain
    · cases hd
      obtain ⟨front, rfl, hfront⟩ := ih hinside
      exact ⟨_, by simp, .group hfront⟩
    · exact plain_read_sound _ hplain

end Sift.Query

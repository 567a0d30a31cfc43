import Sift.Proofs.Query.Accepted
import Sift.Proofs.Query.Balance

/-!
# What is expected can be given

Whatever a rule notes as missing at some place, also in an alternative that was given up later, the
text up to that place can be continued by every spelling of it and then completed to something the
rule reads.  There are two exceptions, both at the limit of brackets: a bracket beyond the limit is
noted after it has been read, and where all brackets are open one more is still named among what is
expected.

`whole_notes` is the statement for whole queries.
-/

namespace Sift.Query

open Grammar

variable {text rest front x : List Char} {q : Query} {depth : Nat}

/-- The texts that are meant by what is expected.  The limit of brackets and the end of the query
    are no texts. -/
inductive Expected.Spells : Expected → List Char → Prop
  | literal (s : String) : Spells (.literal s) s.toList
  | operator (op : Operator) : Spells .operator op.symbol.toList
  | term {token : List Char} (nonempty : token ≠ [])
      (unreserved : ∀ c ∈ token, isReserved c = false) : Spells .term token
  | closingQuote : Spells .closingQuote ['"']

/-- What was expected is a text, and the text up to the note, with whatever it is spelled by after
    that, begins something with `P`. -/
structure Note.Completes (n : Note) (text : List Char) (P : List Char → Prop) : Prop where
  exists_spelling : ∃ word, n.expected.Spells word
  exists_text : ∃ front, text = front ++ n.rest ∧
    ∀ word, n.expected.Spells word → ∃ more, P (front ++ (word ++ more))

namespace Note.Completes

variable {n : Note} {P R : List Char → Prop}

/-- What completes to something completes to all that follows from it. -/
theorem imp (h : n.Completes text P) (himp : ∀ x, P x → R x) : n.Completes text R := by
  obtain ⟨hspelling, front, htext, hp⟩ := h
  refine ⟨hspelling, front, htext, fun word hword => ?_⟩
  obtain ⟨more, hmore⟩ := hp word hword
  exact ⟨more, himp _ hmore⟩

/-- What completes the end of a text completes the text. -/
private theorem prepend (h : n.Completes rest P) (htext : text = front ++ rest)
    (himp : ∀ x, P x → R (front ++ x)) : n.Completes text R := by
  obtain ⟨hspelling, begun, rfl, hp⟩ := h
  refine ⟨hspelling, front ++ begun, by simp [htext], fun word hword => ?_⟩
  obtain ⟨more, hmore⟩ := hp word hword
  exact ⟨more, by simpa using himp _ hmore⟩

/-- A fixed text has one spelling. -/
theorem literal {s : String} (front more : List Char) (htext : text = front ++ rest)
    (h : P (front ++ (s.toList ++ more))) : Note.Completes ⟨rest, .literal s⟩ text P := by
  refine ⟨⟨_, .literal s⟩, front, htext, fun word hword => ?_⟩
  cases hword with
  | literal => exact ⟨more, h⟩

end Note.Completes

/-! ## Terms -/

/-- What a string misses completes it. -/
private theorem string_notes (text : List Char) :
    string.NotesAll text fun n => n.Completes text fun x => ∃ s : StringSpelling, x = s.text := by
  -- a raw string misses a term, a quoted one its first quote or its last
  show (raw <|> quoted).NotesAll text _
  refine .orElse (.token fun _ => ?_) fun _ => ?_
  · have hletter : ∀ c ∈ ['x'], isReserved c = false := by
      intro c hc
      rw [List.mem_singleton.mp hc]
      rfl
    refine ⟨⟨['x'], .term (by simp) hletter⟩, [], rfl, fun token htoken => ?_⟩
    cases htoken with
    | term nonempty unreserved =>
      exact ⟨[], .raw (String.ofList token) (by simpa using nonempty) (by simpa using unreserved),
        by simp [StringSpelling.text]⟩
  · show (literal "\"" >>= fun _ => closing).NotesAll text _
    refine .bind (.token fun _ => ?_) ?_
    · exact .literal [] ['"'] rfl ⟨.quoted "" (by decide), rfl⟩
    · rintro ⟨⟩ inside hread
      rw [literal_read_eq_some_iff] at hread
      -- the quote is missed at the end of the text, whatever stands inside
      refine .token fun hnone => ?_
      have hinside := not_mem_of_closing_read_eq_none hnone
      refine ⟨⟨_, .closingQuote⟩, text, by simp, fun word hword => ?_⟩
      cases hword with
      | closingQuote =>
        refine ⟨[], .quoted (String.ofList inside) (by simpa using hinside), ?_⟩
        simp [hread, StringSpelling.text]

/-- What a term misses completes it. -/
private theorem single_notes (text : List Char) :
    single.NotesAll text fun n => n.Completes text fun x => ∃ t : TermSpelling, x = t.text := by
  have hbare : string.NotesAll text fun n =>
      n.Completes text fun x => ∃ t : TermSpelling, x = t.text := by
    refine (string_notes text).mono fun n _ hn => hn.imp ?_
    rintro x ⟨s, rfl⟩
    exact ⟨.bare s, rfl⟩
  have hfull : fullTerm.NotesAll text fun n =>
      n.Completes text fun x => ∃ t : TermSpelling, x = t.text := by
    show (string >>= fun field => operator >>= fun op => string >>= fun token =>
      pure (⟨some field, op, Value.ofToken token⟩ : Term)).NotesAll text _
    -- along the rule: the field, the operator and the value, each with what was read before it
    refine hbare.bind fun field r₁ hfield => ?_
    obtain ⟨fs, rfl, rfl, -⟩ := exists_spelling_of_string_read hfield
    refine .bind (.token fun _ => ?_) fun op r₂ hop => ?_
    · -- any operator and any value complete a field
      refine ⟨⟨_, .operator .contains⟩, fs.text, rfl, fun word hword => ?_⟩
      cases hword with
      | operator op => exact ⟨['x'], .full fs op (.word "x" (by decide)), rfl⟩
    · obtain rfl := eq_append_of_operator_read hop
      refine NotesAll.bind ?_ fun _ _ _ => .pure _ _ _
      refine (string_notes r₂).mono fun n _ hn => ?_
      refine hn.prepend (List.append_assoc _ _ _).symm ?_
      rintro x ⟨s, rfl⟩
      exact ⟨.full fs op s, List.append_assoc _ _ _⟩
  show ((fullTerm <|> bareTerm) >>= fun t => pure (Query.term t)).NotesAll text _
  refine NotesAll.bind (hfull.orElse fun _ => ?_) fun _ _ _ => .pure _ _ _
  exact hbare.bind fun _ _ _ => .pure _ _ _

/-! ## Chains -/

/-- The notes of a chain: those of its parts, and those of its separators. -/
private theorem chain_notes {part : Grammar Query} [Lawful part] {Q : Note → Prop}
    (hpart : part.NotesAll text Q)
    (hsep : ∀ l rest, part.read text = some (l, rest) →
      Q ⟨rest, .literal " OR "⟩ ∧ Q ⟨rest, .literal " "⟩)
    (hor : ∀ l mid, part.read text = some (l, " OR ".toList ++ mid) → part.NotesAll mid Q)
    (hand : ∀ l mid, part.read text = some (l, " ".toList ++ mid) →
      (∀ back, mid = "OR ".toList ++ back → part.read back = none) → part.NotesAll mid Q) :
    (chain part).NotesAll text Q := by
  -- a pair notes what its parts do, and its separator between them
  have hpair : ∀ (separator : String) (join : Query → Query → Query),
      (∀ l rest, part.read text = some (l, rest) → Q ⟨rest, .literal separator⟩) →
      (∀ l mid, part.read text = some (l, separator.toList ++ mid) → part.NotesAll mid Q) →
      (pair part separator join).NotesAll text Q := by
    intro separator join hs hr
    show (part >>= fun l => literal separator >>= fun _ => part >>= fun r =>
      pure (join l r)).NotesAll text Q
    refine hpart.bind fun l rest hl => .bind (.token fun _ => hs l rest hl) ?_
    rintro ⟨⟩ mid hmid
    rw [literal_read_eq_some_iff] at hmid
    subst hmid
    exact (hr l mid hl).bind fun _ _ _ => .pure _ _ _
  show (pair part " OR " .or <|> (pair part " " .and <|> part)).NotesAll text Q
  refine (hpair _ _ (fun l rest h => (hsep l rest h).1) hor).orElse fun hnone => ?_
  -- the second alternative is tried where the first has failed
  refine (hpair _ _ (fun l rest h => (hsep l rest h).2) fun l mid hl => ?_).orElse fun _ => hpart
  exact hand l mid hl fun back hback => right_read_eq_none hnone hl back (by simp [hback])

/-! ## Sentences -/

/-- Where no term can be read, what completes a sentence is a term or begins with a bracket. -/
def Opens (text x : List Char) : Prop :=
  single.read text = none → (∃ t : TermSpelling, x = t.text) ∨ ∃ tail, x = '(' :: tail

/-- What completes a sentence at a place where it was missed. -/
def Fits (depth : Nat) (text x : List Char) : Prop := (∃ q, Sentence depth x q) ∧ Opens text x

/-- What one or two terms miss completes a sentence. -/
private theorem plain_notes (depth : Nat) (text : List Char) :
    plain.NotesAll text fun n => n.Completes text (Fits depth text) := by
  have hterm : single.NotesAll text fun n => n.Completes text (Fits depth text) := by
    refine (single_notes text).mono fun n _ hn => hn.imp ?_
    rintro x ⟨t, rfl⟩
    exact ⟨⟨_, .term t⟩, fun _ => .inl ⟨t, rfl⟩⟩
  -- behind a term that was read nothing is asked of the beginning
  have hopens : ∀ {l rest}, single.read text = some (l, rest) → ∀ x, Opens text x := by
    intro l rest hl x hnone
    rw [hnone] at hl; cases hl
  -- the second term of a pair, after a separator with which two terms make a sentence
  have hright : ∀ {separator : String} {l : Query} {mid : List Char},
      (∀ ls r : TermSpelling, ∃ q, Sentence depth (ls.text ++ (separator.toList ++ r.text)) q) →
      single.read text = some (l, separator.toList ++ mid) →
      single.NotesAll mid fun n => n.Completes text (Fits depth text) := by
    intro separator l mid hpair hl
    obtain ⟨ls, -, htext⟩ := exists_spelling_of_single_read hl
    refine (single_notes mid).mono fun n _ hn => ?_
    refine hn.prepend (htext.trans (List.append_assoc _ _ _).symm) ?_
    rintro x ⟨r, rfl⟩
    rw [List.append_assoc]
    exact ⟨hpair ls r, hopens hl _⟩
  refine chain_notes hterm (fun l rest hl => ?_)
    (fun l mid hl => hright (fun ls r => ⟨_, .or ls r⟩) hl)
    fun l mid hl _ => hright (fun ls r => ⟨_, .and ls r⟩) hl
  obtain ⟨ls, -, htext⟩ := exists_spelling_of_single_read hl
  exact ⟨.literal _ ['x'] htext ⟨⟨_, .or ls .letter⟩, hopens hl _⟩,
    .literal _ ['x'] htext ⟨⟨_, .and ls .letter⟩, hopens hl _⟩⟩

/-- A note that a sentence makes: one at the limit of brackets, or one that can be completed. -/
inductive SentenceNote (depth : Nat) (text : List Char) (n : Note) : Prop
  | beyond (h : n.expected = .nestingDepth) (htext : text = opening (depth + 1) ++ n.rest)
  | limit (h : n.expected = .literal "(") (htext : text = opening depth ++ n.rest)
  | completes (h : n.Completes text (Fits depth text))

/-- What is noted inside a bracket, seen from before the bracket. -/
private theorem SentenceNote.bracket {n : Note} {mid : List Char} (h : SentenceNote depth mid n) :
    SentenceNote (depth + 1) ('(' :: mid) n := by
  cases h with
  | beyond h htext => exact .beyond h (by rw [htext]; rfl)
  | limit h htext => exact .limit h (by rw [htext]; rfl)
  | completes h =>
    obtain ⟨hspelling, front, htext, hfits⟩ := h
    refine .completes ⟨hspelling, '(' :: front, by rw [htext]; rfl, fun word hword => ?_⟩
    obtain ⟨more, ⟨q, hq⟩, -⟩ := hfits word hword
    refine ⟨more ++ [')'], ⟨.group q, ?_⟩, fun _ => .inr ⟨_, rfl⟩⟩
    have hgroup := hq.group
    simpa using hgroup

/-- What a sentence notes. -/
private theorem sentence_notes (depth : Nat) (text : List Char) :
    (sentence depth).NotesAll text (SentenceNote depth text) := by
  have hplain : ∀ d text, plain.NotesAll text (SentenceNote d text) :=
    fun d text => (plain_notes d text).mono fun n _ hn => .completes hn
  -- on the number of brackets that may still be opened
  induction depth generalizing text with
  | zero =>
    show (bracketed (Grammar.fail .nestingDepth) <|> plain).NotesAll text _
    refine NotesAll.orElse ?_ fun _ => hplain 0 text
    show (literal "(" >>= fun _ => Grammar.fail .nestingDepth >>= fun r =>
      literal ")" >>= fun _ => pure (Query.group r)).NotesAll text _
    -- the bracket is named here although no sentence can follow it
    refine .bind (.token fun _ => .limit rfl rfl) ?_
    rintro ⟨⟩ mid hmid
    rw [literal_read_eq_some_iff] at hmid
    refine .bind (.token fun _ => ?_) fun r rest hr => ?_
    · exact .beyond rfl hmid
    · rw [(fail_notes _ mid).1] at hr; cases hr
  | succ depth ih =>
    show (bracketed (sentence depth) <|> plain).NotesAll text _
    refine NotesAll.orElse ?_ fun _ => hplain _ text
    show (literal "(" >>= fun _ => sentence depth >>= fun r =>
      literal ")" >>= fun _ => pure (Query.group r)).NotesAll text _
    refine .bind (.token fun _ => ?_) ?_
    · exact .completes (.literal [] ['x', ')'] rfl
        ⟨⟨_, Sentence.group (.term .letter)⟩, fun _ => .inr ⟨_, rfl⟩⟩)
    · rintro ⟨⟩ mid hmid
      rw [literal_read_eq_some_iff] at hmid
      subst hmid
      refine ((ih mid).mono fun n _ hn => hn.bracket).bind fun r rest hr => ?_
      obtain ⟨inside, rfl, hinside⟩ := sentence_read_sound hr
      refine .bind (.token fun _ => ?_) fun _ _ _ => .pure _ _ _
      exact .completes (.literal ('(' :: inside) [] rfl
        ⟨⟨_, hinside.group⟩, fun _ => .inr ⟨_, rfl⟩⟩)

/-! ## The limit of brackets -/

/-- As many open brackets as are allowed can still be filled and closed. -/
private theorem exists_sentence_opening (depth : Nat) :
    ∃ more q, Sentence depth (opening depth ++ more) q := by
  induction depth with
  | zero => exact ⟨['x'], _, .term .letter⟩
  | succ depth ih =>
    obtain ⟨more, q, h⟩ := ih
    refine ⟨more ++ [')'], .group q, ?_⟩
    have hgroup := h.group
    simpa using hgroup

/-- One open bracket more than is allowed cannot be read. -/
private theorem sentence_read_opening (depth : Nat) (rest : List Char) :
    (sentence depth).read (opening (depth + 1) ++ rest) = none := by
  have hnone : ∀ d, plain.read (opening (d + 1) ++ rest) = none :=
    fun d => chain_read_eq_none_iff.mpr (single_read_bracket _)
  rw [Option.eq_none_iff_forall_ne_some]
  rintro ⟨q, out⟩ hread
  -- each bracket that is read leaves one bracket less and one level less
  induction depth generalizing q out with
  | zero =>
    rcases sentence_read_cases hread with ⟨d, -, -, hd, -⟩ | hplain
    · cases hd
    · rw [hnone] at hplain; cases hplain
  | succ depth ih =>
    rcases sentence_read_cases hread with ⟨d, mid, r, hd, htext, hinside, -⟩ | hplain
    · cases hd
      obtain ⟨-, rfl⟩ := List.cons.inj htext
      exact ih _ _ hinside
    · rw [hnone] at hplain; cases hplain

/-- The last of some brackets in a row may as well stand behind the others. -/
private theorem opening_succ_append (count : Nat) (rest : List Char) :
    opening (count + 1) ++ rest = opening count ++ '(' :: rest := by
  simp [opening, List.replicate_succ']

/-! ## Whole queries -/

/-- Some continuation of the text is accepted. -/
def Begins (front : List Char) : Prop := ∃ more q, Accepted (front ++ more) q

/-- A text that is not read to its end is not accepted. -/
private theorem not_accepted_of_read (h : whole.read text = some (q, rest)) (hne : rest ≠ [])
    (r : Query) : ¬ Accepted text r := by
  intro haccepted
  rw [haccepted.read] at h
  exact hne (Prod.mk.inj (Option.some.inj h)).2.symm

/-- What stands before a sentence in a query: it has no open brackets, it can be followed by
    whatever fits there, and brackets beyond the limit cannot follow it. -/
structure Context (before mid : List Char) : Prop where
  balanced : Balanced before
  accepts : ∀ x, Fits maxNesting mid x → ∃ q, Accepted (before ++ x) q
  rejects : ∀ more q, ¬ Accepted (before ++ (opening (maxNesting + 1) ++ more)) q

/-- A note that is made on a query: one at the limit of brackets, one that the query could have
    ended there, or one that can be completed. -/
inductive QueryNote (text : List Char) (n : Note) : Prop
  | beyond (h : n.expected = .nestingDepth) (front : List Char)
      (htext : text = front ++ '(' :: n.rest) (hbegins : Begins front)
      (hends : ¬ Begins (front ++ ['(']))
  | limit (h : n.expected = .literal "(") (front : List Char) (htext : text = front ++ n.rest)
      (hopen : openBrackets front = maxNesting) (hbegins : Begins front)
  | ends (h : n.expected = .endOfInput) (front : List Char) (htext : text = front ++ n.rest)
      (haccepted : ∃ q, Accepted front q)
  | completes (h : n.Completes text fun x => ∃ q, Accepted x q)

/-- What a sentence notes, in its place in a query. -/
theorem Context.note {before mid : List Char} {n : Note} (hc : Context before mid)
    (hn : SentenceNote maxNesting mid n) : QueryNote (before ++ mid) n := by
  -- as many brackets as are allowed can be filled behind what stands before
  have hbegins : Begins (before ++ opening maxNesting) := by
    obtain ⟨more, q, h⟩ := exists_sentence_opening maxNesting
    obtain ⟨q', h'⟩ := hc.accepts _ ⟨⟨q, h⟩, fun _ => .inr ⟨_, rfl⟩⟩
    exact ⟨more, q', by simpa using h'⟩
  cases hn with
  | beyond h htext =>
    refine .beyond h (before ++ opening maxNesting) ?_ hbegins ?_
    · rw [htext, opening_succ_append, List.append_assoc]
    · rintro ⟨more, q, h⟩
      refine hc.rejects more q ?_
      rw [opening_succ_append]
      simpa using h
  | limit h htext =>
    exact .limit h (before ++ opening maxNesting) (by rw [htext, List.append_assoc])
      (hc.balanced.openBrackets_opening maxNesting) hbegins
  | completes h => exact .completes (h.prepend rfl hc.accepts)

/-- The start of a query is such a place. -/
private theorem context_start (mid : List Char) : Context [] mid where
  balanced _ := rfl
  accepts := by
    rintro x ⟨⟨q, hq⟩, -⟩
    exact ⟨q, .sentence hq⟩
  rejects more q haccepted := by
    have hread := haccepted.read
    rw [List.nil_append, whole_eq_chain,
      chain_read_eq_none_iff.mpr (sentence_read_opening maxNesting more)] at hread
    cases hread

/-- After a solid sentence and the word `OR`. -/
private theorem Solid.context_or {left : List Char} {l : Query} (h : Solid maxNesting left l)
    (mid : List Char) : Context (left ++ " OR ".toList) mid where
  balanced := h.toSentence.balanced.append fun _ => rfl
  accepts := by
    rintro x ⟨⟨q, hq⟩, -⟩
    exact ⟨_, by simpa using Accepted.or h hq⟩
  rejects more q := by
    -- the word is read as a term, and the brackets are left over
    have hnone := sentence_read_opening maxNesting more
    have hword := (Loose.term .orWord).read maxNesting
      (single_read_bracket (opening maxNesting ++ more))
    have hleft := h.read ("OR ".toList ++ (opening (maxNesting + 1) ++ more))
    refine not_accepted_of_read (chain_read_eq_some_iff.mpr
      (.and (by simpa using hleft) hword ?_)) (List.cons_ne_nil _ _) q
    intro back hback
    have hback : opening (maxNesting + 1) ++ more = back := by simpa using hback
    rw [← hback]
    exact hnone

/-- After a sentence that keeps its end before brackets, and a space. -/
private theorem context_and {left mid : List Char} {l : Query} (hleft : Sentence maxNesting left l)
    (hkeep : ∀ more, (sentence maxNesting).read (left ++ ' ' :: '(' :: more) =
      some (l, ' ' :: '(' :: more))
    (haccepts : ∀ x, Fits maxNesting mid x → ∃ q, Accepted (left ++ (" ".toList ++ x)) q) :
    Context (left ++ " ".toList) mid where
  balanced := hleft.balanced.append fun _ => rfl
  accepts x hx := by
    obtain ⟨q, hq⟩ := haccepts x hx
    exact ⟨q, by simpa using hq⟩
  rejects more q := by
    -- one bracket too many behind the sentence, so that only the sentence is read
    have hread := hkeep (opening maxNesting ++ more)
    refine not_accepted_of_read (chain_read_eq_some_iff.mpr
      (.part (by simpa using hread) ?_ ?_)) (List.cons_ne_nil _ _) q
    · intro back hback
      simp at hback
    · intro back hback
      have hback : opening (maxNesting + 1) ++ more = back := by simpa using hback
      rw [← hback]
      exact sentence_read_opening maxNesting more

/-- A solid sentence can be followed by a space and every sentence: one that begins with the word
    `OR` and a space becomes the right side of a disjunction. -/
private theorem Solid.accepted_space {left : List Char} {l : Query} (h : Solid maxNesting left l)
    (hx : Sentence maxNesting x q) : ∃ r, Accepted (left ++ (" ".toList ++ x)) r := by
  by_cases hword : "OR ".toList <+: x
  · obtain ⟨back, rfl⟩ := hword
    obtain ⟨-, -, r, -, hback⟩ := hx.of_orWord
    exact ⟨_, by simpa using Accepted.or h hback⟩
  · exact ⟨_, .and h hx hword⟩

/-- After a sentence that was read up to a space. -/
private theorem context_space {left mid : List Char} {l : Query}
    (h : (sentence maxNesting).read (left ++ ' ' :: mid) = some (l, ' ' :: mid)) :
    Context (left ++ " ".toList) mid := by
  rcases solid_or_loose_of_read h with hsolid | ⟨hloose, hnone⟩
  · refine context_and hsolid.toSentence (fun more => hsolid.read _) ?_
    rintro x ⟨⟨q, hq⟩, -⟩
    exact hsolid.accepted_space hq
  · refine context_and (hloose.toSentence _) (fun more => hloose.read _ (single_read_bracket _)) ?_
    -- a term joins the loose sentence, a bracket leaves it as it is
    rintro x ⟨⟨q, hq⟩, hopens⟩
    rcases hopens hnone with ⟨t, rfl⟩ | ⟨tail, rfl⟩
    · obtain ⟨r, hr⟩ := hloose.append_term maxNesting t
      exact ⟨r, .sentence hr⟩
    · exact ⟨_, .andGroup hloose hq⟩

/-- Every sentence can be followed by a connective. -/
private theorem Sentence.accepted_connective {left : List Char} {l : Query}
    (h : Sentence maxNesting left l) :
    (∃ r, Accepted (left ++ (" OR ".toList ++ ['x'])) r) ∧
      ∃ r, Accepted (left ++ (" ".toList ++ ['x'])) r := by
  have hx : Sentence maxNesting ['x'] (.term TermSpelling.letter.term) := .term .letter
  rcases h.solid_or_loose with hsolid | hloose
  · exact ⟨⟨_, .or hsolid hx⟩, hsolid.accepted_space hx⟩
  · refine ⟨?_, (hloose.append_term maxNesting .letter).imp fun _ h => .sentence h⟩
    cases hloose with
    | term t => exact ⟨_, .sentence (.or t .letter)⟩
    | orWord t =>
      -- the word `OR` twice: the first one is the connective of a solid sentence
      have hsolid : Solid maxNesting _ _ := .or t .orWord
      obtain ⟨r, hr⟩ := hsolid.accepted_space hx
      exact ⟨r, by simpa using hr⟩

/-- What a query notes. -/
theorem whole_notes (text : List Char) : whole.NotesAll text (QueryNote text) := by
  have hstart := (sentence_notes maxNesting text).mono fun n _ hn => (context_start text).note hn
  refine chain_notes hstart (fun l rest hl => ?_) (fun l mid hl => ?_) fun l mid hl _ => ?_
  · obtain ⟨left, rfl, hleft⟩ := sentence_read_sound hl
    obtain ⟨hor, hand⟩ := hleft.accepted_connective
    exact ⟨.completes (.literal left ['x'] rfl hor), .completes (.literal left ['x'] rfl hand)⟩
  · obtain ⟨left, rfl, hleft⟩ := sentence_read_sound hl
    rcases solid_or_loose_of_read hl with hsolid | ⟨-, hnone⟩
    · refine (sentence_notes maxNesting mid).mono fun n _ hn => ?_
      rw [← List.append_assoc]
      exact (hsolid.context_or mid).note hn
    · -- the left side would have taken in the word `OR`
      exact absurd hnone (single_read_ne_none .orWord _)
  · obtain ⟨left, rfl, hleft⟩ := sentence_read_sound hl
    refine (sentence_notes maxNesting mid).mono fun n _ hn => ?_
    rw [← List.append_assoc]
    exact (context_space hl).note hn

/-! ## The names of what is expected -/

/-- All that is ever expected. -/
def expectations : List Expected :=
  [.term, .literal "\"", .closingQuote, .operator, .literal " OR ", .literal " ", .literal "(",
    .literal ")", .nestingDepth, .endOfInput]

/-- No two of them have the same name. -/
theorem text_inj_of_mem_expectations :
    ∀ a ∈ expectations, ∀ b ∈ expectations, a.text = b.text → a = b := by
  decide

/-- A rule that notes nothing else. -/
class Named {α : Type} (rule : Grammar α) : Prop where
  all : ∀ text, rule.NotesAll text fun n => n.expected ∈ expectations

section Named

variable {α β : Type}

/-- A token is named if what it misses is. -/
private theorem named_token {rule : Grammar α} {missing : List Char → Note} [Token rule missing]
    (h : ∀ text, (missing text).expected ∈ expectations) : Named rule :=
  ⟨fun text => .token fun _ => h text⟩

instance (a : α) : Named (pure a : Grammar α) := ⟨fun _ => .pure _ _ _⟩

instance (rule : Grammar α) (next : α → Grammar β) [Named rule] [∀ a, Named (next a)] :
    Named (rule >>= next) :=
  ⟨fun text => (Named.all text).bind fun _ rest _ => Named.all rest⟩

instance (rule other : Grammar α) [Named rule] [Named other] : Named (rule <|> other) :=
  ⟨fun text => (Named.all text).orElse fun _ => Named.all text⟩

instance : Named (literal "\"") := named_token fun _ => by simp [expectations]

instance : Named (literal " OR ") := named_token fun _ => by simp [expectations]

instance : Named (literal " ") := named_token fun _ => by simp [expectations]

instance : Named (literal "(") := named_token fun _ => by simp [expectations]

instance : Named (literal ")") := named_token fun _ => by simp [expectations]

instance : Named raw := named_token fun _ => by simp [expectations]

instance : Named closing := named_token fun _ => by simp [expectations]

instance : Named operator := named_token fun _ => by simp [expectations]

instance : Named (Grammar.fail .nestingDepth : Grammar Query) :=
  named_token fun _ => by simp [expectations]

instance : Named single := by
  unfold single fullTerm bareTerm string quoted; infer_instance

instance : Named plain := by unfold plain pair; infer_instance

instance (depth : Nat) : Named (sentence depth) := by
  induction depth with
  | zero => unfold sentence bracketed; infer_instance
  | succ depth ih => unfold sentence bracketed; infer_instance

instance : Named whole := by unfold whole pair; infer_instance

end Named

end Sift.Query

import Sift.Proofs.Query.Accepted

/-!
# How far a text is read

Two texts that share a beginning are read alike up to the end of that beginning, or else the rule
reads, or misses something, beyond it: `Follows` states the three ways this can go for one rule, and
a `Steady` rule goes one of them on every pair of texts.  All rules of the grammar are steady.  For
most of them this follows along their definitions; a chain needs an argument of its own, since the
word `OR` with its two spaces is looked for before a single space is.

The consequence is `whole_reaches`: where some continuation of a beginning is accepted, the grammar
gets at least to the end of that beginning on every other continuation of it.
-/

namespace Sift.Query

namespace Grammar

variable {α β : Type} {rule other : Grammar α} {next : α → Grammar β}
  {text rest front u u' : List Char} {a : α}

/-! ## Rules that say what they miss -/

/-- A rule that does not fail without a note. -/
class Vocal (rule : Grammar α) : Prop extends Lawful rule where
  complains : ∀ text, rule.read text = none → rule.NotesSome text fun n => n.rest <:+ text

instance (rule : Grammar α) {missing : List Char → Note} [Token rule missing] : Vocal rule where
  complains _ h := by
    have hnotes := notes_of_missing h
    exact ⟨_, hnotes, _, List.mem_singleton_self _, hnotes.suffix _ (List.mem_singleton_self _)⟩

instance (a : α) : Vocal (pure a : Grammar α) where
  complains text h := by simp at h

instance (rule : Grammar α) (next : α → Grammar β) [Vocal rule] [∀ a, Vocal (next a)] :
    Vocal (rule >>= next) where
  complains text h := by
    cases hread : rule.read text with
    | none => exact (Vocal.complains text hread).bind_left
    | some p =>
      have hnext : (next p.1).read p.2 = none := by simpa [read_bind, hread] using h
      refine NotesSome.bind_right hread ((Vocal.complains p.2 hnext).mono fun n _ hn => ?_)
      exact hn.trans (read_suffix rule hread)

instance (rule other : Grammar α) [Lawful rule] [Vocal other] : Vocal (rule <|> other) where
  complains text h := by
    cases hread : rule.read text with
    | none =>
      have hother : other.read text = none := by simpa [read_orElse, hread] using h
      exact .orElse_right hread (Vocal.complains text hother)
    | some p => simp [read_orElse, hread] at h

/-! ## Reaching a place -/

/-- The rule reads, or misses something, at the start of `u` or beyond it. -/
def Reaches (rule : Grammar α) (text u : List Char) : Prop :=
  (∃ a rest, rule.read text = some (a, rest) ∧ rest <:+ u) ∨
    rule.NotesSome text fun n => n.rest <:+ u

/-- Every rule that says what it misses gets to where it begins. -/
private theorem reaches_self (rule : Grammar α) [Vocal rule] (text : List Char) :
    rule.Reaches text text := by
  cases hread : rule.read text with
  | none => exact .inr (Vocal.complains text hread)
  | some p => exact .inl ⟨p.1, p.2, hread, read_suffix rule hread⟩

/-- A rule that gets to a place gets to all places before it. -/
theorem Reaches.mono (h : rule.Reaches text u) (hu : u <:+ u') : rule.Reaches text u' := by
  rcases h with ⟨a, rest, hread, hrest⟩ | h
  · exact .inl ⟨a, rest, hread, hrest.trans hu⟩
  · exact .inr (h.mono fun n _ hn => hn.trans hu)

/-- A sequence gets where its second rule does, from what the first left. -/
theorem Reaches.bind_right [Lawful rule] [∀ a, Lawful (next a)]
    (hread : rule.read text = some (a, rest)) (h : (next a).Reaches rest u) :
    (rule >>= next).Reaches text u := by
  rcases h with ⟨b, out, hnext, hout⟩ | h
  · exact .inl ⟨b, out, by simp [read_bind, hread, hnext], hout⟩
  · exact .inr (.bind_right hread h)

/-- A sequence gets where its first rule does, since the second says what it misses. -/
theorem Reaches.bind_left [Lawful rule] [∀ a, Vocal (next a)] (h : rule.Reaches text u) :
    (rule >>= next).Reaches text u := by
  rcases h with ⟨a, rest, hread, hrest⟩ | h
  · exact .bind_right hread ((reaches_self (next a) rest).mono hrest)
  · exact .inr h.bind_left

/-- A choice gets where its first rule does. -/
theorem Reaches.orElse_left [Lawful rule] [Lawful other] (h : rule.Reaches text u) :
    (rule <|> other).Reaches text u := by
  rcases h with ⟨a, rest, hread, hrest⟩ | h
  · exact .inl ⟨a, rest, by simp [read_orElse, hread], hrest⟩
  · exact .inr h.orElse_left

/-- A choice gets where its second rule does, if the first fails. -/
theorem Reaches.orElse_right [Lawful rule] [Lawful other] (hread : rule.read text = none)
    (h : other.Reaches text u) : (rule <|> other).Reaches text u := by
  rcases h with ⟨a, rest, hother, hrest⟩ | h
  · exact .inl ⟨a, rest, by simp [read_orElse, hread, hother], hrest⟩
  · exact .inr (.orElse_right hread h)

/-! ## Two texts with one beginning -/

/-- What a rule does on `front ++ u` compared with `front ++ u'`: it reads the same and stops
    inside `front`, or fails on both, or gets to the end of `front` on the first. -/
inductive Follows (rule : Grammar α) (front u u' : List Char) : Prop
  | both (a : α) (mid : List Char) (hmid : mid ≠ [])
      (h : rule.read (front ++ u) = some (a, mid ++ u))
      (h' : rule.read (front ++ u') = some (a, mid ++ u'))
  | neither (h : rule.read (front ++ u) = none) (h' : rule.read (front ++ u') = none)
  | reaches (h : rule.Reaches (front ++ u) u)

/-- A rule that goes the same way on all texts until it gets to where they part. -/
class Steady (rule : Grammar α) : Prop extends Vocal rule where
  follows : ∀ front u u', rule.Follows front u u'

/-- A steady rule goes one of the three ways. -/
private theorem follows (rule : Grammar α) [Steady rule] (front u u' : List Char) :
    rule.Follows front u u' :=
  Steady.follows front u u'

/-- A sequence goes one of the ways if both its rules do. -/
theorem Follows.bind [Lawful rule] [∀ a, Vocal (next a)] (h : rule.Follows front u u')
    (hnext : ∀ a mid, mid ≠ [] → rule.read (front ++ u) = some (a, mid ++ u) →
      (next a).Follows mid u u') : (rule >>= next).Follows front u u' := by
  cases h with
  | both a mid hmid h h' =>
    -- where the first rule stops inside the beginning, the second one has its end to go on with
    cases hnext a mid hmid h with
    | both b back hback hn hn' =>
      exact .both b back hback (by simp [read_bind, h, hn]) (by simp [read_bind, h', hn'])
    | neither hn hn' => exact .neither (by simp [read_bind, h, hn]) (by simp [read_bind, h', hn'])
    | reaches hn => exact .reaches (.bind_right h hn)
  | neither h h' => exact .neither (by simp [read_bind, h]) (by simp [read_bind, h'])
  | reaches h => exact .reaches h.bind_left

/-- A choice goes one of the ways if both its rules do. -/
theorem Follows.orElse [Lawful rule] [Lawful other] (h : rule.Follows front u u')
    (hother : other.Follows front u u') : (rule <|> other).Follows front u u' := by
  cases h with
  | both a mid hmid h h' =>
    exact .both a mid hmid (by simp [read_orElse, h]) (by simp [read_orElse, h'])
  | reaches h => exact .reaches h.orElse_left
  | neither h h' =>
    cases hother with
    | both a mid hmid ho ho' =>
      exact .both a mid hmid (by simp [read_orElse, h, ho]) (by simp [read_orElse, h', ho'])
    | neither ho ho' =>
      exact .neither (by simp [read_orElse, h, ho]) (by simp [read_orElse, h', ho'])
    | reaches ho => exact .reaches (.orElse_right h ho)

instance (a : α) : Steady (pure a : Grammar α) where
  follows front u u' := by
    by_cases hfront : front = []
    · subst hfront
      exact .reaches (reaches_self _ _)
    · exact .both a front hfront (by simp) (by simp)

instance (rule : Grammar α) (next : α → Grammar β) [Steady rule] [∀ a, Steady (next a)] :
    Steady (rule >>= next) where
  follows front u u' := (rule.follows front u u').bind fun a mid _ _ => (next a).follows mid u u'

instance (rule other : Grammar α) [Steady rule] [Steady other] : Steady (rule <|> other) where
  follows front u u' := (rule.follows front u u').orElse (other.follows front u u')

/-- Where a steady rule reads all of some continuation, it gets to the end of the beginning on
    every continuation. -/
private theorem reaches_of_read_all [Steady rule] (h : rule.read (front ++ u') = some (a, [])) :
    rule.Reaches (front ++ u) u := by
  cases rule.follows front u u' with
  | both b mid hmid _ hread =>
    rw [h] at hread
    obtain ⟨-, hnil⟩ := Prod.mk.inj (Option.some.inj hread)
    exact absurd (List.append_eq_nil_iff.mp hnil.symm).1 hmid
  | neither _ hread => rw [h] at hread; cases hread
  | reaches h => exact h

end Grammar

open Grammar

variable {text front mid u u' : List Char}

/-! ## Tokens -/

/-- A fixed text is looked for alike, unless the shared beginning ends within it. -/
private theorem literal_follows {s : String} (h : mid <+: s.toList → mid = s.toList) :
    (literal s).Follows mid u u' := by
  by_cases hs : s.toList <+: mid
  · obtain ⟨back, rfl⟩ := hs
    have hread : ∀ v, (literal s).read (s.toList ++ back ++ v) = some ((), back ++ v) :=
      fun v => literal_read_eq_some_iff.mpr (List.append_assoc _ _ _)
    by_cases hback : back = []
    · subst hback
      exact .reaches (.inl ⟨(), u, by simpa using hread u, List.suffix_rfl⟩)
    · exact .both () back hback (hread u) (hread u')
  · -- the shared beginning already differs from the text that is looked for
    have hnone : ∀ v, (literal s).read (mid ++ v) = none := by
      intro v
      refine (literal_of_not_start fun hp => ?_).1
      rcases List.prefix_or_prefix_of_prefix hp (List.prefix_append mid v) with hsm | hms
      · exact hs hsm
      · exact hs (h hms ▸ List.prefix_rfl)
    exact .neither (hnone u) (hnone u')

/-- A single character is looked for alike on all texts. -/
private theorem steady_literal {s : String} {c : Char} (hs : s.toList = [c]) :
    Steady (literal s) where
  follows mid u u' := by
    cases mid with
    | nil => exact .reaches (reaches_self _ _)
    | cons d mid =>
      refine literal_follows fun hp => ?_
      rw [hs] at hp ⊢
      obtain ⟨back, hback⟩ := hp
      simp only [List.cons_append, List.cons.injEq, List.append_eq_nil_iff] at hback
      rw [hback.1, hback.2.1]

instance : Steady (literal "\"") := steady_literal rfl

instance : Steady (literal "(") := steady_literal rfl

instance : Steady (literal ")") := steady_literal rfl

instance : Steady (literal " ") := steady_literal rfl

instance : Steady raw where
  follows front u u' := by
    obtain ⟨run, rest, rfl, hrun, hends⟩ := exists_unreserved_run front
    cases rest with
    | nil =>
      rw [List.append_nil]
      by_cases hne : run = []
      · subst hne
        exact .reaches (reaches_self _ _)
      · -- the string goes on into `u`
        obtain ⟨more, back, rfl, hmore, hback⟩ := exists_unreserved_run u
        have hall : ∀ c ∈ run ++ more, isReserved c = false := by
          intro c hc
          rcases List.mem_append.mp hc with h | h
          · exact hrun c h
          · exact hmore c h
        have hread := (raw_run (by simp [hne]) hall hback).1
        rw [List.append_assoc] at hread
        exact .reaches (.inl ⟨_, back, hread, List.suffix_append _ _⟩)
    | cons c rest =>
      -- the string ends inside the shared beginning
      have hends' : ∀ v, Ends (c :: rest ++ v) := fun v => ends_cons.mpr (ends_cons.mp hends)
      by_cases hne : run = []
      · subst hne
        exact .neither (raw_of_ends (hends' u)).1 (raw_of_ends (hends' u')).1
      · refine .both (String.ofList run) (c :: rest) (by simp) ?_ ?_
        · rw [List.append_assoc]; exact (raw_run hne hrun (hends' u)).1
        · rw [List.append_assoc]; exact (raw_run hne hrun (hends' u')).1

instance : Steady closing where
  follows front u u' := by
    rcases exists_unquoted_run front with hnot | ⟨inside, rest, rfl, hinside⟩
    · -- the quote is looked for in `u`, and missed at its end if it is not there
      rcases exists_unquoted_run u with hu | ⟨more, back, rfl, hmore⟩
      · have hall : '"' ∉ front ++ u := by simp [hnot, hu]
        exact .reaches (.inr ⟨_, (closing_of_not_mem hall).2, _, List.mem_singleton_self _,
          List.nil_suffix⟩)
      · have hall : '"' ∉ front ++ more := by simp [hnot, hmore]
        have hread := (@closing_append _ back hall).1
        rw [List.append_assoc] at hread
        exact .reaches (.inl ⟨_, back, hread, ⟨more ++ ['"'], by simp⟩⟩)
    · have hread : ∀ v, closing.read (inside ++ '"' :: rest ++ v) =
          some (String.ofList inside, rest ++ v) := by
        intro v
        rw [List.append_assoc, List.cons_append]
        exact (closing_append hinside).1
      by_cases hne : rest = []
      · subst hne
        exact .reaches (.inl ⟨_, u, hread u, List.suffix_rfl⟩)
      · exact .both _ rest hne (hread u) (hread u')

/-- What an operator leaves, after the one or two characters of its symbol. -/
private theorem operator_read_tail {c : Char} {rest back : List Char} {op : Operator}
    (h : operator.read (c :: rest) = some (op, back)) :
    (op.symbol.toList = [c] ∧ back = rest) ∨ ∃ d, op.symbol.toList = [c, d] ∧ rest = d :: back := by
  have htext := eq_append_of_operator_read h
  cases op <;> simp [Operator.symbol] at htext ⊢ <;> grind

instance : Steady operator where
  follows front u u' := by
    match front with
    | [] => exact .reaches (reaches_self _ _)
    | [c] =>
      -- one character tells whether there is an operator, but not which one
      cases hread : operator.read ([c] ++ u) with
      | none =>
        have hc := operator_read_eq_none_iff.mp hread
        exact .neither hread (operator_read_eq_none_iff.mpr hc)
      | some p =>
        refine .reaches (.inl ⟨p.1, p.2, hread, ?_⟩)
        rcases operator_read_tail hread with ⟨-, hback⟩ | ⟨d, -, hback⟩
        · exact hback ▸ List.suffix_rfl
        · exact ⟨[d], hback.symm⟩
    | c :: d :: front =>
      have hsame : (operator.read (c :: d :: front ++ u)).map Prod.fst =
          (operator.read (c :: d :: front ++ u')).map Prod.fst := operator_read_map_fst c d _ _
      cases hread : operator.read (c :: d :: front ++ u) with
      | none =>
        rw [hread] at hsame
        exact .neither hread (Option.map_eq_none_iff.mp hsame.symm)
      | some p =>
        rw [hread] at hsame
        obtain ⟨p', hread', hop⟩ := Option.map_eq_some_iff.mp hsame.symm
        -- the same operator on both texts, so its symbol has one length
        rcases operator_read_tail hread with ⟨hsym, hback⟩ | ⟨e, hsym, hback⟩ <;>
          rcases operator_read_tail hread' with ⟨hsym', hback'⟩ | ⟨e', hsym', hback'⟩
        · refine .both p.1 (d :: front) (by simp) ?_ ?_
          · rw [hread]; exact congrArg some (Prod.ext rfl hback)
          · rw [hread']; exact congrArg some (Prod.ext hop hback')
        · rw [hop, hsym] at hsym'; cases hsym'
        · rw [hop, hsym] at hsym'; cases hsym'
        · obtain ⟨-, hback⟩ := List.cons.inj hback
          obtain ⟨-, hback'⟩ := List.cons.inj hback'
          by_cases hfront : front = []
          · subst hfront
            exact .reaches (.inl ⟨p.1, p.2, hread, hback ▸ List.suffix_rfl⟩)
          · refine .both p.1 front hfront ?_ ?_
            · rw [hread]; exact congrArg some (Prod.ext rfl hback.symm)
            · rw [hread']; exact congrArg some (Prod.ext hop hback'.symm)

/-! ## Terms and sentences -/

instance : Steady quoted := by unfold quoted; infer_instance

instance : Steady string := by unfold string; infer_instance

instance : Steady fullTerm := by unfold fullTerm; infer_instance

instance : Steady bareTerm := by unfold bareTerm; infer_instance

instance : Steady single := by unfold single; infer_instance

section Chain

variable {part : Grammar Query} [Steady part]

instance (join : Query → Query → Query) : Steady (pair part " " join) := by
  unfold pair; infer_instance

instance : Vocal (chain part) := by unfold chain; infer_instance

/-- The beginnings of the word `OR` after the space before it. -/
private def wordFronts : List (List Char) := [[], ['O'], ['O', 'R']]

/-- A beginning of the word `OR` with its spaces is all of it, or a space and a beginning of the
    word. -/
private theorem eq_or_wordFront (h : mid <+: " OR ".toList) (hne : mid ≠ []) :
    mid = " OR ".toList ∨ ∃ w ∈ wordFronts, mid = ' ' :: w := by
  obtain ⟨back, hback⟩ := h
  match mid, hne, hback with
  | [c], _, hback => simp at hback; simp [wordFronts, hback]
  | [c, d], _, hback => simp at hback; simp [wordFronts, hback]
  | [c, d, e], _, hback => simp at hback; simp [wordFronts, hback]
  | c :: d :: e :: f :: mid, _, hback => simp at hback; simp [hback]

/-- Where the word `OR` and the space after it end, after a beginning of them. -/
private theorem suffix_of_wordFront {w : List Char} (hw : w ∈ wordFronts)
    (h : w ++ u = "OR ".toList ++ mid) : mid <:+ u := by
  simp only [wordFronts, List.mem_cons, List.not_mem_nil, or_false] at hw
  rcases hw with rfl | rfl | rfl
  · exact ⟨['O', 'R', ' '], h.symm⟩
  · exact ⟨['R', ' '], (List.cons.inj h).2.symm⟩
  · exact ⟨[' '], (List.cons.inj (List.cons.inj h).2).2.symm⟩

/-- A part that was read up to a space and a beginning of the word `OR` is read on from the space,
    if not by the first alternative, then by the second. -/
private theorem chain_reaches_of_word {q : Query} {w : List Char} (hw : w ∈ wordFronts)
    (hread : part.read text = some (q, ' ' :: w ++ u)) (hword : part.Reaches (w ++ u) u) :
    (chain part).Reaches text u := by
  -- the word is tried as the second term
  have hand : (pair part " " .and).Reaches text u := by
    show (part >>= fun l => literal " " >>= fun _ => part >>= fun r =>
      pure (Query.and l r)).Reaches text u
    refine .bind_right hread (.bind_right (literal_read_eq_some_iff.mpr rfl) ?_)
    exact hword.bind_left
  show (pair part " OR " .or <|> (pair part " " .and <|> part)).Reaches text u
  cases hor : (pair part " OR " .or).read text with
  | none => exact .orElse_right hor hand.orElse_left
  -- the first alternative has read the word, and so has passed its end
  | some p =>
    refine .orElse_left (.inl ⟨p.1, p.2, hor, ?_⟩)
    obtain ⟨l, r, mid, hl, hr, -⟩ := pair_read_eq_some_iff.mp hor
    rw [hread] at hl
    obtain ⟨-, htext⟩ := Prod.mk.inj (Option.some.inj hl)
    obtain ⟨-, htext⟩ := List.cons.inj htext
    exact (read_suffix part hr).trans (suffix_of_wordFront hw htext)

/-- A chain is steady if its parts are, and if the word `OR` and its beginnings are parts. -/
private theorem steady_chain (hword : ∀ w ∈ wordFronts, w ≠ [] → ∃ q, part.read w = some (q, [])) :
    Steady (chain part) where
  follows front u u' := by
    by_cases hcut : ∃ q, ∃ w ∈ wordFronts, part.read (front ++ u) = some (q, ' ' :: w ++ u)
    · -- the texts part inside the word `OR`
      obtain ⟨q, w, hw, hread⟩ := hcut
      refine .reaches (chain_reaches_of_word hw hread ?_)
      by_cases hne : w = []
      · subst hne
        exact reaches_self part u
      · obtain ⟨q', hq'⟩ := hword w hw hne
        exact @reaches_of_read_all _ _ w u [] q' _ (by simpa using hq')
    · -- both texts agree on whether the word stands after the first part
      have hor : (pair part " OR " .or).Follows front u u' := by
        show (part >>= fun l => literal " OR " >>= fun _ => part >>= fun r =>
          pure (Query.or l r)).Follows front u u'
        refine (part.follows front u u').bind fun q mid hmid hread => ?_
        refine (literal_follows fun hp => ?_).bind fun _ back _ _ => follows _ back u u'
        rcases eq_or_wordFront hp hmid with h | ⟨w, hw, rfl⟩
        · exact h
        · exact absurd ⟨q, w, hw, hread⟩ hcut
      exact hor.orElse (follows (pair part " " .and <|> part) front u u')

end Chain

/-- The word `OR` and its first letter are terms. -/
private theorem exists_term_of_wordFront {w : List Char} (hw : w ∈ wordFronts) (hne : w ≠ []) :
    ∃ t : TermSpelling, w = t.text := by
  simp only [wordFronts, List.mem_cons, List.not_mem_nil, or_false] at hw
  rcases hw with rfl | rfl | rfl
  · exact absurd rfl hne
  · exact ⟨.bare (.word "O" (by decide)), rfl⟩
  · exact ⟨.orWord, rfl⟩

instance : Steady plain := by
  refine steady_chain fun w hw hne => ?_
  obtain ⟨t, rfl⟩ := exists_term_of_wordFront hw hne
  exact ⟨_, by simpa using single_read t stops_nil⟩

instance (expected : Expected) : Steady (Grammar.fail expected : Grammar Query) where
  follows _ _ _ := .neither (fail_notes expected _).1 (fail_notes expected _).1

instance (inside : Grammar Query) [Steady inside] : Steady (bracketed inside) := by
  unfold bracketed; infer_instance

instance (depth : Nat) : Steady (sentence depth) := by
  induction depth with
  | zero => exact inferInstanceAs (Steady (bracketed (Grammar.fail .nestingDepth) <|> plain))
  | succ depth ih => exact inferInstanceAs (Steady (bracketed (sentence depth) <|> plain))

instance : Steady whole := by
  refine steady_chain fun w hw hne => ?_
  obtain ⟨t, rfl⟩ := exists_term_of_wordFront hw hne
  exact ⟨_, by simpa using (Sentence.term t).read closes_nil⟩

/-- Where some continuation of a beginning is accepted, every other continuation is read, or
    misses something, beyond that beginning. -/
theorem whole_reaches {q : Query} (h : Accepted (front ++ u') q) :
    whole.Reaches (front ++ u) u :=
  reaches_of_read_all h.read

end Sift.Query

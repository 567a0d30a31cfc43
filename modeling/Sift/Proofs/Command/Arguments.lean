import Sift.Command.Arguments
import Sift.Proofs.Except

/-!
# Well-formed calls

The words of a call say one thing after another (`Says`): a setting and its value, a flag, or a
query.  A call is well-formed (`IsCall`) if it has one query, no flag and no setting twice and no
value that is empty, where a setting that the words do not mention is looked up in the environment.
`parse_eq_search_iff` shows that these are the calls that are answered.
-/

namespace Sift.Command

/-! ## What words say -/

/-- One thing that a call says. -/
inductive Part where
  | setting (setting : Setting) (value : String)
  | flag (flag : Flag)
  | query (text : String)
  deriving DecidableEq

namespace Part

/-- The value that a part gives to a setting. -/
def value? (setting : Setting) : Part → Option String
  | .setting given value => if given = setting then some value else none
  | _ => none

/-- The text that a part asks for. -/
def query? : Part → Option String
  | .query text => some text
  | _ => none

end Part

/-- A word that is no option: it has no dash before something else. -/
def IsPlain (text : String) : Prop := text = "-" ∨ text.toList.head? ≠ some '-'

/-- What the words of a call say. -/
inductive Says : List String → List Part → Prop
  | nil : Says [] []
  /-- A setting and its value in one word. -/
  | joined (setting : Setting) (value : String) {words : List String} {parts : List Part}
      (h : Says words parts) :
      Says (("--" ++ setting.name ++ "=" ++ value) :: words) (.setting setting value :: parts)
  /-- A setting and its value in two words. -/
  | apart (setting : Setting) {value : String} {words : List String} {parts : List Part}
      (hplain : IsPlain value) (h : Says words parts) :
      Says (("--" ++ setting.name) :: value :: words) (.setting setting value :: parts)
  | flag (flag : Flag) {words : List String} {parts : List Part} (h : Says words parts) :
      Says (("--" ++ flag.name) :: words) (.flag flag :: parts)
  | query {text : String} {words : List String} {parts : List Part} (hplain : IsPlain text)
      (h : Says words parts) : Says (text :: words) (.query text :: parts)
  /-- Behind two dashes there are no options. -/
  | dashes (words : List String) : Says ("--" :: words) (words.map .query)

/-! ## The form of a word -/

namespace Argument

/-- The words that are read as no option are the plain ones. -/
private theorem ofText_eq_plain_iff {text : String} : ofText text = .plain ↔ IsPlain text := by
  unfold ofText IsPlain
  rw [← String.toList_inj]
  generalize text.toList = chars
  split
  · simp
  · dsimp only
    split <;> simp_all
  · simp
  -- no two dashes and no dash before something else are left: nothing, one dash alone, or another
  -- beginning
  · rename_i htwo hlong hshort
    refine ⟨fun _ => ?_, fun _ => rfl⟩
    rcases chars with - | ⟨c, - | ⟨c', rest⟩⟩
    · exact .inr (by simp)
    · by_cases hc : c = '-'
      · exact .inl (by rw [hc]; rfl)
      · exact .inr (by simp [hc])
    · refine .inr fun hhead => ?_
      cases Option.some.inj hhead
      exact hshort _ _ rfl

/-- Only two dashes alone end the options. -/
private theorem ofText_eq_separator_iff {text : String} :
    ofText text = .separator ↔ text = "--" := by
  unfold ofText
  rw [← String.toList_inj]
  generalize text.toList = chars
  split
  · simp
  · rename_i rest hrest
    dsimp only
    split <;> simp_all
  · simp_all
  · simp_all

/-- A long option, with its value if it has one. -/
def written (name : String) : Option String → String
  | none => "--" ++ name
  | some value => "--" ++ name ++ "=" ++ value

/-- The characters of a long option: two dashes, its name, and its value behind an equals sign. -/
private theorem toList_written (name : String) (value : Option String) :
    (written name value).toList =
      '-' :: '-' :: (name.toList ++ value.elim [] fun value => '=' :: value.toList) := by
  cases value with
  | none => simp [written]
  | some value => simp [written]

/-- Long options are cut at the first equals sign. -/
private theorem ofText_written {name : String} (value : Option String) (hname : '=' ∉ name.toList)
    (hne : name ≠ "") : ofText (written name value) = .long name value := by
  have hbefore : ∀ c ∈ name.toList, (c != '=') = true := fun c hc => by
    rw [bne_iff_ne]
    rintro rfl
    exact hname hc
  have hchars := toList_written name value
  have hbehind : name.toList ++ value.elim [] (fun value => '=' :: value.toList) ≠ [] := by
    intro hnil
    exact hne (String.toList_eq_nil_iff.mp (List.append_eq_nil_iff.mp hnil).1)
  unfold ofText
  rw [hchars]
  -- a name that is not empty keeps the word from being the separator
  split
  · rename_i heq
    exact absurd (List.cons.inj (List.cons.inj heq).2).2 hbehind
  · rename_i rest _ heq
    cases (List.cons.inj (List.cons.inj heq).2).2
    dsimp only
    rw [List.takeWhile_append_of_pos hbefore, List.dropWhile_append_of_pos hbefore]
    cases value with
    | none => simp
    | some value => simp
  · rename_i hdash heq
    exact absurd (List.cons.inj (List.cons.inj heq).2).1.symm hdash
  · rename_i hlong _
    exact (hlong _ rfl).elim

/-- A word that is read as a long option is written as one. -/
private theorem eq_written_of_ofText {text name : String} {value : Option String}
    (h : ofText text = .long name value) : text = written name value := by
  unfold ofText at h
  split at h
  · cases h
  · rename_i rest _ heq
    have hrest := List.takeWhile_append_dropWhile (p := (· != '=')) (l := rest)
    apply String.toList_injective
    rw [toList_written, heq]
    dsimp only at h
    split at h
    · rename_i hdrop
      cases h
      rw [hdrop] at hrest
      simp [hrest]
    -- the name ends at an equals sign, since it is the first character that was not taken
    · rename_i c chars hdrop
      cases h
      rw [hdrop] at hrest
      have hc : c = '=' := by
        have hhead := List.head_dropWhile_not (p := (· != '=')) (l := rest) (by simp [hdrop])
        simpa [hdrop] using hhead
      rw [hc] at hrest
      simp [hrest]
  · cases h
  · cases h

end Argument

/-! ## Reading one part after another -/

/-- Takes up one part. -/
def Draft.add (draft : Draft) : Part → Except UsageError Draft
  | .setting setting value => draft.assign setting value
  | .flag flag => draft.raise flag
  | .query text => draft.place text

section

variable (setting : Setting) (flag : Flag)

/-- A setting is found under its name. -/
private theorem find?_setting : Setting.all.find? (·.name == setting.name) = some setting := by
  cases setting <;> decide

/-- A flag is found under its name. -/
private theorem find?_flag : Flag.all.find? (·.name == flag.name) = some flag := by
  cases flag <;> decide

/-- No setting has the name of a flag. -/
private theorem find?_setting_flag : Setting.all.find? (·.name == flag.name) = none := by
  cases flag <;> decide

/-- The name of a setting has no equals sign, so it is read as it is written. -/
private theorem ofText_setting (value : Option String) :
    Argument.ofText (Argument.written setting.name value) = .long setting.name value := by
  cases setting <;> exact Argument.ofText_written value (by decide) (by decide)

/-- Nor has the name of a flag. -/
private theorem ofText_flag :
    Argument.ofText (Argument.written flag.name none) = .long flag.name none := by
  cases flag <;> exact Argument.ofText_written none (by decide) (by decide)

end

/-- Words are read by taking up what they say, part by part. -/
private theorem readArguments_eq {words : List String} {parts : List Part} (h : Says words parts)
    (draft : Draft) :
    readArguments draft words = do return some (← parts.foldlM Draft.add draft) := by
  -- each way to say something is one branch of the reader
  induction h generalizing draft with
  | nil => rfl
  | joined setting value h ih =>
    have hform : Argument.ofText ("--" ++ setting.name ++ "=" ++ value) = _ :=
      ofText_setting setting (some value)
    rw [readArguments, hform]
    dsimp only
    rw [find?_setting]
    dsimp only
    rw [List.foldlM_cons, bind_assoc]
    exact bind_congr ih
  | apart setting hplain h ih =>
    have hform : Argument.ofText ("--" ++ setting.name) = _ := ofText_setting setting none
    rw [readArguments, hform]
    dsimp only
    rw [find?_setting]
    dsimp only
    rw [Argument.ofText_eq_plain_iff.mpr hplain]
    dsimp only
    rw [List.foldlM_cons, bind_assoc]
    exact bind_congr ih
  | flag flag h ih =>
    have hform : Argument.ofText ("--" ++ flag.name) = _ := ofText_flag flag
    rw [readArguments, hform]
    dsimp only
    rw [find?_setting_flag, find?_flag]
    dsimp only
    rw [List.foldlM_cons, bind_assoc]
    exact bind_congr ih
  | query hplain h ih =>
    rw [readArguments, Argument.ofText_eq_plain_iff.mpr hplain]
    dsimp only
    rw [List.foldlM_cons, bind_assoc]
    exact bind_congr ih
  | dashes words =>
    rw [readArguments, Argument.ofText_eq_separator_iff.mpr rfl]
    dsimp only
    rw [List.foldlM_map]
    rfl

/-- Words that are read to their end say something. -/
private theorem exists_says_of_readArguments {draft draft' : Draft} {words : List String}
    (h : readArguments draft words = .ok (some draft')) : ∃ parts, Says words parts := by
  -- one case per branch of the reader; those that refuse the words or ask for help end here
  fun_induction readArguments draft words with
  | case1 => exact ⟨_, .nil⟩
  | case2 draft text rest hform =>
    rw [Argument.ofText_eq_separator_iff.mp hform]
    exact ⟨_, .dashes rest⟩
  | case3 draft text rest hform ih =>
    obtain ⟨next, -, h⟩ := bind_eq_ok_iff.mp h
    obtain ⟨parts, hsays⟩ := ih next h
    exact ⟨_, .query (Argument.ofText_eq_plain_iff.mp hform) hsays⟩
  | case4 => cases h
  | case5 => cases h
  | case6 draft text name setting hfind value rest hform ih =>
    obtain ⟨next, -, h⟩ := bind_eq_ok_iff.mp h
    obtain ⟨parts, hsays⟩ := ih next h
    have hname : setting.name = name := by simpa using List.find?_some hfind
    rw [Argument.eq_written_of_ofText hform, ← hname]
    exact ⟨_, .joined setting value hsays⟩
  | case7 => cases h
  | case8 draft text name setting hfind value rest hplain hform ih =>
    obtain ⟨next, -, h⟩ := bind_eq_ok_iff.mp h
    obtain ⟨parts, hsays⟩ := ih next h
    have hname : setting.name = name := by simpa using List.find?_some hfind
    rw [Argument.eq_written_of_ofText hform, ← hname]
    exact ⟨_, .apart setting (Argument.ofText_eq_plain_iff.mp hplain) hsays⟩
  | case9 => cases h
  | case10 => cases h
  | case11 draft text rest name value hform flag hfind _ hnone ih =>
    obtain ⟨next, -, h⟩ := bind_eq_ok_iff.mp h
    obtain ⟨parts, hsays⟩ := ih next h
    have hvalue : value = none := by simpa using hnone
    have hname : flag.name = name := by simpa using List.find?_some hfind
    rw [Argument.eq_written_of_ofText hform, hvalue, ← hname]
    exact ⟨_, .flag flag hsays⟩
  | case12 => cases h
  | case13 => cases h
  | case14 => cases h

/-- The words of a call are read exactly if they say something that can be taken up. -/
private theorem readArguments_eq_some_iff {draft draft' : Draft} {words : List String} :
    readArguments draft words = .ok (some draft') ↔
      ∃ parts, Says words parts ∧ parts.foldlM Draft.add draft = .ok draft' := by
  constructor
  · intro h
    obtain ⟨parts, hsays⟩ := exists_says_of_readArguments h
    rw [readArguments_eq hsays] at h
    obtain ⟨last, hlast, h⟩ := bind_eq_ok_iff.mp h
    cases h
    exact ⟨parts, hsays, hlast⟩
  · rintro ⟨parts, hsays, h⟩
    rw [readArguments_eq hsays, h]
    rfl

/-! ## What is taken up -/

namespace Draft

/-- Whether a flag is raised. -/
def raised (draft : Draft) : Flag → Bool
  | .stdin => draft.stdin
  | .pretty => draft.pretty

/-- A draft with one part more. -/
def plus (draft : Draft) : Part → Draft
  | .setting .rules value => { draft with rules := some value }
  | .setting .vault value => { draft with vault := some value }
  | .flag .stdin => { draft with stdin := true }
  | .flag .pretty => { draft with pretty := true }
  | .query text => { draft with query := some text }

/-- A part for which there is room: it is not there yet, and is no empty value. -/
def Fits (draft : Draft) : Part → Prop
  | .setting setting value => value ≠ "" ∧ draft.value? setting = none
  | .flag flag => draft.raised flag = false
  | .query _ => draft.query = none

/-- A part is taken up exactly if there is room for it. -/
private theorem add_eq_ok_iff {draft draft' : Draft} {part : Part} :
    draft.add part = .ok draft' ↔ draft.Fits part ∧ draft' = draft.plus part := by
  cases part with
  | setting setting value =>
    rw [add, Fits, ← Option.not_isSome_iff_eq_none, Ne, ← String.isEmpty_iff]
    unfold assign
    -- in the order in which the command asks: empty, given before, new
    by_cases hempty : value.isEmpty = true
    · simp [hempty]
    · by_cases hsome : (draft.value? setting).isSome = true
      · simp [hempty, hsome]
      · cases setting <;> simp [hempty, hsome, plus, eq_comm]
  | flag flag =>
    rw [add, Fits]
    cases flag with
    | stdin => cases h : draft.stdin <;> simp [raise, raised, plus, h, eq_comm]
    | pretty => cases h : draft.pretty <;> simp [raise, raised, plus, h, eq_comm]
  | query text =>
    rw [add, place, Fits, ← Option.not_isSome_iff_eq_none]
    by_cases hsome : draft.query.isSome = true
    · simp [hsome]
    · simp [hsome, plus, eq_comm]

/-- A truth value is told by its number. -/
private theorem toNat_injective : ∀ {a b : Bool}, a.toNat = b.toNat → a = b := by
  decide

/-- A draft has taken up some parts since it was another one: each value, flag and query once, and
    no value that is empty. -/
structure Takes (draft : Draft) (parts : List Part) (draft' : Draft) : Prop where
  value : ∀ setting, (draft'.value? setting).toList =
    (draft.value? setting).toList ++ parts.filterMap (Part.value? setting)
  flag : ∀ flag, (draft'.raised flag).toNat = (draft.raised flag).toNat + parts.count (.flag flag)
  query : draft'.query.toList = draft.query.toList ++ parts.filterMap Part.query?
  ne_empty : ∀ setting value, .setting setting value ∈ parts → value ≠ ""

/-- A part for which there is room can be taken up. -/
private theorem takes_plus {draft : Draft} {part : Part} (h : draft.Fits part) :
    draft.Takes [part] (draft.plus part) := by
  cases part with
  | setting setting value =>
    obtain ⟨hempty, hnone⟩ := h
    -- only the setting itself changes; an equal one had no value before
    refine ⟨fun setting' => ?_, fun flag => ?_, ?_, ?_⟩
    · cases setting <;> cases setting' <;> simp_all [value?, Part.value?, plus]
    · cases setting <;> cases flag <;> simp [raised, plus]
    · cases setting <;> simp [Part.query?, plus]
    · simpa using hempty
  | flag flag =>
    refine ⟨fun setting => ?_, fun flag' => ?_, ?_, ?_⟩
    · cases setting <;> cases flag <;> simp [value?, Part.value?, plus]
    · cases flag <;> cases flag' <;> simp_all [raised, plus, Fits]
    · cases flag <;> simp [Part.query?, plus]
    · simp
  | query text =>
    refine ⟨fun setting => ?_, fun flag => ?_, ?_, ?_⟩
    · cases setting <;> simp [value?, Part.value?, plus]
    · cases flag <;> simp [raised, plus]
    · rw [show draft.query = none from h]
      rfl
    · simp

/-- There is room for what is taken up. -/
private theorem fits_of_takes {draft draft' : Draft} {part : Part} {parts : List Part}
    (h : draft.Takes (part :: parts) draft') : draft.Fits part := by
  cases part with
  | setting setting value =>
    refine ⟨h.ne_empty setting value List.mem_cons_self, ?_⟩
    have hvalue := congrArg List.length (h.value setting)
    -- an old value and the new one would make two
    cases hold : draft.value? setting with
    | none => rfl
    | some old =>
      cases hnew : draft'.value? setting <;> simp [hold, hnew, Part.value?] at hvalue
  | flag flag =>
    have hflag := h.flag flag
    rw [List.count_cons_self] at hflag
    have hle := Bool.toNat_le (draft'.raised flag)
    have hzero : (draft.raised flag).toNat = 0 := by omega
    exact Bool.toNat_eq_zero.mp hzero
  | query text =>
    have hquery := congrArg List.length h.query
    show draft.query = none
    cases hold : draft.query with
    | none => rfl
    | some old => cases hnew : draft'.query <;> simp [hold, hnew, Part.query?] at hquery

/-- Without parts nothing changes. -/
private theorem takes_nil_iff {draft draft' : Draft} : draft.Takes [] draft' ↔ draft = draft' := by
  constructor
  · rintro ⟨hvalue, hflag, hquery, -⟩
    -- what is in the draft and what is in the list of parts agree, entry by entry
    have hrules : draft'.rules = draft.rules := by
      simpa [value?] using congrArg List.head? (hvalue .rules)
    have hvault : draft'.vault = draft.vault := by
      simpa [value?] using congrArg List.head? (hvalue .vault)
    have hquery : draft'.query = draft.query := by simpa using congrArg List.head? hquery
    have hstdin : draft'.stdin = draft.stdin := toNat_injective (hflag .stdin)
    have hpretty : draft'.pretty = draft.pretty := toNat_injective (hflag .pretty)
    cases draft
    cases draft'
    simp_all
  · rintro rfl
    exact ⟨by simp, by simp, by simp, by simp⟩

/-- Behind what is taken up first, the rest is taken up. -/
private theorem takes_cons_iff {draft next draft' : Draft} {part : Part} {parts : List Part}
    (h : draft.Takes [part] next) :
    draft.Takes (part :: parts) draft' ↔ next.Takes parts draft' := by
  -- each count of the whole is the one of the part and of the rest
  have hparts : part :: parts = [part] ++ parts := rfl
  have hvalue : ∀ setting, (draft.value? setting).toList ++
      (part :: parts).filterMap (Part.value? setting) =
        (next.value? setting).toList ++ parts.filterMap (Part.value? setting) := fun setting => by
    rw [h.value, hparts, List.filterMap_append, List.append_assoc]
  have hflag : ∀ flag, (draft.raised flag).toNat + (part :: parts).count (.flag flag) =
      (next.raised flag).toNat + parts.count (.flag flag) := fun flag => by
    rw [h.flag, hparts, List.count_append, Nat.add_assoc]
  have hquery : draft.query.toList ++ (part :: parts).filterMap Part.query? =
      next.query.toList ++ parts.filterMap Part.query? := by
    rw [h.query, hparts, List.filterMap_append, List.append_assoc]
  have hempty : (∀ setting value, .setting setting value ∈ part :: parts → value ≠ "") ↔
      ∀ setting value, .setting setting value ∈ parts → value ≠ "" :=
    ⟨fun hall setting value hmem => hall setting value (List.mem_cons_of_mem _ hmem),
      fun hall setting value hmem => (List.mem_append.mp (hparts ▸ hmem)).elim
        (h.ne_empty setting value) (hall setting value)⟩
  constructor
  · intro htakes
    exact ⟨fun setting => (htakes.value setting).trans (hvalue setting),
      fun flag => (htakes.flag flag).trans (hflag flag), htakes.query.trans hquery,
      hempty.mp htakes.ne_empty⟩
  · intro htakes
    exact ⟨fun setting => (htakes.value setting).trans (hvalue setting).symm,
      fun flag => (htakes.flag flag).trans (hflag flag).symm, htakes.query.trans hquery.symm,
      hempty.mpr htakes.ne_empty⟩

/-- Parts are taken up one by one just if they are taken up together. -/
private theorem foldlM_add_eq_ok_iff {draft draft' : Draft} {parts : List Part} :
    parts.foldlM add draft = .ok draft' ↔ draft.Takes parts draft' := by
  -- on the parts: the first one is taken up if there is room, and the rest behind it
  induction parts generalizing draft with
  | nil =>
    rw [takes_nil_iff, List.foldlM_nil]
    exact ⟨Except.ok.inj, congrArg _⟩
  | cons part parts ih =>
    rw [List.foldlM_cons, bind_eq_ok_iff]
    simp only [add_eq_ok_iff, ih]
    constructor
    · rintro ⟨next, ⟨hfits, rfl⟩, h⟩
      exact (takes_cons_iff (takes_plus hfits)).mpr h
    · intro h
      have hfits := fits_of_takes h
      exact ⟨_, ⟨hfits, rfl⟩, (takes_cons_iff (takes_plus hfits)).mp h⟩

end Draft

/-! ## Calls -/

/-- The value of a setting, by those that the words give and the one that the environment gives. -/
inductive Settles (given : Option String) : List String → Option Path → Prop
  | word {value : String} (h : value ≠ "") : Settles given [value] (some ⟨value⟩)
  | environment {value : String} (hgiven : given = some value) (h : value ≠ "") :
      Settles given [] (some ⟨value⟩)
  | none (hgiven : given = none) : Settles given [] none

/-- The arguments that some parts give: a value for each setting, each flag at most once, and one
    query. -/
structure Gives (environment : String → Option String) (parts : List Part)
    (arguments : Arguments) : Prop where
  rules : Settles (environment Setting.rules.environmentName)
    (parts.filterMap (Part.value? .rules)) arguments.rules
  vault : Settles (environment Setting.vault.environmentName)
    (parts.filterMap (Part.value? .vault)) arguments.vault
  stdin : parts.count (.flag .stdin) = arguments.stdin.toNat
  pretty : parts.count (.flag .pretty) = arguments.pretty.toNat
  query : parts.filterMap Part.query? = [arguments.query]

/-- A well-formed call, and what it asks for. -/
def IsCall (environment : String → Option String) (words : List String) (arguments : Arguments) :
    Prop :=
  ∃ parts, Says words parts ∧ Gives environment parts arguments

/-- A setting is settled by the word for it, or else by the environment. -/
private theorem settle_eq_ok_iff {environment : String → Option String} {draft : Draft}
    {setting : Setting} {path? : Option Path} :
    settle environment draft setting = .ok path? ↔
      Settles (environment setting.environmentName) (draft.value? setting).toList path? := by
  unfold settle
  cases draft.value? setting with
  -- a word hides the environment
  | some value =>
    dsimp only [Option.some_or, Option.toList_some]
    constructor
    · intro h
      split at h
      · cases h
      · rename_i hempty
        cases h
        exact .word fun heq => hempty (String.isEmpty_iff.mpr heq)
    · rintro ⟨h⟩
      rw [if_neg (mt String.isEmpty_iff.mp h)]
  | none =>
    dsimp only [Option.none_or, Option.toList_none]
    constructor
    · intro h
      split at h
      · rename_i hgiven
        cases h
        exact .none hgiven
      · rename_i value hgiven
        split at h
        · cases h
        · rename_i hempty
          cases h
          exact .environment hgiven fun heq => hempty (String.isEmpty_iff.mpr heq)
    · intro h
      cases h with
      | environment hgiven h =>
        rw [hgiven]
        dsimp only
        rw [if_neg (mt String.isEmpty_iff.mp h)]
      | none hgiven => rw [hgiven]

section

variable {environment : String → Option String} {parts : List Part} {arguments : Arguments}

/-- A setting has at most one value. -/
private theorem toList_head?_of_settles {given : Option String} {values : List String}
    {path? : Option Path} (h : Settles given values path?) : values.head?.toList = values := by
  cases h <;> rfl

/-- The value of a setting is not empty. -/
private theorem ne_empty_of_settles {given : Option String} {values : List String} {value : String}
    {path? : Option Path} (h : Settles given values path?) (hmem : value ∈ values) :
    value ≠ "" := by
  cases h with
  | word h =>
    rw [List.mem_singleton.mp hmem]
    exact h
  | environment => cases hmem
  | none => cases hmem

/-- Parts that give arguments can be taken up. -/
private theorem exists_takes_of_gives (h : Gives environment parts arguments) :
    ∃ draft, Draft.Takes {} parts draft := by
  have hempty : ∀ setting value, .setting setting value ∈ parts → value ≠ "" := by
    intro setting value hmem
    have hvalue : value ∈ parts.filterMap (Part.value? setting) :=
      List.mem_filterMap.mpr ⟨_, hmem, if_pos rfl⟩
    cases setting with
    | rules => exact ne_empty_of_settles h.rules hvalue
    | vault => exact ne_empty_of_settles h.vault hvalue
  -- the draft with all that the parts say
  refine ⟨{ rules := (parts.filterMap (Part.value? .rules)).head?
            vault := (parts.filterMap (Part.value? .vault)).head?
            stdin := arguments.stdin, pretty := arguments.pretty, query := some arguments.query },
    fun setting => ?_, fun flag => ?_, h.query.symm, hempty⟩
  · cases setting with
    | rules => exact toList_head?_of_settles h.rules
    | vault => exact toList_head?_of_settles h.vault
  · cases flag with
    | stdin => simp [Draft.raised, h.stdin]
    | pretty => simp [Draft.raised, h.pretty]

/-- The arguments of a draft, once all parts are taken up. -/
private theorem gives_iff_of_takes {draft : Draft} (h : Draft.Takes {} parts draft) :
    Gives environment parts arguments ↔
      settle environment draft .rules = .ok arguments.rules ∧
        settle environment draft .vault = .ok arguments.vault ∧
        draft.query = some arguments.query ∧ draft.stdin = arguments.stdin ∧
        draft.pretty = arguments.pretty := by
  have hvalue : ∀ setting, (draft.value? setting).toList =
      parts.filterMap (Part.value? setting) := fun setting => by
    rw [h.value]
    cases setting <;> rfl
  have hflag : ∀ flag, parts.count (.flag flag) = (draft.raised flag).toNat := fun flag => by
    rw [h.flag]
    cases flag <;> simp [Draft.raised]
  have hquery : draft.query.toList = parts.filterMap Part.query? := h.query
  -- all five are read off the same counts
  rw [settle_eq_ok_iff, settle_eq_ok_iff, hvalue, hvalue]
  constructor
  · intro hgives
    refine ⟨hgives.rules, hgives.vault, ?_, ?_, ?_⟩
    · rw [hgives.query] at hquery
      simpa using congrArg List.head? hquery
    · exact Draft.toNat_injective ((hflag .stdin).symm.trans hgives.stdin)
    · exact Draft.toNat_injective ((hflag .pretty).symm.trans hgives.pretty)
  · rintro ⟨hrules, hvault, hsome, hstdin, hpretty⟩
    refine ⟨hrules, hvault, ?_, ?_, ?_⟩
    · rw [hflag, ← hstdin]
      rfl
    · rw [hflag, ← hpretty]
      rfl
    · rw [← hquery, hsome]
      rfl

end

/-- The calls that are answered are the well-formed ones. -/
theorem parse_eq_search_iff {environment : String → Option String} {words : List String}
    {arguments : Arguments} :
    parse environment words = .ok (.search arguments) ↔ IsCall environment words arguments := by
  -- the words are read to a draft, and then the settings and the query are looked up in it
  unfold parse
  rw [bind_eq_ok_iff]
  constructor
  · rintro ⟨draft?, hread, h⟩
    cases draft? with
    | none => cases h
    | some draft =>
      obtain ⟨parts, hsays, hfold⟩ := readArguments_eq_some_iff.mp hread
      refine ⟨parts, hsays, (gives_iff_of_takes (Draft.foldlM_add_eq_ok_iff.mp hfold)).mpr ?_⟩
      obtain ⟨rules, hrules, h⟩ := bind_eq_ok_iff.mp h
      obtain ⟨vault, hvault, h⟩ := bind_eq_ok_iff.mp h
      cases hquery : draft.query with
      | none =>
        rw [hquery] at h
        cases h
      | some query =>
        rw [hquery] at h
        cases h
        exact ⟨hrules, hvault, rfl, rfl, rfl⟩
  · rintro ⟨parts, hsays, hgives⟩
    obtain ⟨draft, htakes⟩ := exists_takes_of_gives hgives
    obtain ⟨hrules, hvault, hquery, hstdin, hpretty⟩ := (gives_iff_of_takes htakes).mp hgives
    refine ⟨some draft, readArguments_eq_some_iff.mpr
      ⟨parts, hsays, Draft.foldlM_add_eq_ok_iff.mpr htakes⟩, ?_⟩
    refine bind_eq_ok_iff.mpr ⟨_, hrules, bind_eq_ok_iff.mpr ⟨_, hvault, ?_⟩⟩
    rw [hquery, hstdin, hpretty]
    rfl

end Sift.Command

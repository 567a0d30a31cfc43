import Mathlib.Data.List.Forall2
import Sift.RuleFile

/-!
# What a rule file is

A rule file is blank, or it is a YAML document whose root is a mapping.  Its keys are among `anyOf`,
`isString` and `isDate`, and none comes twice; each stands before a sequence of scalars, or before
nothing.  `parse?_eq_some_iff` shows that these texts and no others are read, and what rule each of
them writes.
-/

namespace Sift.RuleFile

open Yaml (Document Node Properties)

/-- A list of fields that a rule file may give. -/
inductive Key where
  | anyOf
  | isString
  | isDate
  deriving DecidableEq

/-- The name of a list in a rule file. -/
def Key.text : Key → String
  | .anyOf => "anyOf"
  | .isString => "isString"
  | .isDate => "isDate"

/-- The list of a rule. -/
def Key.ofRule (rule : Rule) : Key → List String
  | .anyOf => rule.anyOf
  | .isString => rule.isString
  | .isDate => rule.isDate

/-- A rule has nothing but its lists. -/
private theorem Key.ext_ofRule {rule rule' : Rule} (h : ∀ key, ofRule rule key = ofRule rule' key) :
    rule = rule' := by
  obtain ⟨anyOf, isString, isDate⟩ := rule
  obtain ⟨anyOf', isString', isDate'⟩ := rule'
  have hanyOf : anyOf = anyOf' := h .anyOf
  have hisString : isString = isString' := h .isString
  have hisDate : isDate = isDate' := h .isDate
  rw [hanyOf, hisString, hisDate]

/-! ## Nodes -/

/-- A node that is a scalar, or an alias of one, with a text. -/
def IsText (document : Document) (node : Node) (text : String) : Prop :=
  ∃ properties plain isAlias,
    document.follow? node = some (.scalar properties text plain, isAlias)

/-- A node that lists names. -/
inductive Lists (document : Document) (node : Node) : List String → Prop
  | sequence {properties : Properties} {items : List Node} {isAlias : Bool} {names : List String}
      (h : document.follow? node = some (.sequence properties items, isAlias))
      (hitems : List.Forall₂ (IsText document) items names) : Lists document node names
  /-- Where nothing is written, there are no names. -/
  | nothing (h : IsText document node "") : Lists document node []

/-- An entry of a mapping that gives the names of a list. -/
def IsEntry (document : Document) (entry : Node × Node) (given : Key × List String) : Prop :=
  IsText document entry.1 given.1.text ∧ Lists document entry.2 given.2

section

variable {document : Document} {node : Node}

/-- A node has the text that is taken from it. -/
theorem text?_eq_some_iff {text : String} :
    text? document node = some text ↔ IsText document node text := by
  unfold text? IsText
  split
  · rename_i properties text' plain isAlias heq
    rw [heq]
    constructor
    · rintro ⟨⟩
      exact ⟨_, _, _, rfl⟩
    · rintro ⟨_, _, _, ⟨⟩⟩
      rfl
  · rename_i hscalar
    constructor
    · rintro ⟨⟩
    · rintro ⟨properties, plain, isAlias, heq⟩
      exact absurd heq (hscalar _ _ _ _)

/-- Each item of a sequence has its text. -/
private theorem mapM_text?_eq_some_iff {items : List Node} {names : List String} :
    items.mapM (text? document) = some names ↔ List.Forall₂ (IsText document) items names := by
  -- on the items, since each of them is read by itself
  induction items generalizing names with
  | nil => cases names <;> simp
  | cons item items ih =>
    rw [List.mapM_cons]
    constructor
    · intro h
      obtain ⟨text, htext, h⟩ := Option.bind_eq_some_iff.mp h
      obtain ⟨texts, htexts, h⟩ := Option.bind_eq_some_iff.mp h
      cases h
      exact .cons (text?_eq_some_iff.mp htext) (ih.mp htexts)
    · rintro (- | ⟨htext, htexts⟩)
      exact Option.bind_eq_some_iff.mpr ⟨_, text?_eq_some_iff.mpr htext,
        Option.bind_eq_some_iff.mpr ⟨_, ih.mpr htexts, rfl⟩⟩

/-- The names that are taken from a node are those that it lists. -/
private theorem names?_eq_some_iff {names : List String} :
    names? document node = some names ↔ Lists document node names := by
  unfold names?
  constructor
  · intro h
    split at h
    · rename_i heq
      exact .sequence heq (mapM_text?_eq_some_iff.mp h)
    -- a scalar is a list only where nothing is written
    · rename_i text _ _ heq
      split at h
      · rename_i hempty
        cases h
        rw [String.isEmpty_iff.mp hempty] at heq
        exact .nothing ⟨_, _, _, heq⟩
      · cases h
    · cases h
  · intro h
    cases h with
    | sequence h hitems =>
      rw [h]
      exact mapM_text?_eq_some_iff.mpr hitems
    | nothing h =>
      obtain ⟨properties, plain, isAlias, h⟩ := h
      rw [h]
      rfl

end

/-! ## Entries -/

namespace Draft

/-- The list that is given under a key. -/
def list? (draft : Draft) : Key → Option (List String)
  | .anyOf => draft.anyOf
  | .isString => draft.isString
  | .isDate => draft.isDate

/-- A draft with one list more. -/
def set (draft : Draft) (names : List String) : Key → Draft
  | .anyOf => { draft with anyOf := some names }
  | .isString => { draft with isString := some names }
  | .isDate => { draft with isDate := some names }

/-- Setting a list changes no other. -/
private theorem list?_set (draft : Draft) (names : List String) (key key' : Key) :
    (draft.set names key).list? key' = if key' = key then some names else draft.list? key' := by
  cases key <;> cases key' <;> rfl

/-- A draft has nothing but its lists. -/
private theorem ext_list? {draft draft' : Draft} (h : ∀ key, draft'.list? key = draft.list? key) :
    draft' = draft := by
  obtain ⟨anyOf, isString, isDate⟩ := draft
  obtain ⟨anyOf', isString', isDate'⟩ := draft'
  have hanyOf : anyOf' = anyOf := h .anyOf
  have hisString : isString' = isString := h .isString
  have hisDate : isDate' = isDate := h .isDate
  rw [hanyOf, hisString, hisDate]

/-- A list that is not given is empty in the rule. -/
private theorem ofRule_rule (draft : Draft) (key : Key) :
    key.ofRule draft.rule = (draft.list? key).getD [] := by
  cases key <;> rfl

end Draft

section

variable {document : Document}

/-- A list is taken up if there is none of its kind yet. -/
private theorem addOnce_eq_some_iff {old names? : Option (List String)}
    {update : List String → Draft} {draft : Draft} :
    (if old.isSome then none else names?.bind fun names => some (update names)) = some draft ↔
      old = none ∧ ∃ names, names? = some names ∧ draft = update names := by
  cases old with
  | none => simp [Option.bind_eq_some_iff, @eq_comm _ draft]
  | some list => simp

/-- An entry is taken up if it gives a list that is not there yet. -/
private theorem addList?_eq_some_iff {draft draft' : Draft} {entry : Node × Node} :
    addList? document draft entry = some draft' ↔
      ∃ key names, IsEntry document entry (key, names) ∧ draft.list? key = none ∧
        draft' = draft.set names key := by
  unfold addList?
  constructor
  · intro h
    obtain ⟨text, htext, h⟩ := Option.bind_eq_some_iff.mp h
    have hkey := text?_eq_some_iff.mp htext
    -- one branch per name of a list, and one for all other names
    split at h
    · obtain ⟨hnone, names, hnames, rfl⟩ := addOnce_eq_some_iff.mp h
      exact ⟨.anyOf, names, ⟨hkey, names?_eq_some_iff.mp hnames⟩, hnone, rfl⟩
    · obtain ⟨hnone, names, hnames, rfl⟩ := addOnce_eq_some_iff.mp h
      exact ⟨.isString, names, ⟨hkey, names?_eq_some_iff.mp hnames⟩, hnone, rfl⟩
    · obtain ⟨hnone, names, hnames, rfl⟩ := addOnce_eq_some_iff.mp h
      exact ⟨.isDate, names, ⟨hkey, names?_eq_some_iff.mp hnames⟩, hnone, rfl⟩
    · cases h
  · rintro ⟨key, names, ⟨hkey, hnames⟩, hnone, rfl⟩
    have hnames := names?_eq_some_iff.mpr hnames
    refine Option.bind_eq_some_iff.mpr ⟨key.text, text?_eq_some_iff.mpr hkey, ?_⟩
    cases key with
    | anyOf => exact addOnce_eq_some_iff.mpr ⟨hnone, names, hnames, rfl⟩
    | isString => exact addOnce_eq_some_iff.mpr ⟨hnone, names, hnames, rfl⟩
    | isDate => exact addOnce_eq_some_iff.mpr ⟨hnone, names, hnames, rfl⟩

/-- The lists that are there once some more are given: the given ones and those of before. -/
structure Draft.Gains (draft : Draft) (given : List (Key × List String)) (draft' : Draft) :
    Prop where
  nodup : (given.map (·.1)).Nodup
  fresh : ∀ key ∈ given.map (·.1), draft.list? key = none
  list?_eq : ∀ key, draft'.list? key = (given.lookup key).or (draft.list? key)

/-- Nothing is gained from nothing. -/
private theorem Draft.gains_nil_iff {draft draft' : Draft} :
    draft.Gains [] draft' ↔ draft' = draft := by
  constructor
  · intro h
    exact ext_list? h.list?_eq
  · rintro rfl
    exact ⟨List.nodup_nil, nofun, fun key => rfl⟩

/-- One list of some is given first or with the others. -/
private theorem or_lookup_cons {draft : Draft} {key : Key} {names : List String}
    {given : List (Key × List String)} (hnew : key ∉ given.map (·.1)) (key' : Key) :
    (((key, names) :: given).lookup key').or (draft.list? key') =
      (given.lookup key').or ((draft.set names key).list? key') := by
  rw [Draft.list?_set, List.lookup_cons]
  by_cases heq : key' = key
  · subst heq
    -- the list was not given yet, so it is the one of the draft
    have hnone : given.lookup key' = none := by
      rw [List.lookup_eq_none_iff]
      intro entry hmem
      rw [bne_iff_ne]
      rintro rfl
      exact hnew (List.mem_map_of_mem hmem)
    rw [beq_self_eq_true, if_pos rfl, hnone]
    rfl
  · rw [beq_eq_false_iff_ne.mpr heq, if_neg heq]

/-- The first of the given lists is set, and the others are gained behind it. -/
private theorem Draft.gains_cons_iff {draft draft' : Draft} {key : Key} {names : List String}
    {given : List (Key × List String)} :
    draft.Gains ((key, names) :: given) draft' ↔
      draft.list? key = none ∧ (draft.set names key).Gains given draft' := by
  constructor
  · rintro ⟨hnodup, hfresh, hlist⟩
    obtain ⟨hnew, hnodup⟩ := List.nodup_cons.mp hnodup
    -- none of the others is given under this key, so setting it is in nobody's way
    refine ⟨hfresh key List.mem_cons_self, hnodup, fun key' hmem => ?_, fun key' => ?_⟩
    · have hne : key' ≠ key := fun heq => hnew (heq ▸ hmem)
      rw [list?_set, if_neg hne]
      exact hfresh key' (List.mem_cons_of_mem _ hmem)
    · rw [hlist, or_lookup_cons hnew]
  · rintro ⟨hnone, hnodup, hfresh, hlist⟩
    have hnew : key ∉ given.map (·.1) := by
      intro hmem
      have hset := hfresh key hmem
      rw [list?_set, if_pos rfl] at hset
      cases hset
    refine ⟨List.nodup_cons.mpr ⟨hnew, hnodup⟩, fun key' hmem => ?_, fun key' => ?_⟩
    · cases List.mem_cons.mp hmem with
      | inl heq =>
        rw [heq]
        exact hnone
      | inr hmem =>
        have hne : key' ≠ key := fun heq => hnew (heq ▸ hmem)
        rw [← hfresh key' hmem, list?_set, if_neg hne]
    · rw [hlist, or_lookup_cons hnew]

/-- The entries are taken up if each gives a list, no two the same one and none that is there. -/
private theorem foldlM_addList?_eq_some_iff {draft draft' : Draft} {entries : List (Node × Node)} :
    entries.foldlM (addList? document) draft = some draft' ↔
      ∃ given, List.Forall₂ (IsEntry document) entries given ∧ draft.Gains given draft' := by
  -- on the entries, each of which gives one list
  induction entries generalizing draft with
  | nil =>
    simp only [List.foldlM_nil, List.forall₂_nil_left_iff, exists_eq_left, Draft.gains_nil_iff]
    exact ⟨fun h => (Option.some.inj h).symm, fun h => congrArg some h.symm⟩
  | cons entry entries ih =>
    rw [List.foldlM_cons, Option.bind_eq_bind, Option.bind_eq_some_iff]
    simp only [addList?_eq_some_iff, ih]
    constructor
    · rintro ⟨_, ⟨key, names, hentry, hnone, rfl⟩, given, hentries, hgains⟩
      exact ⟨(key, names) :: given, .cons hentry hentries,
        Draft.gains_cons_iff.mpr ⟨hnone, hgains⟩⟩
    · rintro ⟨_, hentries, hgains⟩
      obtain ⟨⟨key, names⟩, given, hentry, hrest, rfl⟩ := List.forall₂_cons_left_iff.mp hentries
      obtain ⟨hnone, hgains⟩ := Draft.gains_cons_iff.mp hgains
      exact ⟨_, ⟨key, names, hentry, hnone, rfl⟩, given, hrest, hgains⟩

end

/-! ## Rule files -/

/-- A document writes a rule. -/
inductive WritesRule (document : Document) : Rule → Prop
  /-- Each list of the rule is the one that is given under its name, or else empty. -/
  | mapping {properties : Properties} {entries : List (Node × Node)}
      {given : List (Key × List String)} {rule : Rule}
      (h : document.root = .mapping properties entries)
      (hentries : List.Forall₂ (IsEntry document) entries given)
      (hnodup : (given.map (·.1)).Nodup)
      (hrule : ∀ key : Key, key.ofRule rule = (given.lookup key).getD []) :
      WritesRule document rule
  | nothing {properties : Properties} {plain : Bool}
      (h : document.root = .scalar properties "" plain) : WritesRule document {}

/-- A text is a rule file with a rule. -/
inductive IsRuleFile (text : String) : Rule → Prop
  | blank (h : text.toList.all Unicode.isWhiteSpace = true) : IsRuleFile text {}
  /-- There is no document in the text. -/
  | nothing (h : Document.read? text = some none) : IsRuleFile text {}
  | document {document : Document} {rule : Rule}
      (hblank : ¬ text.toList.all Unicode.isWhiteSpace = true)
      (h : Document.read? text = some (some document)) (hrule : WritesRule document rule) :
      IsRuleFile text rule

/-- The rule of a document is the one that it writes. -/
private theorem ofDocument?_eq_some_iff {document : Document} {rule : Rule} :
    ofDocument? document = some rule ↔ WritesRule document rule := by
  unfold ofDocument?
  constructor
  · intro h
    split at h
    · rename_i heq
      obtain ⟨draft, hfold, rfl⟩ := Option.map_eq_some_iff.mp h
      obtain ⟨given, hentries, hgains⟩ := foldlM_addList?_eq_some_iff.mp hfold
      refine .mapping heq hentries hgains.nodup fun key => ?_
      rw [Draft.ofRule_rule, hgains.list?_eq]
      cases key <;> simp [Draft.list?]
    · rename_i heq
      split at h
      · rename_i hempty
        cases h
        rw [String.isEmpty_iff.mp hempty] at heq
        exact .nothing heq
      · cases h
    · cases h
  · intro h
    cases h with
    | mapping h hentries hnodup hrule =>
      rename_i entries given
      rw [h]
      -- the draft has the lists that are given
      refine Option.map_eq_some_iff.mpr
        ⟨⟨given.lookup .anyOf, given.lookup .isString, given.lookup .isDate⟩,
          foldlM_addList?_eq_some_iff.mpr ⟨given, hentries, hnodup, ?_, ?_⟩, ?_⟩
      · intro key _
        cases key <;> rfl
      · intro key
        cases key <;> simp [Draft.list?]
      · refine Key.ext_ofRule fun key => ?_
        rw [hrule]
        cases key <;> rfl
    | nothing h =>
      rw [h]
      rfl

/-- The texts that are read are the rule files. -/
theorem parse?_eq_some_iff {text : String} {rule : Rule} :
    parse? text = some rule ↔ IsRuleFile text rule := by
  unfold parse?
  constructor
  · intro h
    split at h
    · rename_i hblank
      cases h
      exact .blank hblank
    -- white space, then a document, then nothing at all
    · rename_i hblank
      split at h
      · rename_i document heq
        exact .document hblank heq (ofDocument?_eq_some_iff.mp h)
      · rename_i heq
        cases h
        exact .nothing heq
      · cases h
  · intro h
    cases h with
    | blank h => rw [if_pos h]
    | nothing h => rw [h, ite_self]
    | document hblank h hrule =>
      rw [if_neg hblank, h]
      exact ofDocument?_eq_some_iff.mpr hrule

end Sift.RuleFile

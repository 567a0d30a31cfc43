import Sift.Path

/-!
# The order of paths and their rests

Paths are ordered by their components, the first difference deciding; this order is total and
transitive (`Path.le_total`, `Path.le_trans`), and only paths with the same components stand before
each other (`Path.componentsLe_antisymm`).

If the components of a path begin with those of another one, the rest of the path has the remaining
components and stands in the path's text as it is written (`Path.exists_below?`).  The text is cut
at slashes, pieces without a component are dropped at both ends, and the pieces that are left are
joined again.

The path of an entry of a directory has the name of the entry behind the components of the directory
(`Path.components_join`), and the extension of a path is that of its last component.
-/

namespace Sift

/-! ## Order -/

namespace Component

/-- Components are ordered by their kinds, and names among themselves by their texts. -/
theorem lt_iff {a b : Component} :
    a.lt b = true ↔ a.rank < b.rank ∨ a.rank = b.rank ∧ a.label < b.label := by
  simp [lt]

/-- A component is told by its kind and its text. -/
private theorem eq_of_rank_label {a b : Component} (hrank : a.rank = b.rank)
    (hlabel : a.label = b.label) : a = b := by
  cases a <;> cases b <;> simp_all [rank, label]

/-- The order of components is transitive. -/
theorem lt_trans {a b c : Component} (hab : a.lt b = true) (hbc : b.lt c = true) :
    a.lt c = true := by
  rw [lt_iff] at *
  -- kinds are compared first; only among equal kinds do the texts count
  rcases hab with hab | ⟨hab, hlabel⟩
  · exact .inl (by omega)
  · rcases hbc with hbc | ⟨hbc, hlabel'⟩
    · exact .inl (by omega)
    · exact .inr ⟨by omega, String.lt_trans hlabel hlabel'⟩

/-- No component stands before itself. -/
theorem lt_irrefl (a : Component) : ¬ a.lt a = true := by
  rw [lt_iff]
  intro h
  cases h with
  | inl hrank => omega
  | inr hlabel => exact String.lt_irrefl _ hlabel.2

/-- Of two components one stands before the other, unless they are the same. -/
theorem lt_trichotomy (a b : Component) : a.lt b = true ∨ a = b ∨ b.lt a = true := by
  simp only [lt_iff]
  rcases Nat.lt_trichotomy a.rank b.rank with hrank | hrank | hrank
  · exact .inl (.inl hrank)
  -- of two names neither of which comes first, each is the other
  · by_cases hlabel : a.label < b.label
    · exact .inl (.inr ⟨hrank, hlabel⟩)
    · by_cases hlabel' : b.label < a.label
      · exact .inr (.inr (.inr ⟨hrank.symm, hlabel'⟩))
      · have heq := String.le_antisymm (String.not_lt.mp hlabel') (String.not_lt.mp hlabel)
        exact .inr (.inl (eq_of_rank_label hrank heq))
  · exact .inr (.inr (.inl hrank))

end Component

namespace Path

/-- The first components decide, unless they are the same. -/
private theorem componentsLe_cons {a b : Component} {as bs : List Component} :
    componentsLe (a :: as) (b :: bs) = true ↔
      a.lt b = true ∨ a = b ∧ componentsLe as bs = true := by
  simp [componentsLe]

/-- Of two lists of components one stands before the other. -/
private theorem componentsLe_total (as bs : List Component) :
    componentsLe as bs = true ∨ componentsLe bs as = true := by
  induction as generalizing bs with
  | nil => exact .inl rfl
  | cons a as ih =>
    cases bs with
    | nil => exact .inr rfl
    | cons b bs =>
      simp only [componentsLe_cons]
      rcases Component.lt_trichotomy a b with h | rfl | h
      · exact .inl (.inl h)
      · exact (ih bs).imp (fun h => .inr ⟨rfl, h⟩) (fun h => .inr ⟨rfl, h⟩)
      · exact .inr (.inl h)

/-- The order of lists of components is transitive. -/
private theorem componentsLe_trans {as bs cs : List Component} (hab : componentsLe as bs = true)
    (hbc : componentsLe bs cs = true) : componentsLe as cs = true := by
  induction as generalizing bs cs with
  | nil => rfl
  | cons a as ih =>
    cases bs with
    | nil => cases hab
    | cons b bs =>
      cases cs with
      | nil => cases hbc
      | cons c cs =>
        rw [componentsLe_cons] at *
        -- the first of the two differences decides
        rcases hab with hab | ⟨rfl, hab⟩
        · rcases hbc with hbc | ⟨rfl, -⟩
          · exact .inl (Component.lt_trans hab hbc)
          · exact .inl hab
        · exact hbc.imp id fun ⟨heq, hbc⟩ => ⟨heq, ih hab hbc⟩

/-- Only lists that are the same stand before each other. -/
theorem componentsLe_antisymm {as bs : List Component} (hab : componentsLe as bs = true)
    (hba : componentsLe bs as = true) : as = bs := by
  induction as generalizing bs with
  | nil =>
    cases bs with
    | nil => rfl
    | cons b bs => cases hba
  | cons a as ih =>
    cases bs with
    | nil => cases hab
    | cons b bs =>
      rw [componentsLe_cons] at hab hba
      cases hab with
      | inl hlt =>
        -- a first difference cannot go both ways
        cases hba with
        | inl hgt => exact absurd (Component.lt_trans hlt hgt) (Component.lt_irrefl a)
        | inr hba => exact absurd hlt (hba.1 ▸ Component.lt_irrefl a)
      | inr hab =>
        obtain ⟨rfl, hab⟩ := hab
        cases hba with
        | inl hlt => exact absurd hlt (Component.lt_irrefl a)
        | inr hba => rw [ih hab hba.2]

/-- Component by component, the first difference decides, or the shorter list comes first. -/
theorem lex_of_componentsLe {as bs : List Component} (h : componentsLe as bs = true)
    (hne : as ≠ bs) : List.Lex (fun a b => a.lt b = true) as bs := by
  induction as generalizing bs with
  | nil =>
    cases bs with
    | nil => exact absurd rfl hne
    | cons b bs => exact .nil
  | cons a as ih =>
    cases bs with
    | nil => cases h
    | cons b bs =>
      -- a difference in the first components decides at once, and otherwise the rest does
      cases componentsLe_cons.mp h with
      | inl hlt => exact .rel hlt
      | inr hrest =>
        obtain ⟨rfl, hle⟩ := hrest
        exact .cons (ih hle fun heq => hne (heq ▸ rfl))

/-- Of two paths one stands before the other. -/
theorem le_total (a b : Path) : (a.le b || b.le a) = true := by
  rw [Bool.or_eq_true]
  exact componentsLe_total a.components b.components

/-- The order of paths is transitive. -/
theorem le_trans (a b c : Path) (hab : a.le b = true) (hbc : b.le c = true) : a.le c = true :=
  componentsLe_trans hab hbc

/-! ## Pieces -/

/-- The separator at which a text is split is in none of the pieces. -/
private theorem not_mem_of_mem_splitOn {separator : Char} {cs piece : List Char}
    (h : piece ∈ cs.splitOn separator) : separator ∉ piece := by
  induction cs generalizing piece with
  | nil =>
    rw [List.mem_singleton.mp h]
    exact List.not_mem_nil
  | cons c cs ih =>
    rw [List.splitOn_cons_eq_if_modifyHead] at h
    cases hpieces : cs.splitOn separator with
    | nil => exact absurd hpieces (List.splitOn_ne_nil _ _)
    | cons first pieces =>
      rw [hpieces] at h ih
      split at h
      · -- the separator ends the piece before it
        rcases List.mem_cons.mp h with rfl | h
        · exact List.not_mem_nil
        · exact ih h
      · -- another character goes to the front of the first piece
        rename_i hc
        rcases List.mem_cons.mp h with rfl | h
        · rw [List.mem_cons]
          rintro (heq | hmem)
          · exact hc (beq_iff_eq.mpr heq.symm)
          · exact ih List.mem_cons_self hmem
        · exact ih (List.mem_cons_of_mem _ h)

/-- The pieces of a path are those of its text between slashes. -/
private theorem toList_pieces (path : Path) :
    path.pieces.map String.toList = path.text.toList.splitOn '/' := by
  rw [pieces, List.map_map]
  simp only [Function.comp_def, String.toList_ofList, List.map_id']

/-- A path is its pieces with slashes between them. -/
private theorem intercalate_pieces (path : Path) :
    ['/'].intercalate (path.pieces.map String.toList) = path.text.toList := by
  rw [toList_pieces]
  exact List.intercalate_splitOn '/'

/-- Even the empty path has a piece. -/
private theorem pieces_ne_nil (path : Path) : path.pieces ≠ [] := by
  rw [pieces]
  exact fun h => List.splitOn_ne_nil _ _ (List.map_eq_nil_iff.mp h)

/-- No piece has a slash in it. -/
private theorem not_mem_of_mem_pieces {path : Path} {piece : String} (h : piece ∈ path.pieces) :
    '/' ∉ piece.toList := by
  apply not_mem_of_mem_splitOn
  rw [← toList_pieces]
  exact List.mem_map_of_mem h

/-- Pieces without a slash are found again in the path that they are joined to. -/
theorem pieces_intercalate {pieces : List String} (hne : pieces ≠ [])
    (h : ∀ piece ∈ pieces, '/' ∉ piece.toList) :
    (Path.mk ("/".intercalate pieces)).pieces = pieces := by
  have hslash : ∀ piece ∈ pieces.map String.toList, '/' ∉ piece := by
    intro piece hmem
    obtain ⟨text, htext, rfl⟩ := List.mem_map.mp hmem
    exact h text htext
  have hsplit : ("/".intercalate pieces).toList.splitOn '/' = pieces.map String.toList := by
    rw [String.toList_intercalate]
    exact List.splitOn_intercalate '/' hslash (mt List.map_eq_nil_iff.mp hne)
  rw [Path.pieces, hsplit, List.map_map]
  simp only [Function.comp_def, String.ofList_toList, List.map_id']

/-! ## Parts -/

/-- A piece with its meaning inside a path. -/
def inside (piece : String) : String × Option Component := (piece, component? piece)

/-- Inside a path, only an empty piece and a dot mean nothing. -/
private theorem component?_ne_none {piece : String} (h : ¬ (piece = "" ∨ piece = ".")) :
    component? piece ≠ none := by
  rw [component?, if_neg h]
  split <;> exact Option.some_ne_none _

/-- All pieces but the first mean what they mean inside a path, and the first means something,
    unless the path is empty. -/
private theorem parts_eq (path : Path) :
    ∃ first rest, path.parts = first :: rest.map inside ∧ path.pieces = first.1 :: rest ∧
      (path.text ≠ "" → first.2 ≠ none) := by
  unfold parts
  -- the root and a leading dot are the pieces that mean something only at the head of a path
  split
  · rename_i next rest hpieces
    exact ⟨("", some .root), next :: rest, rfl, hpieces, fun _ => Option.some_ne_none _⟩
  · rename_i rest hpieces
    exact ⟨(".", some .here), rest, rfl, hpieces, fun _ => Option.some_ne_none _⟩
  · rename_i hroot hhere
    obtain ⟨piece, rest, hpieces⟩ := List.exists_cons_of_ne_nil path.pieces_ne_nil
    refine ⟨inside piece, rest, by rw [hpieces]; rfl, hpieces, fun htext => ?_⟩
    -- the two exceptions have their own meaning at the head of a path
    have hpiece : ¬ (piece = "" ∨ piece = ".") := by
      rintro (rfl | rfl)
      · cases rest with
        | nil =>
          have hnil := path.intercalate_pieces
          rw [hpieces] at hnil
          exact htext (String.toList_injective hnil.symm)
        | cons next rest => exact hroot next rest hpieces
      · exact hhere rest hpieces
    exact component?_ne_none hpiece

/-- Behind a piece that means something inside a path, a path has no root and no dot. -/
private theorem components_of_pieces {path : Path} {piece : String} {rest : List String}
    (h : path.pieces = piece :: rest) (hpiece : component? piece ≠ none) :
    path.components = ((piece :: rest).map inside).filterMap (·.2) := by
  have hne : piece ≠ "" ∧ piece ≠ "." := by
    constructor
    · rintro rfl
      exact hpiece rfl
    · rintro rfl
      exact hpiece rfl
  rw [components, parts, h]
  -- neither of the two pieces that count only at the head
  split
  · rename_i heq
    exact absurd (List.cons.inj heq).1 hne.1
  · rename_i heq
    exact absurd (List.cons.inj heq).1 hne.2
  · rfl

/-- A path that is not empty has a component. -/
private theorem components_ne_nil {path : Path} (h : path.text ≠ "") : path.components ≠ [] := by
  obtain ⟨first, rest, hparts, -, hfirst⟩ := path.parts_eq
  obtain ⟨component, hcomponent⟩ := Option.ne_none_iff_exists'.mp (hfirst h)
  rw [components, hparts, List.filterMap_cons, hcomponent]
  exact List.cons_ne_nil _ _

/-! ## Rests -/

section

variable {parts : List (String × Option Component)}

/-- As many components are dropped as are asked for. -/
private theorem filterMap_dropComponents (count : Nat) :
    (dropComponents count parts).filterMap (·.2) = (parts.filterMap (·.2)).drop count := by
  -- induction on the parts. One without a component is dropped without being counted
  induction parts generalizing count with
  | nil => cases count <;> simp [dropComponents]
  | cons part parts ih =>
    obtain ⟨piece, component⟩ := part
    cases count with
    | zero => rfl
    | succ count =>
      cases component with
      | none => simp [dropComponents, ih]
      | some component => simp [dropComponents, ih]

/-- What is left when components are dropped are the last parts. -/
private theorem dropComponents_suffix (count : Nat) : dropComponents count parts <:+ parts := by
  induction parts generalizing count with
  | nil => cases count <;> exact List.suffix_refl _
  | cons part parts ih =>
    obtain ⟨piece, component⟩ := part
    cases count with
    | zero => exact List.suffix_refl _
    | succ count =>
      cases component with
      | none => exact (ih _).trans (List.suffix_cons _ _)
      | some component => exact (ih _).trans (List.suffix_cons _ _)

/-- Where components are dropped, the first piece is. -/
private theorem dropComponents_suffix_tail {count : Nat} (h : count ≠ 0) :
    dropComponents count parts <:+ parts.tail := by
  obtain ⟨count, rfl⟩ := Nat.exists_eq_succ_of_ne_zero h
  cases parts with
  | nil => exact List.suffix_refl _
  | cons part parts =>
    obtain ⟨piece, component⟩ := part
    -- the first piece goes in any case, whether it counts or not
    cases component with
    | none =>
      rw [dropComponents, List.tail_cons]
      exact dropComponents_suffix _
    | some component =>
      rw [dropComponents, List.tail_cons]
      exact dropComponents_suffix _

end

/-- What is left between both ends of a list when elements of a kind are dropped there. -/
private theorem exists_between {α : Type} (p : α → Bool) (l : List α) :
    ∃ before after, l = before ++ ((l.dropWhile p).reverse.dropWhile p).reverse ++ after ∧
      (∀ x ∈ before, p x = true) ∧ (∀ x ∈ after, p x = true) ∧
      ∀ x rest, ((l.dropWhile p).reverse.dropWhile p).reverse = x :: rest → p x = false := by
  have hmem : ∀ {l : List α} {x : α}, x ∈ l.takeWhile p → p x = true := fun hx =>
    List.all_eq_true.mp List.all_takeWhile _ hx
  have hfront : l = l.takeWhile p ++ l.dropWhile p := List.takeWhile_append_dropWhile.symm
  have hback : l.dropWhile p = ((l.dropWhile p).reverse.dropWhile p).reverse ++
      ((l.dropWhile p).reverse.takeWhile p).reverse := by
    rw [← List.reverse_append, List.takeWhile_append_dropWhile, List.reverse_reverse]
  refine ⟨l.takeWhile p, ((l.dropWhile p).reverse.takeWhile p).reverse, ?_, fun x => hmem,
    fun x hx => hmem (List.mem_reverse.mp hx), ?_⟩
  · rw [List.append_assoc, ← hback]
    exact hfront
  · intro x rest hcons
    -- it begins where the front ends
    have hhead := List.head?_dropWhile_not p l
    rw [hback, hcons] at hhead
    exact hhead

/-- The text of some pieces in a row stands in that of all of them. -/
private theorem intercalate_infix (sep : List Char) (before pieces after : List (List Char)) :
    sep.intercalate pieces <:+: sep.intercalate (before ++ pieces ++ after) := by
  -- what comes behind lengthens the text at its end, and what comes before at its front
  have hfront : ∀ pieces : List (List Char),
      sep.intercalate pieces <+: sep.intercalate (pieces ++ after) := by
    intro pieces
    induction pieces with
    | nil => exact List.nil_prefix
    | cons piece pieces ih =>
      cases pieces with
      | nil =>
        cases after with
        | nil => exact List.prefix_refl _
        | cons next after =>
          rw [List.singleton_append, List.intercalate_singleton, List.intercalate_cons_cons,
            List.append_assoc]
          exact List.prefix_append _ _
      | cons next pieces =>
        simp only [List.cons_append, List.intercalate_cons_cons] at *
        exact (List.prefix_append_right_inj _).mpr ih
  have hback : ∀ before : List (List Char),
      sep.intercalate (pieces ++ after) <:+ sep.intercalate (before ++ (pieces ++ after)) := by
    intro before
    induction before with
    | nil => exact List.suffix_refl _
    | cons piece before ih =>
      refine ih.trans ?_
      cases hrest : before ++ (pieces ++ after) with
      | nil => exact List.nil_suffix
      | cons next rest =>
        rw [List.cons_append, hrest, List.intercalate_cons_cons]
        exact List.suffix_append _ _
  rw [List.append_assoc]
  exact (hfront pieces).isInfix.trans (hback before).isInfix

/-- Some pieces in a row behind the first one, of which the first means something, are a path with
    their components. -/
private theorem components_intercalate {path : Path} {pieces : List String}
    (hmem : ∀ piece ∈ pieces, piece ∈ path.pieces)
    (hfirst : ∀ piece rest, pieces = piece :: rest → component? piece ≠ none) :
    (Path.mk ("/".intercalate pieces)).components = (pieces.map inside).filterMap (·.2) := by
  cases pieces with
  | nil => rfl
  | cons piece rest =>
    refine components_of_pieces (pieces_intercalate (List.cons_ne_nil _ _) ?_) (hfirst _ _ rfl)
    exact fun piece hpiece => not_mem_of_mem_pieces (hmem piece hpiece)

/-- A path has no rest behind a base that it does not begin with. -/
theorem below?_eq_none {base path : Path} (h : ¬ base.components <+: path.components) :
    base.below? path = none := by
  rw [below?, if_neg (mt List.isPrefixOf_iff_prefix.mp h)]

/-- The parts of a path behind some components, from the first to the last that mean something. -/
def kept (count : Nat) (path : Path) : List (String × Option Component) :=
  (((dropComponents count path.parts).dropWhile (·.2.isNone)).reverse.dropWhile
    (·.2.isNone)).reverse

/-- The parts that are kept stand in a row behind the first part, and have all components but those
    that are dropped. -/
private theorem kept_eq (path : Path) {count : Nat} (hcount : count ≠ 0) :
    ∃ front pieces back, path.pieces = front ++ pieces ++ back ∧
      path.kept count = pieces.map inside ∧
      (∀ piece rest, pieces = piece :: rest → component? piece ≠ none) ∧
      (pieces.map inside).filterMap (·.2) = path.components.drop count := by
  -- dropped are the first parts with the components to drop, and then parts at both ends that mean
  -- nothing
  obtain ⟨first, rest, hparts, hpieces, -⟩ := path.parts_eq
  have hsuffix : dropComponents count path.parts <:+ path.parts.tail :=
    dropComponents_suffix_tail hcount
  have hcomponents : (dropComponents count path.parts).filterMap (·.2) =
      path.components.drop count := filterMap_dropComponents _
  obtain ⟨before, after, hdrop, hbefore, hafter, hfirst⟩ :=
    exists_between (·.2.isNone) (dropComponents count path.parts)
  rw [← kept] at hdrop hfirst
  generalize path.kept count = kept at *
  -- the row of the pieces is cut where that of the parts is
  obtain ⟨dropped, hdropped⟩ := hsuffix
  rw [hdrop, hparts, List.tail_cons] at hdropped
  obtain ⟨a, bcd, rfl, -, hbcd⟩ := List.map_eq_append_iff.mp hdropped.symm
  obtain ⟨bc, d, rfl, hbc, -⟩ := List.map_eq_append_iff.mp hbcd
  obtain ⟨b, pieces, rfl, -, rfl⟩ := List.map_eq_append_iff.mp hbc
  refine ⟨first.1 :: a ++ b, pieces, d, by simp [hpieces], rfl, ?_, ?_⟩
  · rintro piece rest rfl hnone
    have hsome := hfirst _ _ rfl
    rw [inside, hnone] at hsome
    cases hsome
  -- the parts at the ends have no component, so all components are those of the pieces between
  · have hbefore' : before.filterMap (·.2) = [] := List.filterMap_eq_nil_iff.mpr fun x hx =>
      Option.isNone_iff_eq_none.mp (hbefore x hx)
    have hafter' : after.filterMap (·.2) = [] := List.filterMap_eq_nil_iff.mpr fun x hx =>
      Option.isNone_iff_eq_none.mp (hafter x hx)
    rw [← hcomponents, hdrop, List.filterMap_append, List.filterMap_append, hbefore', hafter',
      List.nil_append, List.append_nil]

/-- The rest of a path has the remaining components, and stands in the path as it is written. -/
theorem exists_below? {base path : Path} (hbase : base.text ≠ "")
    (h : base.components <+: path.components) :
    ∃ rest, base.below? path = some rest ∧
      path.components = base.components ++ rest.components ∧
      rest.text.toList <:+: path.text.toList := by
  have hcount : base.components.length ≠ 0 :=
    mt List.length_eq_zero_iff.mp (components_ne_nil hbase)
  obtain ⟨front, pieces, back, hpieces, hkept, hfirst, hcomponents⟩ := path.kept_eq hcount
  have htexts : (path.kept base.components.length).map (·.1) = pieces := by
    rw [hkept, List.map_map]
    exact List.map_id' _
  have hmem : ∀ piece ∈ pieces, piece ∈ path.pieces := fun piece hpiece => by
    rw [hpieces]
    simp [hpiece]
  refine ⟨⟨"/".intercalate pieces⟩, ?_, ?_, ?_⟩
  · rw [below?, if_pos (List.isPrefixOf_iff_prefix.mpr h), ← htexts]
    rfl
  · -- dropping as many components as the base has leaves those behind it
    rw [components_intercalate hmem hfirst, hcomponents]
    exact (List.prefix_iff_eq_append.mp h).symm
  · rw [String.toList_intercalate, ← path.intercalate_pieces, hpieces, List.map_append,
      List.map_append]
    exact intercalate_infix _ _ _ _

/-! ## Entries of directories -/

/-- A name that an entry of a directory can have. -/
structure IsName (name : String) : Prop where
  ne_empty : name ≠ ""
  ne_here : name ≠ "."
  ne_parent : name ≠ ".."
  no_slash : '/' ∉ name.toList

instance (name : String) : Decidable (IsName name) :=
  decidable_of_iff (name ≠ "" ∧ name ≠ "." ∧ name ≠ ".." ∧ '/' ∉ name.toList)
    ⟨fun ⟨hempty, hhere, hparent, hslash⟩ => ⟨hempty, hhere, hparent, hslash⟩,
      fun ⟨hempty, hhere, hparent, hslash⟩ => ⟨hempty, hhere, hparent, hslash⟩⟩

/-- The name of an entry means that name. -/
private theorem IsName.component? {name : String} (h : IsName name) :
    component? name = some (.name name) := by
  have hnot : ¬ (name = "" ∨ name = ".") := by
    intro hname
    cases hname with
    | inl hempty => exact h.ne_empty hempty
    | inr hhere => exact h.ne_here hhere
  rw [Path.component?, if_neg hnot, if_neg h.ne_parent]

/-- A slash parts the pieces before it from those behind it. -/
private theorem pieces_append (front back : String) :
    (Path.mk (front ++ "/" ++ back)).pieces = (Path.mk front).pieces ++ (Path.mk back).pieces := by
  have htext : (front ++ "/" ++ back).toList = front.toList ++ '/' :: back.toList := by simp
  unfold pieces
  rw [htext, ← List.map_append]
  exact congrArg _ (List.splitOnP_append_cons _ _ rfl)

/-- A text without a slash is one piece. -/
private theorem pieces_of_no_slash {name : String} (h : '/' ∉ name.toList) :
    (Path.mk name).pieces = [name] := by
  unfold pieces
  rw [List.splitOn_eq_singleton h, List.map_singleton, String.ofList_toList]

/-- What the first piece of a path means, alone or with others behind it. -/
def head? (piece : String) (alone : Bool) : Option Component :=
  if piece = "" ∧ alone = false then some .root
  else if piece = "." then some .here
  else component? piece

/-- The components of a path are that of its first piece and those of the others. -/
private theorem components_of_cons {path : Path} {piece : String} {rest : List String}
    (h : path.pieces = piece :: rest) :
    path.components = (head? piece rest.isEmpty).toList ++ rest.filterMap component? := by
  -- the parts inside a path carry their components with them
  have hinside : ∀ pieces : List String,
      (pieces.map fun p => (p, component? p)).filterMap (·.2) = pieces.filterMap component? := by
    intro pieces
    rw [List.filterMap_map]
    rfl
  unfold components parts
  rw [h]
  split
  · rename_i next rest heq
    cases heq
    simp [head?, hinside, List.filterMap_cons]
  · rename_i rest heq
    cases heq
    simp [head?, hinside]
  · rename_i hroot hhere
    have hhead : head? piece rest.isEmpty = component? piece := by
      unfold head?
      rw [if_neg, if_neg]
      · rintro rfl
        exact hhere rest rfl
      · rintro ⟨rfl, hrest⟩
        cases rest with
        | nil => cases hrest
        | cons next rest => exact hroot next rest rfl
    rw [hinside, hhead, List.filterMap_cons]
    cases component? piece <;> rfl

/-- The path of an entry has the name of the entry as its last component. -/
theorem components_join (path : Path) {name : String} (h : IsName name) :
    (path.join name).components = path.components ++ [.name name] := by
  have hlast : [name].filterMap component? = [.name name] := by simp [h.component?]
  unfold join
  by_cases hempty : path.text = ""
  · -- the name alone
    have hpath : path.components = [] := by
      rw [components_of_cons (pieces_of_no_slash (by simp [hempty]))]
      simp [hempty, head?, component?]
    have hjoin : (Path.mk (path.text ++ name)).pieces = [name] := by
      rw [hempty, String.empty_append]
      exact pieces_of_no_slash h.no_slash
    rw [if_pos (.inl hempty), components_of_cons hjoin, hpath]
    simp [head?, h.ne_empty, h.ne_here, h.component?]
  · by_cases hslash : path.text.toList.getLast? = some '/'
    · -- the name takes the place of the empty piece behind the last slash
      obtain ⟨front, hfront⟩ := List.getLast?_eq_some_iff.mp hslash
      have htext : path.text = String.ofList front ++ "/" := by
        apply String.toList_injective
        rw [hfront]
        simp
      have hpath : path.pieces = (Path.mk (String.ofList front)).pieces ++ [""] := by
        rw [show path = ⟨String.ofList front ++ "/" ++ ""⟩ by rw [String.append_empty, ← htext],
          pieces_append]
        rfl
      have hjoin : (Path.mk (path.text ++ name)).pieces =
          (Path.mk (String.ofList front)).pieces ++ [name] := by
        rw [htext, pieces_append, pieces_of_no_slash h.no_slash]
      obtain ⟨piece, rest, hpieces⟩ := List.exists_cons_of_ne_nil
        (Path.mk (String.ofList front)).pieces_ne_nil
      rw [hpieces, List.cons_append] at hpath hjoin
      have hnone : [""].filterMap component? = [] := rfl
      have hmore : ∀ last : String, (rest ++ [last]).isEmpty = false := by simp
      rw [if_pos (.inr hslash), components_of_cons hjoin, components_of_cons hpath, hmore, hmore,
        List.filterMap_append, List.filterMap_append, hlast, hnone, List.append_nil,
        List.append_assoc]
    -- a slash is put between the path and the name
    · have hjoin : (Path.mk (path.text ++ "/" ++ name)).pieces = path.pieces ++ [name] := by
        rw [pieces_append, pieces_of_no_slash h.no_slash]
      obtain ⟨piece, rest, hpieces⟩ := List.exists_cons_of_ne_nil path.pieces_ne_nil
      have hhead : head? piece rest.isEmpty = head? piece (rest ++ [name]).isEmpty := by
        cases rest with
        | cons next rest => rfl
        | nil =>
          -- a single piece that is empty would be the empty path
          have hpiece : piece ≠ "" := by
            rintro rfl
            have htext := path.intercalate_pieces
            rw [hpieces] at htext
            exact hempty (String.toList_injective htext.symm)
          simp [head?, hpiece]
      rw [hpieces, List.cons_append] at hjoin
      rw [if_neg (by simp [hempty, hslash]), components_of_cons hjoin, components_of_cons hpieces,
        hhead, List.filterMap_append, hlast, List.append_assoc]

/-! ## Extensions -/

/-- A name has an extension if something stands before its last dot. -/
private theorem nameExtension?_eq_some_iff {name extension : List Char} :
    nameExtension? name = some extension ↔
      ∃ stem, stem ≠ [] ∧ name = stem ++ '.' :: extension ∧ '.' ∉ extension := by
  constructor
  · intro h
    -- read from its end, a name is a run without dots, then a dot, then the stem
    have hsplit := List.takeWhile_append_dropWhile (p := (· != '.')) (l := name.reverse)
    have hdot := List.head?_dropWhile_not (· != '.') name.reverse
    have hrun : '.' ∉ name.reverse.takeWhile (· != '.') := by
      intro hmem
      have hall := List.all_eq_true.mp (List.all_takeWhile (p := (· != '.')) (l := name.reverse))
      exact absurd (hall '.' hmem) (by decide)
    unfold nameExtension? at h
    dsimp only at h
    split at h
    · rename_i c d before hback
      rw [hback] at hsplit hdot
      have hc : c = '.' := by simpa using hdot
      subst hc
      cases h
      refine ⟨(d :: before).reverse, by simp, ?_, by simpa using hrun⟩
      have hname : name = (name.reverse.takeWhile (· != '.') ++ '.' :: d :: before).reverse := by
        rw [hsplit, List.reverse_reverse]
      exact hname.trans (by simp)
    · cases h
  · rintro ⟨stem, hstem, rfl, hextension⟩
    have hback : (stem ++ '.' :: extension).reverse = extension.reverse ++ '.' :: stem.reverse := by
      simp
    have hrun : ∀ c ∈ extension.reverse, (c != '.') = true := by
      intro c hc
      rw [bne_iff_ne]
      rintro rfl
      exact hextension (List.mem_reverse.mp hc)
    obtain ⟨d, before, hbefore⟩ := List.exists_cons_of_ne_nil (List.reverse_ne_nil_iff.mpr hstem)
    unfold nameExtension?
    rw [hback, hbefore]
    dsimp only
    rw [List.dropWhile_append_of_pos hrun, List.takeWhile_append_of_pos hrun]
    simp

/-- The extension of a path is what stands behind the last dot of its last name, where something
    stands before that dot. -/
theorem extension?_eq_some_iff {path : Path} {extension : String} :
    path.extension? = some extension ↔
      ∃ stem, stem ≠ "" ∧ '.' ∉ extension.toList ∧
        path.components.getLast? = some (.name (stem ++ "." ++ extension)) := by
  unfold extension?
  constructor
  · intro h
    -- only a name has an extension; the root, a dot and two dots have none
    split at h
    · rename_i text hlast
      obtain ⟨chars, hchars, rfl⟩ := Option.map_eq_some_iff.mp h
      obtain ⟨stem, hstem, htext, hdot⟩ := nameExtension?_eq_some_iff.mp hchars
      refine ⟨String.ofList stem, by simpa using hstem, by simpa using hdot, ?_⟩
      rw [hlast]
      congr 2
      apply String.toList_injective
      rw [htext]
      simp
    · cases h
  · rintro ⟨stem, hstem, hdot, hlast⟩
    have hname : nameExtension? (stem ++ "." ++ extension).toList = some extension.toList :=
      nameExtension?_eq_some_iff.mpr ⟨stem.toList, by simpa using hstem, by simp, hdot⟩
    rw [hlast]
    dsimp only
    rw [hname, Option.map_some, String.ofList_toList]

end Path

end Sift

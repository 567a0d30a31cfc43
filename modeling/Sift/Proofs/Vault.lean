import Mathlib.Data.List.Nodup
import Mathlib.Data.List.Perm.Basic
import Sift.Proofs.FileSystem
import Sift.Proofs.Path
import Sift.Vault

/-!
# The listing of a vault

All that is met in a vault is met once: each entry has the names on the way to it as components of
its path, so two entries differ where their ways part (`distinct_met`).  Since only paths with
the same components stand before each other, the notes have one order only, whatever the order is in
which the entries are met, or in which the directories keep them (`vault_listing_canonical`).
-/

namespace Sift.Vault

/-! ## What is met in a directory -/

/-- What is met of one entry of a directory: itself, and all that is met in it. -/
def visit (path : Path) (layers : IgnoreLayers) (entry : String × Tree) : List Entry :=
  if layers.ignores entry.1 !entry.2.isFile then []
  else ⟨path.join entry.1, entry.2.isFile⟩ ::
    walk (path.join entry.1) (layers.descend entry.1) entry.2

/-- The entries of a directory are visited one after the other. -/
private theorem walkEntries_eq (path : Path) (layers : IgnoreLayers)
    (entries : List (String × Tree)) :
    walkEntries path layers entries = entries.flatMap (visit path layers) := by
  induction entries with
  | nil => rfl
  | cons entry entries ih =>
    obtain ⟨name, tree⟩ := entry
    rw [walkEntries, ih, List.flatMap_cons]
    unfold visit
    dsimp only
    split <;> rfl

/-- A directory is walked through with its own ignore files on top. -/
private theorem walk_directory (path : Path) (layers : IgnoreLayers)
    (entries : List (String × Tree)) :
    walk path layers (.directory entries) =
      entries.flatMap (visit path ((.ofEntries entries, "") :: layers)) := by
  rw [walk, walkEntries_eq]

/-- Nothing is met in a file. -/
private theorem walk_file (path : Path) (layers : IgnoreLayers) (content : ByteArray) :
    walk path layers (.file content) = [] := by
  rw [walk]

/-! ## Each entry once -/

/-- What is met of an entry is the entry, or it lies below if all does that is met in the entry. -/
private theorem prefix_of_mem_visit {path : Path} {layers : IgnoreLayers} {name : String}
    {tree : Tree} {met : Entry} (hname : Path.IsName name)
    (hwalk : ∀ below ∈ walk (path.join name) (layers.descend name) tree,
      (path.join name).components <+: below.path.components)
    (h : met ∈ visit path layers (name, tree)) :
    path.components ++ [.name name] <+: met.path.components := by
  rw [← Path.components_join path hname]
  unfold visit at h
  split at h
  · cases h
  -- the entry itself, or what the walk meets below it
  · cases List.mem_cons.mp h with
    | inl hself =>
      subst hself
      exact List.prefix_rfl
    | inr hbelow => exact hwalk met hbelow

section

variable {tree : Tree} (hproper : tree.Proper) {path : Path} {layers : IgnoreLayers} {met : Entry}

include hproper

/-- What is met in a tree lies below its path. -/
private theorem exists_prefix_of_mem_walk (h : met ∈ walk path layers tree) :
    ∃ name, path.components ++ [.name name] <+: met.path.components := by
  -- on the tree: what is met in a directory is met in one of its entries, or is the entry
  induction hproper generalizing path layers met with
  | file content =>
    rw [walk_file] at h
    cases h
  | directory isName nodup proper ih =>
    rw [walk_directory] at h
    obtain ⟨⟨name, tree⟩, hentry, hmet⟩ := List.mem_flatMap.mp h
    refine ⟨name, prefix_of_mem_visit (isName _ hentry) (fun below hbelow => ?_) hmet⟩
    obtain ⟨name', hlies⟩ := ih _ hentry hbelow
    exact (List.prefix_append _ _).trans hlies

/-- Nothing that is met in a tree has the path of the tree. -/
private theorem ne_of_mem_walk (h : met ∈ walk path layers tree) :
    path.components ≠ met.path.components := by
  obtain ⟨name, hlies⟩ := exists_prefix_of_mem_walk hproper h
  intro heq
  have hlength := hlies.length_le
  rw [← heq, List.length_append, List.length_singleton] at hlength
  omega

/-- What is met of an entry has the name of the entry behind the path of its directory. -/
private theorem exists_components_of_mem_visit {name : String} (hname : Path.IsName name)
    (h : met ∈ visit path layers (name, tree)) :
    ∃ rest, met.path.components = path.components ++ .name name :: rest := by
  have hwalk : ∀ below ∈ walk (path.join name) (layers.descend name) tree,
      (path.join name).components <+: below.path.components := by
    intro below hbelow
    obtain ⟨name', hlies⟩ := exists_prefix_of_mem_walk hproper hbelow
    exact (List.prefix_append _ _).trans hlies
  obtain ⟨rest, hrest⟩ := prefix_of_mem_visit hname hwalk h
  exact ⟨rest, by simpa using hrest.symm⟩

/-- No two entries that are met in a tree have the same components. -/
private theorem distinct_walk :
    (walk path layers tree).Pairwise fun a b => a.path.components ≠ b.path.components := by
  induction hproper generalizing path layers with
  | file content =>
    rw [walk_file]
    exact .nil
  | directory isName nodup proper ih =>
    rw [walk_directory, List.pairwise_flatMap]
    constructor
    · -- of one entry, the entry itself is met before all that is in it
      rintro ⟨name, tree⟩ hentry
      unfold visit
      split
      · exact .nil
      · refine List.pairwise_cons.mpr ⟨fun below hbelow => ?_, ih _ hentry⟩
        exact ne_of_mem_walk (proper _ hentry) hbelow
    · -- two entries part at their names
      rw [List.nodup_iff_pairwise_ne, List.pairwise_map] at nodup
      apply nodup.imp_of_mem
      intro entry entry' hentry hentry' hne met hmet met' hmet' heq
      obtain ⟨rest, hrest⟩ :=
        exists_components_of_mem_visit (proper _ hentry) (isName _ hentry) hmet
      obtain ⟨rest', hrest'⟩ :=
        exists_components_of_mem_visit (proper _ hentry') (isName _ hentry') hmet'
      rw [hrest, hrest'] at heq
      exact hne (Component.name.inj (List.cons.inj (List.append_cancel_left heq)).1)

end

/-! ## Any order of the directories -/

/-- In another order of the directories the same entries are met, in another order. -/
private theorem walk_perm {tree tree' : Tree} (h : tree.Alike tree') (path : Path)
    (layers : IgnoreLayers) : (walk path layers tree).Perm (walk path layers tree') := by
  obtain ⟨hproper, hsame⟩ := h
  induction hsame generalizing path layers with
  | file content => exact .refl _
  | @directory pairs entries entries' left right same ih =>
    have hlayer := Tree.Alike.ofEntries_eq ⟨hproper, .directory pairs left right same⟩
    simp only [Tree.entries] at hlayer
    rw [walk_directory, walk_directory, ← hlayer]
    cases hproper with
    | directory isName nodup proper =>
      generalize (IgnoreLayer.ofEntries entries, "") :: layers = layers
      -- entries of the same name are met one beside the other
      have hpairs : ((pairs.map fun p => (p.1, p.2.1)).flatMap (visit path layers)).Perm
          ((pairs.map fun p => (p.1, p.2.2)).flatMap (visit path layers)) := by
        rw [List.flatMap_map, List.flatMap_map]
        refine List.Perm.flatMap_left pairs fun pair hpair => ?_
        have hmem := left.mem_iff.mpr (List.mem_map.mpr ⟨pair, hpair, rfl⟩)
        unfold visit
        dsimp only
        rw [(same pair hpair).isFile_eq]
        split
        · exact .nil
        · exact .cons _ (ih pair hpair _ _ (proper _ hmem))
      exact (left.flatMap_right _).trans (hpairs.trans (right.flatMap_right _).symm)

/-! ## All that is met in a vault -/

section

variable {files : FileSystem} (hproper : files.root.Proper) (root : Path)

include hproper

/-- No two entries that are met in a vault have the same components. -/
theorem distinct_met :
    (Vault.met files root).Pairwise fun a b => a.path.components ≠ b.path.components := by
  unfold Vault.met entries
  split
  · exact .nil
  · split
    · exact .nil
    · rename_i names hnames
      split
      · exact .nil
      · rename_i tree htree
        -- the root is above all that is met, and the walk meets nothing twice
        have htree := hproper.find? htree
        exact List.pairwise_cons.mpr
          ⟨fun met hmet => ne_of_mem_walk htree hmet, distinct_walk htree⟩

/-- In another order of the directories of all files the same is met, in another order. -/
private theorem met_perm {files' : FileSystem} (h : files.Same files') :
    (Vault.met files root).Perm (Vault.met files' root) := by
  have halike : files.root.Alike files'.root := ⟨hproper, h.root⟩
  unfold Vault.met entries
  rw [← FileSystem.resolve?_eq hproper h]
  split
  · exact .nil
  -- a path leads to the same place on both sides, and there to nothing or to the same tree
  · cases files.resolve? root with
    | none => exact .nil
    | some names =>
      dsimp only
      have hfind := halike.find? names
      generalize files.root.find? names = found, files'.root.find? names = found' at hfind
      cases hfind with
      | none => exact .nil
      | some hfound =>
        dsimp only
        rw [hfound.same.isFile_eq, halike.above_eq]
        exact .cons _ (walk_perm hfound _ _)

end

/-! ## The order of the notes -/

/-- The notes are the paths of what is met and is a note, in another order. -/
theorem notes_perm (met : List Entry) :
    (notes met).Perm ((met.filter Entry.isNote).map (·.path)) :=
  List.mergeSort_perm _ _

/-- The notes stand in the order of their paths. -/
theorem sorted_notes (met : List Entry) : (notes met).Pairwise fun a b => a.le b = true :=
  List.pairwise_mergeSort Path.le_trans Path.le_total _

/-- The notes are the paths of the entries that are notes. -/
private theorem mem_notes {met : List Entry} {path : Path} :
    path ∈ notes met ↔ ∃ entry ∈ met, entry.isNote = true ∧ entry.path = path := by
  rw [(notes_perm met).mem_iff, List.mem_map]
  simp only [List.mem_filter, and_assoc]

section

variable {met : List Entry}
  (hdistinct : met.Pairwise fun a b => a.path.components ≠ b.path.components)

include hdistinct

/-- No two notes have the same components. -/
private theorem distinct_notes : (notes met).Pairwise fun a b => a.components ≠ b.components := by
  rw [(notes_perm met).pairwise_iff (fun h => Ne.symm h), List.pairwise_map]
  exact hdistinct.sublist List.filter_sublist

/-- The notes stand in the strict order of their components. -/
private theorem increasing_notes :
    (notes met).Pairwise fun a b =>
      List.Lex (fun x y => x.lt y = true) a.components b.components :=
  (sorted_notes met).imp₂ (fun _ _ hle hne => Path.lex_of_componentsLe hle hne)
    (distinct_notes hdistinct)

/-- The notes have no other order. -/
theorem eq_notes {paths : List Path} (hperm : paths.Perm (notes met))
    (hsorted : paths.Pairwise fun a b => a.le b = true) : paths = notes met := by
  -- two notes that stand before each other have the same components, so they are one note
  refine hperm.eq_of_pairwise (fun a b ha hb hab hba => ?_) hsorted (sorted_notes met)
  have hnodup : ((notes met).map Path.components).Nodup :=
    List.pairwise_map.mpr (distinct_notes hdistinct)
  exact List.inj_on_of_nodup_map hnodup (hperm.mem_iff.mp ha) hb
    (Path.componentsLe_antisymm hab hba)

/-- The order in which the entries are met makes no difference. -/
private theorem notes_eq_of_perm {met' : List Entry} (h : met'.Perm met) :
    notes met' = notes met := by
  have hperm := (h.filter Entry.isNote).map (·.path)
  exact eq_notes hdistinct ((notes_perm met').trans (hperm.trans (notes_perm met).symm))
    (sorted_notes met')

end

/-- Some paths are the listing of what was met: the paths of the files whose names end in `.md`
    behind something else, each once, in the strict order of their components. -/
structure IsListing (met : List Entry) (paths : List Path) : Prop where
  mem_iff : ∀ path, path ∈ paths ↔ ∃ entry ∈ met, entry.path = path ∧ entry.isFile = true ∧
    ∃ stem, stem ≠ "" ∧ path.components.getLast? = some (.name (stem ++ ".md"))
  nodup : paths.Nodup
  increasing : paths.Pairwise fun a b =>
    List.Lex (fun x y => x.lt y = true) a.components b.components

/-- A note is a file whose name ends in `.md` behind something else. -/
private theorem isNote_iff {entry : Entry} :
    entry.isNote = true ↔ entry.isFile = true ∧
      ∃ stem, stem ≠ "" ∧ entry.path.components.getLast? = some (.name (stem ++ ".md")) := by
  unfold Entry.isNote
  rw [Bool.and_eq_true, beq_iff_eq, Path.extension?_eq_some_iff]
  have hdot : '.' ∉ extension.toList := by simp [extension]
  have hname : ∀ stem : String, stem ++ "." ++ extension = stem ++ ".md" := fun stem => by
    rw [String.append_assoc]
    rfl
  simp only [hdot, not_false_eq_true, true_and, hname]

/-- The notes of what is met are its listing. -/
private theorem isListing_notes {met : List Entry}
    (hdistinct : met.Pairwise fun a b => a.path.components ≠ b.path.components) :
    IsListing met (notes met) where
  mem_iff path := by
    rw [mem_notes]
    constructor
    · rintro ⟨entry, hmem, hnote, rfl⟩
      exact ⟨entry, hmem, rfl, isNote_iff.mp hnote⟩
    · rintro ⟨entry, hmem, rfl, hnote⟩
      exact ⟨entry, hmem, isNote_iff.mpr hnote, rfl⟩
  nodup := (distinct_notes hdistinct).imp fun hne heq => hne (congrArg Path.components heq)
  increasing := increasing_notes hdistinct

/-- A vault has one listing.  It is the same in whatever order its entries are met, and in whatever
    order the directories keep them. -/
theorem vault_listing_canonical (files : FileSystem) (root : Path)
    (hproper : files.root.Proper) :
    IsListing (Vault.met files root) (list files root) ∧
      (∀ met, met.Perm (Vault.met files root) → notes met = list files root) ∧
      (∀ files', files.Same files' → list files' root = list files root) := by
  have hdistinct := distinct_met hproper root
  rw [list]
  refine ⟨isListing_notes hdistinct, fun met hperm => notes_eq_of_perm hdistinct hperm, ?_⟩
  intro files' hsame
  rw [list]
  exact notes_eq_of_perm hdistinct (met_perm hproper root hsame).symm

/-! A vault with a hidden note, a file that is named only `.md`, and a directory with the name of a
note. -/

/-- The entries of the vault. -/
def shelf : List (String × Tree) :=
  [("a-b.md", .file .empty), ("a", .directory [("x.md", .file .empty)]), ("b.txt", .file .empty),
    (".md", .file .empty), ("d.md", .directory []), (".c.md", .file .empty)]

/-- The vault `v`, with its entries in the order of the argument. -/
def shelved (entries : List (String × Tree)) : FileSystem :=
  ⟨.directory [("v", .directory entries)], []⟩

/-- The names in the vault are proper and all different. -/
theorem proper_shelf : (Tree.directory shelf).Proper := by
  have hfile : ∀ content, (Tree.file content).Proper := .file
  have hnone : (Tree.directory []).Proper := .directory nofun List.nodup_nil nofun
  have ha : (Tree.directory [("x.md", .file .empty)]).Proper :=
    .directory (by decide) (by decide) (by simp [hfile])
  exact .directory (by decide) (by decide) (by simp [shelf, hfile, hnone, ha])

/-- So are those of the files around it. -/
private theorem proper_shelved : (shelved shelf).root.Proper :=
  .directory (by decide) (by decide) (by simp [proper_shelf])

/-- Putting the entries into another order keeps the files the same. -/
private theorem same_shelved : (shelved shelf).Same (shelved shelf.reverse) where
  root := .directory [("v", .directory shelf, .directory shelf.reverse)] (.refl _) (.refl _) (by
    simp [proper_shelf.same_of_perm (List.reverse_perm shelf).symm])
  workingDirectory := rfl

/-- The vault has one listing, also with its entries in the reverse order. -/
theorem vault_listing_canonical_shelf :
    (shelved shelf).root.Proper ∧ (shelved shelf).Same (shelved shelf.reverse) ∧
      list (shelved shelf.reverse) ⟨"v"⟩ = [⟨"v/.c.md"⟩, ⟨"v/a/x.md"⟩, ⟨"v/a-b.md"⟩] := by
  have hlist : list (shelved shelf) ⟨"v"⟩ = [⟨"v/.c.md"⟩, ⟨"v/a/x.md"⟩, ⟨"v/a-b.md"⟩] := by
    have hperm : [⟨"v/.c.md"⟩, ⟨"v/a/x.md"⟩, ⟨"v/a-b.md"⟩].Perm
        (((Vault.met (shelved shelf) ⟨"v"⟩).filter Entry.isNote).map (·.path)) := by
      decide +kernel
    rw [list]
    exact (eq_notes (distinct_met proper_shelved _) (hperm.trans (notes_perm _).symm)
      (by decide +kernel)).symm
  have hcanonical := vault_listing_canonical (shelved shelf) ⟨"v"⟩ proper_shelved
  exact ⟨proper_shelved, same_shelved, (hcanonical.2.2 _ same_shelved).trans hlist⟩

end Sift.Vault

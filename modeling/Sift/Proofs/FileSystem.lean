import Sift.Ignore
import Sift.Proofs.Path

/-!
# File systems up to the order of their entries

In a *proper* tree the entries of a directory have names of their own.  Two trees are the *same* if
they differ only in the order in which their directories keep their entries.  What is found in a
proper tree under a name is then found in the other tree too, up to that order again
(`Tree.Alike.child?`), so paths lead to the same places (`FileSystem.resolve?_eq`) and ignore files
say the same (`Tree.Alike.above_eq`).
-/

namespace Sift

namespace Tree

/-- The entries of each directory have proper names, and no two have the same. -/
inductive Proper : Tree → Prop
  | file (content : ByteArray) : Proper (.file content)
  | directory {entries : List (String × Tree)} (isName : ∀ e ∈ entries, Path.IsName e.1)
      (nodup : (entries.map (·.1)).Nodup) (proper : ∀ e ∈ entries, e.2.Proper) :
      Proper (.directory entries)

/-- The same content, with the entries of directories in any order.  Entries of the same name stand
    together in `pairs`. -/
inductive Same : Tree → Tree → Prop
  | file (content : ByteArray) : Same (.file content) (.file content)
  | directory (pairs : List (String × Tree × Tree)) {entries entries' : List (String × Tree)}
      (left : entries.Perm (pairs.map fun p => (p.1, p.2.1)))
      (right : entries'.Perm (pairs.map fun p => (p.1, p.2.2)))
      (same : ∀ p ∈ pairs, Same p.2.1 p.2.2) : Same (.directory entries) (.directory entries')

/-- Of two trees with the same content, both are files or neither is. -/
theorem Same.isFile_eq {tree tree' : Tree} (h : tree.Same tree') : tree.isFile = tree'.isFile := by
  cases h with
  | file content => rfl
  | directory pairs left right same => rfl

/-- Among names that are all different, an entry is found under its name. -/
private theorem lookup_eq_some_iff_mem {entries : List (String × Tree)}
    (hnodup : (entries.map (·.1)).Nodup) {name : String} {tree : Tree} :
    entries.lookup name = some tree ↔ (name, tree) ∈ entries := by
  induction entries with
  | nil => simp
  | cons entry entries ih =>
    -- the names of the other entries differ from the first one, so it hides none of them
    obtain ⟨key, value⟩ := entry
    obtain ⟨hkey, hnodup⟩ := List.nodup_cons.mp hnodup
    rw [List.lookup_cons]
    by_cases hname : name = key
    · subst hname
      have hnot : (name, tree) ∉ entries := fun hmem =>
        hkey (List.mem_map.mpr ⟨_, hmem, rfl⟩)
      simp [hnot, eq_comm]
    · simp [beq_eq_false_iff_ne.mpr hname, hname, ih hnodup]

namespace Proper

/-- A proper tree has the same content as itself. -/
private theorem same_self {tree : Tree} (h : tree.Proper) : tree.Same tree := by
  induction h with
  | file content => exact .file content
  | @directory entries isName nodup proper ih =>
    -- each entry is paired with itself
    refine .directory (entries.map fun e => (e.1, e.2, e.2)) (.of_eq ?_) (.of_eq ?_) ?_
    · rw [List.map_map]
      exact (List.map_id entries).symm
    · rw [List.map_map]
      exact (List.map_id entries).symm
    intro pair hpair
    obtain ⟨e, he, rfl⟩ := List.mem_map.mp hpair
    exact ih e he

/-- Putting the entries of a directory into another order keeps its content. -/
theorem same_of_perm {entries entries' : List (String × Tree)} (h : (Tree.directory entries).Proper)
    (hperm : entries.Perm entries') : (Tree.directory entries).Same (.directory entries') := by
  cases h.same_self with
  | directory pairs left right same => exact .directory pairs left (hperm.symm.trans right) same

/-- The entries of a proper tree are proper. -/
private theorem child? {tree child : Tree} {name : String} (h : tree.Proper)
    (hchild : tree.child? name = some child) : child.Proper := by
  cases h with
  | file content => cases hchild
  | directory isName nodup proper =>
    exact proper _ ((lookup_eq_some_iff_mem nodup).mp hchild)

/-- So is everything that a path of names leads to. -/
theorem find? {tree found : Tree} {names : List String} (h : tree.Proper)
    (hfound : tree.find? names = some found) : found.Proper := by
  induction names generalizing tree with
  | nil =>
    cases hfound
    exact h
  | cons name names ih =>
    obtain ⟨child, hchild, hfound⟩ := Option.bind_eq_some_iff.mp hfound
    exact ih (h.child? hchild) hfound

end Proper

/-- A proper tree, and one with the same content. -/
structure Alike (tree tree' : Tree) : Prop where
  proper : tree.Proper
  same : tree.Same tree'

/-- The tree that stands where a directory is missing. -/
private theorem alike_empty : empty.Alike empty where
  proper := .directory nofun List.nodup_nil nofun
  same := .directory [] .nil .nil nofun

namespace Alike

variable {tree tree' : Tree}

/-- Under each name there is nothing in either tree, or the same. -/
theorem child? (h : tree.Alike tree') (name : String) :
    Option.Rel Alike (tree.child? name) (tree'.child? name) := by
  obtain ⟨hproper, hsame⟩ := h
  cases hsame with
  | file content => exact .none
  | @directory pairs entries entries' left right same =>
    cases hproper with
    | directory isName nodup proper =>
      -- both directories have the names of the pairs
      have hnames : (entries.map (·.1)).Perm (entries'.map (·.1)) := by
        have hleft := left.map (·.1)
        have hright := right.map (·.1)
        rw [List.map_map] at hleft hright
        exact hleft.trans hright.symm
      have nodup' := hnames.nodup_iff.mp nodup
      show Option.Rel Alike (entries.lookup name) (entries'.lookup name)
      cases hlookup : entries.lookup name with
      | none =>
        -- a name that is missing on the left is in no pair, so it is missing on the right too
        cases hlookup' : entries'.lookup name with
        | none => exact .none
        | some tree' =>
          have hmem := (lookup_eq_some_iff_mem nodup').mp hlookup'
          obtain ⟨pair, hpair, heq⟩ := List.mem_map.mp (right.mem_iff.mp hmem)
          cases heq
          have hmem' := left.mem_iff.mpr (List.mem_map.mpr ⟨pair, hpair, rfl⟩)
          rw [(lookup_eq_some_iff_mem nodup).mpr hmem'] at hlookup
          cases hlookup
      | some tree =>
        -- an entry of the left directory is in a pair, and the other tree of the pair is on the
        -- right
        have hmem := (lookup_eq_some_iff_mem nodup).mp hlookup
        obtain ⟨pair, hpair, heq⟩ := List.mem_map.mp (left.mem_iff.mp hmem)
        cases heq
        have hmem' := right.mem_iff.mpr (List.mem_map.mpr ⟨pair, hpair, rfl⟩)
        rw [(lookup_eq_some_iff_mem nodup').mpr hmem']
        exact .some ⟨proper _ hmem, same pair hpair⟩

/-- A path of names leads to nothing in either tree, or to the same. -/
theorem find? (h : tree.Alike tree') (names : List String) :
    Option.Rel Alike (tree.find? names) (tree'.find? names) := by
  induction names generalizing tree tree' with
  | nil => exact .some h
  | cons name names ih =>
    have hchild := h.child? name
    unfold Tree.find?
    generalize tree.child? name = child, tree'.child? name = child' at hchild
    cases hchild with
    | none => exact .none
    | some hchild => exact ih hchild

/-! ## Ignore files -/

/-- An ignore file has the same rules in both trees. -/
private theorem fileNamed_eq (h : tree.Alike tree') (name : String) :
    IgnoreLayer.fileNamed tree.entries name = IgnoreLayer.fileNamed tree'.entries name := by
  have hchild := h.child? name
  unfold Tree.child? at hchild
  unfold IgnoreLayer.fileNamed
  generalize tree.entries.lookup name = child, tree'.entries.lookup name = child' at *
  cases hchild with
  | none => rfl
  | some hchild =>
    cases hchild.same with
    | file content => rfl
    | directory pairs left right same => rfl

/-- A name is taken in both trees or in neither. -/
private theorem isSome_lookup_eq (h : tree.Alike tree') (name : String) :
    (tree.entries.lookup name).isSome = (tree'.entries.lookup name).isSome := by
  have hchild := h.child? name
  unfold Tree.child? at hchild
  generalize tree.entries.lookup name = child, tree'.entries.lookup name = child' at *
  cases hchild with
  | none => rfl
  | some hchild => rfl

/-- The ignore files of a directory do not depend on the order of its entries. -/
theorem ofEntries_eq (h : tree.Alike tree') :
    IgnoreLayer.ofEntries tree.entries = IgnoreLayer.ofEntries tree'.entries := by
  unfold IgnoreLayer.ofEntries
  simp only [h.fileNamed_eq, h.isSome_lookup_eq]

/-- Nor do those of the directories on the way to a place. -/
theorem above_eq (h : tree.Alike tree') (names : List String) :
    IgnoreLayers.above tree names = IgnoreLayers.above tree' names := by
  induction names generalizing tree tree' with
  | nil => rfl
  | cons name names ih =>
    -- a missing directory counts as an empty one on both sides
    have hchild : ((tree.child? name).getD .empty).Alike ((tree'.child? name).getD .empty) := by
      have hrel := h.child? name
      generalize tree.child? name = child, tree'.child? name = child' at hrel
      cases hrel with
      | none => exact alike_empty
      | some hchild => exact hchild
    unfold IgnoreLayers.above
    rw [ih hchild, h.ofEntries_eq]

end Alike

end Tree

/-! ## Paths -/

namespace FileSystem

/-- The same files, with the entries of directories in any order. -/
structure Same (files files' : FileSystem) : Prop where
  root : files.root.Same files'.root
  workingDirectory : files.workingDirectory = files'.workingDirectory

variable {files files' : FileSystem}

/-- One piece of a path leads to the same place, since only what has a name counts. -/
private theorem step?_eq (h : files.root.Alike files'.root) (names : List String) (piece : String) :
    files.step? names piece = files'.step? names piece := by
  have hrel := h.find? names.reverse
  unfold step?
  -- only what the two trees have at this place matters
  generalize files.root.find? names.reverse = found,
    files'.root.find? names.reverse = found' at hrel
  cases hrel with
  | none => rfl
  | some hfound =>
    have hlookup := hfound.isSome_lookup_eq piece
    cases hfound.same with
    | file content => rfl
    | directory pairs left right same =>
      simp only [Tree.entries] at hlookup
      simp only [Option.bind_eq_bind, Option.bind_some, hlookup]

/-- A path leads to the same place in file systems with the same files. -/
theorem resolve?_eq (hproper : files.root.Proper) (h : files.Same files') (path : Path) :
    files.resolve? path = files'.resolve? path := by
  have hstep : files.step? = files'.step? := by
    funext names piece
    exact step?_eq ⟨hproper, h.root⟩ names piece
  unfold resolve?
  rw [hstep, h.workingDirectory]

end FileSystem

end Sift

import Sift.Pattern.Parser

/-!
# Patterns of escaped texts

The pattern of an escaped text is found exactly where the text itself stands.

* Reading: every character of the text becomes one part of the pattern that matches this character
  and no other (`readRest?_escape`), and nothing but the size of the pattern can
  refuse it (`parse?_escape`).
* Searching: a row of such parts takes a spot to the one behind the text, if the text follows it
  (`ends_literals`), so it is found in a text exactly if it is a part of it (`search_literals`).
-/

namespace Sift

namespace CharClass

/-- The class of a single character has no other in it. -/
@[simp] theorem contains_single (c c' : Char) : (single c).contains c' = true ↔ c' = c := by
  simp only [single, contains, Bool.and_eq_true, decide_eq_true_eq]
  constructor
  · rintro ⟨hle, hge⟩
    exact Char.toNat_inj.mp (Nat.le_antisymm hge hle)
  · rintro rfl
    exact ⟨Nat.le_refl _, Nat.le_refl _⟩

end CharClass

namespace Pattern

/-! ## Reading -/

/-- The part of a pattern that matches one character. -/
def literalPiece (c : Char) : Piece := ⟨.chars (.single c), 0, true⟩

variable {state : ReadState} {c : Char} {rest : List Char}

/-- Where case counts, a literal character is read as itself. -/
private theorem pattern?_literal {flags : Flags} (h : flags.ignoreCase = false) :
    (Atom.literal c false).pattern? flags = some (literalPiece c).pattern := by
  simp [Atom.pattern?, Flags.allows, Flags.fold, h, literalPiece]

/-- A literal is pushed as it is. -/
@[simp] theorem pushAtom_literal (state : ReadState) (c : Char) :
    state.pushAtom (literalPiece c).pattern = state.push (literalPiece c) := rfl

/-- A character without a meaning of its own is a literal. -/
private theorem step?_of_not_meta (hmeta : isMeta c = false)
    (hcase : state.flags.ignoreCase = false) :
    step? c rest state = some (rest, state.push (literalPiece c)) := by
  have hatom := pattern?_literal (c := c) hcase
  unfold step?
  split
  case h_13 => simp [hatom]
  -- every character that opens something else has a meaning
  all_goals cases hmeta

/-- A character behind a backslash is a literal. -/
private theorem step?_backslash (hmeta : isMeta c = true) (hcase : state.flags.ignoreCase = false) :
    step? '\\' (c :: rest) state = some (rest, state.push (literalPiece c)) := by
  have hatom := pattern?_literal (c := c) hcase
  simp [step?, escape?, isEscapable, hmeta, hatom]

/-- Reading goes on behind what one step has read. -/
private theorem readRest?_cons {rest' : List Char} {state' : ReadState}
    (hblank : state.flags.ignoreBlank = false) (hstep : step? c rest state = some (rest', state'))
    (hle : rest'.length ≤ rest.length) :
    readRest? (c :: rest) state = readRest? rest' state' := by
  have hlt : rest'.length < (c :: rest).length := Nat.lt_succ_of_le hle
  rw [readRest?]
  simp only [skip, hblank, Bool.false_eq_true, if_false, hstep, if_pos hlt]

/-- The state behind a row of literals. -/
def ReadState.pushAll (state : ReadState) (text : List Char) : ReadState :=
  text.foldl (fun state c => state.push (literalPiece c)) state

/-- A row of literals is put in front of what was read before, the last one first. -/
private theorem pushAll_eq (state : ReadState) (text : List Char) :
    state.pushAll text =
      { state with
        group.pieces := (text.map literalPiece).reverse ++ state.group.pieces } := by
  induction text generalizing state with
  | nil => rfl
  | cons c text ih =>
    show (state.push (literalPiece c)).pushAll text = _
    rw [ih]
    simp [ReadState.push]

/-- An escaped text is read as a row of literals. -/
private theorem readRest?_escape (text : List Char) (state : ReadState)
    (hcase : state.flags.ignoreCase = false) (hblank : state.flags.ignoreBlank = false) :
    readRest? (text.flatMap escapeChar) state = some (state.pushAll text) := by
  -- on the text: each character is one step, or two with a backslash before it
  induction text generalizing state with
  | nil =>
    rw [List.flatMap_nil, readRest?]
    simp only [skip, hblank, Bool.false_eq_true, if_false]
    rfl
  | cons c text ih =>
    -- the flags stay as they are, so the rest is read in the same way
    have hrest := ih (state.push (literalPiece c)) hcase hblank
    rw [List.flatMap_cons]
    by_cases hmeta : isMeta c = true
    · rw [escapeChar, if_pos hmeta, List.cons_append, List.singleton_append,
        readRest?_cons hblank (step?_backslash hmeta hcase) (by simp), hrest]
      rfl
    · rw [escapeChar, if_neg hmeta, List.singleton_append,
        readRest?_cons hblank (step?_of_not_meta (by simpa using hmeta) hcase) (Nat.le_refl _),
        hrest]
      rfl

/-! ## Rows of parts -/

/-- Parts without parts of their own have no depth. -/
private theorem deepest_eq_zero {pieces : List Piece} (h : ∀ piece ∈ pieces, piece.depth = 0) :
    deepest pieces = 0 := by
  unfold deepest
  induction pieces with
  | nil => rfl
  | cons piece pieces ih =>
    rw [List.map_cons, List.foldl_cons, h piece (by simp)]
    exact ih fun piece hmem => h piece (by simp [hmem])

/-- A row of parts without parts of their own is not nested deeply. -/
private theorem depth_sequenceOf_le {pieces : List Piece} (h : ∀ piece ∈ pieces, piece.depth = 0) :
    (sequenceOf pieces).depth ≤ 1 := by
  unfold sequenceOf
  split
  · exact Nat.zero_le _
  · rename_i piece
    rw [h piece (by simp)]
    exact Nat.zero_le _
  · have hzero := deepest_eq_zero h
    show deepest pieces + 1 ≤ 1
    omega

/-- A row of more than one part is the sequence of their patterns. -/
private theorem pattern_sequenceOf {pieces : List Piece} (h : 1 < pieces.length) :
    (sequenceOf pieces).pattern = sequence (pieces.reverse.map (·.pattern)) := by
  unfold sequenceOf
  split
  · cases h
  · exact absurd h (Nat.lt_irrefl 1)
  · rfl

/-- A sequence matches one pattern after the other. -/
private theorem ends_sequence (patterns : List Pattern) (spots : List Spot) :
    (sequence patterns).ends spots = patterns.foldl (fun spots p => p.ends spots) spots := by
  unfold sequence
  induction patterns generalizing spots with
  | nil => rfl
  | cons p patterns ih => exact ih _

/-- A row of parts matches one part after the other. -/
private theorem ends_sequenceOf (pieces : List Piece) (spots : List Spot) :
    (sequenceOf pieces).pattern.ends spots =
      pieces.reverse.foldl (fun spots piece => piece.pattern.ends spots) spots := by
  unfold sequenceOf
  split
  · rfl
  · rfl
  · rw [ends_sequence, List.foldl_map]

/-- The pattern of a row of literals. -/
def literals (text : List Char) : Pattern := (sequenceOf (text.map literalPiece).reverse).pattern

/-- The pattern of an escaped text is a row of literals, if it is not too large. -/
theorem parse?_escape {text : String} (h : (literals text.toList).size ≤ maxSize) :
    parse? (escape text) = some (literals text.toList) := by
  have hdepth : ∀ piece ∈ (text.toList.map literalPiece).reverse, piece.depth = 0 := by
    intro piece hmem
    rw [List.mem_reverse, List.mem_map] at hmem
    obtain ⟨c, -, rfl⟩ := hmem
    rfl
  -- characters have no parts, so the row is one level deep
  have hnested : (sequenceOf (text.toList.map literalPiece).reverse).depth ≤ maxDepth :=
    Nat.le_trans (depth_sequenceOf_le hdepth) (by decide)
  -- no group is open behind the last character
  have hread : readRest? (escape text).toList ⟨{}, [], .empty false, []⟩ =
      some ⟨{}, [], ⟨[], (text.toList.map literalPiece).reverse, false⟩, []⟩ := by
    rw [escape, String.toList_ofList, readRest?_escape _ _ rfl rfl, pushAll_eq]
    simp [OpenGroup.empty]
  unfold parse?
  rw [hread]
  show (if (decide _ && decide _) = true then _ else _) = _
  rw [if_pos]
  · rfl
  · exact Bool.and_eq_true_iff.mpr ⟨decide_eq_true hnested, decide_eq_true h⟩

/-- A literal takes one step for each of its bytes, forwards and backwards. -/
private theorem programSize_literalPiece (backward : Bool) (c : Char) :
    (literalPiece c).pattern.programSize backward = 32 * c.utf8Size := by
  simp [literalPiece, programSize, classSize, CharClass.single, CharClass.codes, stepSize]

/-- The program of a row of literals has a step for each byte, and one for its end. -/
private theorem programSize_sequence_literals (backward : Bool) (text : List Char) :
    (sequence (text.map fun c => (literalPiece c).pattern)).programSize backward =
      32 * (String.ofList text).utf8ByteSize + 32 := by
  unfold sequence
  induction text with
  | nil => rfl
  | cons c text ih =>
    rw [List.map_cons, List.foldr_cons, programSize, ih, programSize_literalPiece,
      String.ofList_cons, String.utf8ByteSize_append, String.utf8ByteSize_singleton]
    omega

/-- So the program of a literal text is no larger than its bytes and its end. -/
private theorem programSize_literals_le (backward : Bool) (text : String) :
    (literals text.toList).programSize backward ≤ 32 * text.utf8ByteSize + 32 := by
  have hrow := programSize_sequence_literals backward text.toList
  rw [String.ofList_toList] at hrow
  rw [← hrow]
  -- an empty row, a row of one character and a longer one are patterns of different kinds
  rcases text.toList with _ | ⟨c, _ | ⟨c', rest⟩⟩
  · exact Nat.le_refl _
  · -- a row of one character is that character alone
    exact Nat.le_add_right _ _
  · have hpattern : literals (c :: c' :: rest) =
        sequence ((c :: c' :: rest).map fun c => (literalPiece c).pattern) :=
      (pattern_sequenceOf (by simp)).trans (congrArg sequence (by simp))
    exact Nat.le_of_eq (congrArg (programSize backward) hpattern)

/-- The size of a row of literals is at most that of its characters in bytes and of its end. -/
theorem size_literals_le (text : String) :
    (literals text.toList).size ≤ 32 * text.utf8ByteSize + 32 :=
  Nat.max_le.mpr ⟨programSize_literals_le false text, programSize_literals_le true text⟩

end Pattern

/-! ## Searching -/

namespace Spot

/-- The spot behind a text, if the text follows a spot. -/
def pass? : List Char → Spot → Option Spot
  | [], spot => some spot
  | c :: text, spot => (spot.step? (CharClass.single c).contains).bind (pass? text)

/-- A spot can be passed exactly if the text follows it. -/
private theorem isSome_pass?_iff (text : List Char) (spot : Spot) :
    (pass? text spot).isSome ↔ text <+: spot.after := by
  -- on the text that is to be passed, with the spot moving along
  induction text generalizing spot with
  | nil => simp [pass?]
  | cons c text ih =>
    obtain ⟨place, before, after⟩ := spot
    cases after with
    | nil => simp [pass?, step?]
    | cons c' after =>
      by_cases hc : c' = c
      · subst hc
        simp [pass?, step?, ih]
      · have hne : ¬ c = c' := fun h => hc h.symm
        simp [pass?, step?, hc, hne]

/-- The spots of a text from one on stand before the ends of the text. -/
private theorem exists_onward_iff (P : List Char → Prop) (place : Nat) (before : Option Char)
    (text : List Char) :
    (∃ spot ∈ onward place before text, P spot.after) ↔ ∃ back, back <:+ text ∧ P back := by
  induction text generalizing place before with
  | nil => simp [onward]
  | cons c text ih =>
    simp only [onward, List.mem_cons, ih, List.suffix_cons_iff, or_and_right, exists_or,
      exists_eq_left]

end Spot

namespace Pattern

/-- A row of literals takes each spot that the text follows to the one behind it. -/
private theorem ends_literals (text : List Char) (spots : List Spot) :
    (literals text).ends spots = spots.filterMap (Spot.pass? text) := by
  rw [literals, ends_sequenceOf, List.reverse_reverse]
  induction text generalizing spots with
  | nil => exact (List.filterMap_some).symm
  | cons c text ih =>
    rw [List.map_cons, List.foldl_cons, ih]
    -- the first character is passed by all spots at once, then the rest
    show (spots.filterMap (Spot.step? (CharClass.single c).contains)).filterMap _ = _
    rw [List.filterMap_filterMap]
    rfl

/-- A row of literals is found in a text exactly if it is a part of the text. -/
theorem search_literals (part : List Char) (text : String) :
    (literals part).search text = true ↔ part <:+: text.toList := by
  calc (literals part).search text = true
      ↔ ∃ spot ∈ Spot.all text.toList, (Spot.pass? part spot).isSome := by
        simp only [search, ends_literals, Bool.not_eq_true', List.isEmpty_eq_false_iff_exists_mem,
          List.mem_filterMap, Option.isSome_iff_exists]
        constructor
        · rintro ⟨behind, spot, hmem, hpass⟩
          exact ⟨spot, hmem, behind, hpass⟩
        · rintro ⟨spot, hmem, behind, hpass⟩
          exact ⟨behind, spot, hmem, hpass⟩
    _ ↔ ∃ spot ∈ Spot.all text.toList, part <+: spot.after := by
        simp only [Spot.isSome_pass?_iff]
    _ ↔ ∃ back, back <:+ text.toList ∧ part <+: back :=
        Spot.exists_onward_iff (part <+: ·) 0 none text.toList
    _ ↔ part <:+: text.toList := by
        simp only [List.infix_iff_prefix_suffix, and_comm]

end Pattern

end Sift

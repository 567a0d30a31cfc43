import Sift.FileSystem
import Sift.Frontmatter

/-!
# Where the frontmatter of a note ends

The text between the marks goes up to the first closing mark.  Since the line feed that a closing
mark begins with stands nowhere else in it, a mark cannot begin inside the text and end inside the
mark behind it, so the first mark is the one behind a text without marks
(`beforeClosing?_eq_some_iff`), also where the text ends with line feeds or dashes.  Hence a note is
split into its parts in one way at most, and its document depends on the text between the marks and
on nothing before or behind it (`frontmatter_split`).
-/

namespace Sift.Frontmatter

/-! ## The first closing mark -/

/-- Where a mark begins in a text before another one, it ends in the text, if the character that
    marks begin with is not in their rest. -/
private theorem prefix_of_prefix_append {first : Char} {others front back : List Char}
    (hfirst : first ∉ others) (hfront : front ≠ [])
    (h : first :: others <+: front ++ first :: back) : first :: others <+: front := by
  cases List.prefix_or_prefix_of_prefix h (List.prefix_append front _) with
  | inl hmark => exact hmark
  | inr hinside =>
    -- the text is the beginning of the mark, and `excess` is what reaches beyond it
    obtain ⟨excess, hexcess⟩ := hinside
    rw [← hexcess, List.prefix_append_right_inj] at h
    cases excess with
    | nil =>
      rw [List.append_nil] at hexcess
      subst hexcess
      exact List.prefix_rfl
    -- where the next mark begins, the mark would have its first character in its rest
    | cons c excess =>
      have hc : c = first := (List.cons_prefix_cons.mp h).1
      obtain ⟨d, front, rfl⟩ := List.exists_cons_of_ne_nil hfront
      have hothers : others = front ++ c :: excess := (List.cons.inj hexcess).2.symm
      exact absurd (by simp [hothers, hc]) hfirst

/-- The closing mark ends inside a text where it begins there, although another mark follows. -/
private theorem closing_prefix_iff {front back : List Char} (hfront : front ≠ []) :
    closing <+: front ++ (closing ++ back) ↔ closing <+: front := by
  constructor
  · exact prefix_of_prefix_append (by decide) hfront
  · intro h
    exact h.trans (List.prefix_append _ _)

/-- What stands before the first closing mark has no such mark in it, and a mark follows it. -/
theorem beforeClosing?_eq_some_iff {content text : List Char} :
    beforeClosing? content = some text ↔
      ∃ body, content = text ++ (closing ++ body) ∧ ¬ closing <:+: text := by
  constructor
  · intro h
    induction content generalizing text with
    | nil => cases h
    | cons c content ih =>
      -- the recursion goes along the note: a mark begins here, or the text goes on
      unfold beforeClosing? at h
      split at h
      · rename_i hmark
        obtain ⟨body, hbody⟩ := List.isPrefixOf_iff_prefix.mp hmark
        cases h
        exact ⟨body, hbody.symm, by decide⟩
      · rename_i hmark
        obtain ⟨rest, hrest, rfl⟩ := Option.map_eq_some_iff.mp h
        obtain ⟨body, rfl, hunclosed⟩ := ih hrest
        refine ⟨body, rfl, fun hinfix => ?_⟩
        cases List.infix_cons_iff.mp hinfix with
        | inl hbegins =>
          exact hmark (List.isPrefixOf_iff_prefix.mpr (hbegins.trans (List.prefix_append _ _)))
        | inr hlater => exact hunclosed hlater
  · rintro ⟨body, rfl, hunclosed⟩
    induction text with
    | nil => rfl
    -- behind `c` a mark begins no earlier than in the note without `c`
    | cons c text ih =>
      have hbegins : ¬ closing <+: c :: (text ++ (closing ++ body)) := by
        rw [← List.cons_append, closing_prefix_iff (List.cons_ne_nil c text)]
        exact fun h => hunclosed h.isInfix
      have hlater : ¬ closing <:+: text := fun h => hunclosed (List.infix_cons_iff.mpr (.inr h))
      show beforeClosing? (c :: (text ++ (closing ++ body))) = _
      unfold beforeClosing?
      rw [if_neg (mt List.isPrefixOf_iff_prefix.mp hbegins), ih hlater, Option.map_some]

/-! ## Notes -/

/-- The content of a note in its parts: white space, the text between the marks, and a body.  The
    text has no closing mark in it. -/
structure IsSplit (content white text body : String) : Prop where
  content_eq : content = white ++ "---" ++ text ++ "\n---" ++ body
  isWhiteSpace : ∀ c ∈ white.toList, Unicode.isWhiteSpace c = true
  unclosed : ¬ "\n---".toList <:+: text.toList

variable {content white text body : String}

/-- The characters of a note that is split into its parts. -/
private theorem IsSplit.toList_eq (h : IsSplit content white text body) :
    content.toList = white.toList ++ (opening ++ (text.toList ++ (closing ++ body.toList))) := by
  simp [h.content_eq, opening, closing]

/-- The white space before the first mark ends there. -/
private theorem dropWhile_append_opening {white rest : List Char}
    (h : ∀ c ∈ white, Unicode.isWhiteSpace c = true) :
    (white ++ (opening ++ rest)).dropWhile Unicode.isWhiteSpace = opening ++ rest := by
  rw [List.dropWhile_append_of_pos h]
  rfl

/-- The text between the marks is the one that is taken. -/
private theorem IsSplit.extract? (h : IsSplit content white text body) :
    extract? content.toList = some text.toList := by
  unfold Frontmatter.extract?
  dsimp only
  rw [h.toList_eq, dropWhile_append_opening h.isWhiteSpace,
    if_pos (List.isPrefixOf_iff_prefix.mpr (List.prefix_append _ _)), List.drop_left]
  exact beforeClosing?_eq_some_iff.mpr ⟨body.toList, rfl, h.unclosed⟩

/-- A note from which a text is taken is split around this text. -/
private theorem exists_isSplit (h : extract? content.toList = some text.toList) :
    ∃ white body, IsSplit content white text body := by
  unfold Frontmatter.extract? at h
  dsimp only at h
  split at h
  · rename_i hopening
    -- what follows the dashes is split at the closing mark
    obtain ⟨rest, hrest⟩ := List.isPrefixOf_iff_prefix.mp hopening
    rw [← hrest, List.drop_left] at h
    obtain ⟨body, rfl, hunclosed⟩ := beforeClosing?_eq_some_iff.mp h
    refine ⟨String.ofList (content.toList.takeWhile Unicode.isWhiteSpace), String.ofList body,
      ?_, ?_, hunclosed⟩
    -- the white space that was dropped stands in front again
    · apply String.toList_injective
      have hsplit : content.toList.takeWhile Unicode.isWhiteSpace ++
          (opening ++ (text.toList ++ (closing ++ body))) = content.toList := by
        rw [hrest, List.takeWhile_append_dropWhile]
      exact hsplit.symm.trans (by simp [opening, closing])
    · intro c hc
      rw [String.toList_ofList] at hc
      exact List.all_eq_true.mp List.all_takeWhile c hc
  · cases h

/-- A note is split in one way at most. -/
private theorem IsSplit.unique {white' text' body' : String} (h : IsSplit content white text body)
    (h' : IsSplit content white' text' body') : white = white' ∧ text = text' ∧ body = body' := by
  -- the text is what is taken from the note, and that does not depend on the split
  have htext : text = text' := by
    apply String.toList_injective
    rw [← Option.some.injEq, ← h.extract?, ← h'.extract?]
  subst htext
  have hdrop : content.toList.dropWhile Unicode.isWhiteSpace =
      opening ++ (text.toList ++ (closing ++ body.toList)) := by
    rw [h.toList_eq, dropWhile_append_opening h.isWhiteSpace]
  -- what follows the white space is the same, so the bodies are, and the white space is
  have hrest := hdrop
  rw [h'.toList_eq, dropWhile_append_opening h'.isWhiteSpace] at hrest
  simp only [List.append_cancel_left_eq] at hrest
  have hbody : body = body' := String.toList_injective hrest.symm
  subst hbody
  have hwhite := h.toList_eq.symm.trans h'.toList_eq
  exact ⟨String.toList_injective (List.append_cancel_right hwhite), rfl, rfl⟩

/-- The document of a note is written between its marks. -/
private theorem document?_toUTF8 (content : String) :
    document? content.toUTF8 =
      (extract? content.toList).bind fun text => parse? (String.ofList text) := by
  have hread : String.fromUTF8? content.toUTF8 = some content := by
    show String.fromUTF8? content.toByteArray = some content
    rw [String.fromUTF8?, dif_pos content.isValidUTF8]
    rfl
  unfold document?
  rw [hread]
  rfl

/-- The document of a note is read from the text between its marks. -/
theorem IsSplit.document? (h : IsSplit content white text body) :
    document? content.toUTF8 = parse? text := by
  rw [document?_toUTF8, h.extract?, Option.bind_some, String.ofList_toList]

/-- The text that is taken from a note is the one between white space with an opening mark and a
    closing mark, with no such mark inside; white space and body are those of the only such split.
    The document of a file with such a content is that of the text, whatever the white space and the
    body are. -/
theorem frontmatter_split (content text : String) :
    (extract? content.toList = some text.toList ↔
        ∃ white body, IsSplit content white text body) ∧
      (∀ white body white' text' body', IsSplit content white text body →
        IsSplit content white' text' body' → white = white' ∧ text = text' ∧ body = body') ∧
      ∀ (files : FileSystem) (path : Path) (white body : String),
        IsSplit content white text body → files.read? path = some content.toUTF8 →
        (files.read? path).bind Frontmatter.document? = parse? text := by
  refine ⟨⟨exists_isSplit, ?_⟩, ?_, ?_⟩
  · rintro ⟨white, body, h⟩
    exact h.extract?
  · intro white body white' text' body' h h'
    exact h.unique h'
  · intro files path white body h hread
    rw [hread, Option.bind_some]
    exact h.document?

/-- A note whose text ends with a line feed, and whose body has marks of its own. -/
def memo : String := "\u00a0\n" ++ "---" ++ "\na: b\n" ++ "\n---" ++ "\n---\nc: d\n---"

/-- The second mark in the note is the one behind the text, which ends with a line feed. -/
private theorem isSplit_memo : IsSplit memo "\u00a0\n" "\na: b\n" "\n---\nc: d\n---" where
  content_eq := by rw [memo]
  isWhiteSpace := List.all_eq_true.mp rfl
  unclosed := by simp [List.infix_cons_iff]

/-- The file system with this note only. -/
def desk : FileSystem := ⟨.directory [("n", .file memo.toUTF8)], []⟩

/-- The text between the first marks is taken, and its document is read from the file. -/
theorem frontmatter_split_memo :
    extract? memo.toList = some "\na: b\n".toList ∧
      ∃ document, (desk.read? ⟨"/n"⟩).bind Frontmatter.document? = some document ∧
        document.chars = "\x7b\"a\":\"b\"\x7d".toList := by
  obtain ⟨htext, -, hdocument⟩ := frontmatter_split memo "\na: b\n"
  have hread : desk.read? ⟨"/n"⟩ = some memo.toUTF8 := rfl
  have hparse : (parse? "\na: b\n").any
      (fun document => document.chars == "\x7b\"a\":\"b\"\x7d".toList) = true := by
    decide +kernel
  obtain ⟨document, hsome, hchars⟩ := Option.any_eq_true _ _ |>.mp hparse
  refine ⟨htext.mpr ⟨_, _, isSplit_memo⟩, document, ?_, beq_iff_eq.mp hchars⟩
  rw [hdocument desk _ _ _ isSplit_memo hread, hsome]

end Sift.Frontmatter

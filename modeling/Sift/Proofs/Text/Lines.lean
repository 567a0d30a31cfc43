import Sift.Text.Lines

/-!
# Lines of an input

Lines are read byte by byte, and a line feed and a carriage return before it are cut off.  Where
white space around a line does not matter, that is the same as splitting the bytes at every line
feed and taking what each piece names (`name?`), as long as the pieces are UTF-8: the reading stops
at the first that is not (`filter_map_trim_lines`).
-/

namespace Sift.Text

/-! ## White space around a line -/

/-- White space behind a text does not count. -/
private theorem trim_append (text : List Char) {blanks : List Char}
    (h : ∀ c ∈ blanks, Unicode.isWhiteSpace c = true) : trim (text ++ blanks) = trim text := by
  unfold trim
  rw [List.dropWhile_append]
  split
  · -- there is nothing but white space
    rename_i hempty
    have hblanks : (blanks ++ []).dropWhile Unicode.isWhiteSpace = [] :=
      List.dropWhile_append_of_pos h
    rw [List.append_nil] at hblanks
    rw [List.isEmpty_iff.mp hempty, hblanks]
  · have hreverse : ∀ c ∈ blanks.reverse, Unicode.isWhiteSpace c = true := fun c hc =>
      h c (List.mem_reverse.mp hc)
    rw [List.reverse_append, List.dropWhile_append_of_pos hreverse]

/-- The end of a line is white space, so it does not count either. -/
private theorem trim_withoutEnd (line : List Char) : trim (withoutEnd line) = trim line := by
  unfold withoutEnd
  -- both characters of a line end are white space
  have hreturn : Unicode.isWhiteSpace '\r' = true := by decide
  have hfeed : Unicode.isWhiteSpace '\n' = true := by decide
  split
  · rename_i rest heq
    have hline : line = rest.reverse ++ ['\r', '\n'] := by
      rw [← List.reverse_reverse line, heq]
      simp
    rw [hline, trim_append]
    simp [hreturn, hfeed]
  · rename_i rest _ heq
    have hline : line = rest.reverse ++ ['\n'] := by
      rw [← List.reverse_reverse line, heq]
      simp
    rw [hline, trim_append]
    simp [hfeed]
  · rfl

/-! ## Bytes of a text -/

/-- Bytes are a text exactly if they encode its characters. -/
private theorem fromUTF8?_eq_some_iff {bytes : List UInt8} {text : String} :
    String.fromUTF8? ⟨bytes.toArray⟩ = some text ↔
      bytes = text.toList.flatMap String.utf8EncodeChar := by
  -- a text is its characters, each in its bytes
  have hencode : text.toByteArray = ⟨(text.toList.flatMap String.utf8EncodeChar).toArray⟩ := by
    rw [← String.utf8Encode_toList]
    exact ByteArray.ext List.data_toByteArray
  constructor
  · intro h
    unfold String.fromUTF8? at h
    split at h
    · have hbytes : (⟨bytes.toArray⟩ : ByteArray) = text.toByteArray := by
        rw [← Option.some.inj h]
        rfl
      rw [hencode] at hbytes
      exact List.toArray_inj (ByteArray.mk.inj hbytes)
    · cases h
  · intro h
    have hbytes : (⟨bytes.toArray⟩ : ByteArray) = text.toByteArray := by rw [hencode, h]
    rw [hbytes, String.fromUTF8?, dif_pos text.isValidUTF8]
    rfl

/-- Only the line feed has its byte in it. -/
private theorem eq_of_mem_utf8EncodeChar {c : Char} (h : 10 ∈ String.utf8EncodeChar c) :
    c = '\n' := by
  unfold String.utf8EncodeChar at h
  dsimp only at h
  have hbyte : ∀ n : Nat, (10 : UInt8) = UInt8.ofNat n ↔ 10 = n % 256 := by
    intro n
    rw [← UInt8.toNat_inj]
    rfl
  have hcode : c.val.toNat = 10 := by
    split at h
    · simp only [List.mem_singleton, hbyte] at h
      omega
    · -- all bytes of a longer code are at least 128
      repeat' split at h
      all_goals
        simp only [List.mem_cons, List.not_mem_nil, or_false, hbyte] at h
        omega
  exact Char.ext (UInt32.toNat_inj.mp hcode)

/-- A text whose bytes end with that of a line feed ends with a line feed. -/
private theorem eq_of_append_utf8EncodeChar {bytes front : List UInt8} {c : Char}
    (h : bytes ++ [10] = front ++ String.utf8EncodeChar c) : c = '\n' ∧ bytes = front := by
  have hc : c = '\n' := by
    -- the last byte of a character is that of a line feed, so the character is one
    rcases List.eq_nil_or_concat (String.utf8EncodeChar c) with hcode | ⟨before, byte, hcode⟩
    · exact absurd hcode String.utf8EncodeChar_ne_nil
    · rw [List.concat_eq_append] at hcode
      rw [hcode, ← List.append_assoc] at h
      obtain ⟨-, hbyte⟩ := List.append_inj' h rfl
      apply eq_of_mem_utf8EncodeChar
      rw [hcode, ← hbyte]
      exact List.mem_append_right _ (List.mem_singleton_self _)
  subst hc
  exact ⟨rfl, List.append_cancel_right h⟩

/-- A line feed behind some bytes changes nothing about what they are. -/
private theorem fromUTF8?_append_feed (bytes : List UInt8) :
    String.fromUTF8? ⟨(bytes ++ [10]).toArray⟩ =
      (String.fromUTF8? ⟨bytes.toArray⟩).map (· ++ "\n") := by
  apply Option.ext
  intro text
  rw [fromUTF8?_eq_some_iff, Option.map_eq_some_iff]
  simp only [fromUTF8?_eq_some_iff]
  constructor
  · intro h
    rcases List.eq_nil_or_concat text.toList with hnil | ⟨init, c, hchars⟩
    · rw [hnil] at h
      exact absurd h (List.append_ne_nil_of_right_ne_nil _ (List.cons_ne_nil _ _))
    -- the last character has the line feed as its last byte, so it is the line feed
    · rw [List.concat_eq_append] at hchars
      rw [hchars, List.flatMap_append, List.flatMap_singleton] at h
      obtain ⟨rfl, hbytes⟩ := eq_of_append_utf8EncodeChar h
      refine ⟨String.ofList init, by rw [String.toList_ofList, hbytes], ?_⟩
      apply String.toList_injective
      rw [String.toList_append, String.toList_ofList, hchars]
      rfl
  · rintro ⟨front, rfl, rfl⟩
    rw [String.toList_append, List.flatMap_append]
    rfl

/-! ## Lines -/

/-- Bytes that are a text. -/
def IsUtf8 (bytes : List UInt8) : Prop := (String.fromUTF8? ⟨bytes.toArray⟩).isSome = true

instance (bytes : List UInt8) : Decidable (IsUtf8 bytes) := inferInstanceAs (Decidable (_ = true))

/-- What a line names: its text without white space around it.  A blank line names nothing, and
    neither does one that is not UTF-8. -/
def name? (line : List UInt8) : Option (List Char) :=
  (String.fromUTF8? ⟨line.toArray⟩).bind fun text =>
    if (trim text.toList).isEmpty then none else some (trim text.toList)

/-- Of a line that is UTF-8, what is named stands before what the other lines name. -/
private theorem filterMap_name?_cons {line : List UInt8} {text : String}
    (h : String.fromUTF8? ⟨line.toArray⟩ = some text) (lines : List (List UInt8)) :
    (line :: lines).filterMap name? =
      if (trim text.toList).isEmpty then lines.filterMap name?
      else trim text.toList :: lines.filterMap name? := by
  rw [List.filterMap_cons, name?, h, Option.bind_some]
  cases (trim text.toList).isEmpty <;> rfl

/-- Pieces with a line feed behind each but the last; nothing behind the last line feed is no
    line. -/
def withFeeds : List (List UInt8) → List (List UInt8)
  | [] => []
  | [bytes] => if bytes.isEmpty then [] else [bytes]
  | bytes :: next :: rest => (bytes ++ [10]) :: withFeeds (next :: rest)

/-- The lines of an input are the pieces between its line feeds. -/
private theorem byteLines_eq (bytes : List UInt8) :
    byteLines bytes = withFeeds (bytes.splitOn 10) := by
  -- on the bytes: each goes in front of the first piece, or ends it
  induction bytes with
  | nil => rfl
  | cons byte bytes ih =>
    rw [byteLines, ih, List.splitOn_cons_eq_if_modifyHead]
    cases hpieces : bytes.splitOn 10 with
    | nil => exact absurd hpieces (List.splitOn_ne_nil _ _)
    | cons piece pieces =>
      by_cases hbyte : byte = 10
      · -- a line feed ends a piece and begins the next one
        subst hbyte
        rfl
      · cases pieces with
        | nil => cases piece <;> simp [withFeeds, hbyte]
        | cons next pieces => simp [withFeeds, hbyte]

/-- The lines of an input name what the pieces between its line feeds name, up to the first that is
    not UTF-8. -/
theorem filter_map_trim_lines (content : ByteArray) :
    ((lines content).map trim).filter (!·.isEmpty) =
      ((content.data.toList.splitOn 10).takeWhile (decide <| IsUtf8 ·)).filterMap name? := by
  unfold lines
  rw [byteLines_eq]
  generalize content.data.toList.splitOn 10 = pieces
  -- on the pieces, as the line feeds are put behind them
  induction pieces using withFeeds.induct with
  | case1 => rfl
  | case2 bytes hempty =>
    -- no line, and a blank piece
    rw [withFeeds, if_pos hempty, List.isEmpty_iff.mp hempty]
    rfl
  | case3 bytes hempty =>
    rw [withFeeds, if_neg hempty, readableLines, List.takeWhile_cons]
    -- a piece that is not UTF-8 ends the reading on both sides
    cases hbytes : String.fromUTF8? ⟨bytes.toArray⟩ with
    | none => simp [IsUtf8, hbytes]
    | some text =>
      have hutf8 : decide (IsUtf8 bytes) = true := by simp [IsUtf8, hbytes]
      rw [if_pos hutf8, filterMap_name?_cons hbytes]
      simp only [readableLines, List.map_cons, List.map_nil, trim_withoutEnd, List.takeWhile_nil,
        List.filterMap_nil, List.filter_cons, List.filter_nil]
      cases (trim text.toList).isEmpty <;> rfl
  | case4 bytes next rest ih =>
    have hfeed : ∀ c ∈ ['\n'], Unicode.isWhiteSpace c = true := by
      intro c hc
      rw [List.mem_singleton.mp hc]
      rfl
    rw [withFeeds, readableLines, fromUTF8?_append_feed, List.takeWhile_cons]
    cases hbytes : String.fromUTF8? ⟨bytes.toArray⟩ with
    | none => simp [IsUtf8, hbytes]
    | some text =>
      have hutf8 : decide (IsUtf8 bytes) = true := by simp [IsUtf8, hbytes]
      have htrim : trim (withoutEnd (text ++ "\n").toList) = trim text.toList := by
        rw [trim_withoutEnd, String.toList_append]
        exact trim_append _ hfeed
      rw [if_pos hutf8, filterMap_name?_cons hbytes, Option.map_some, List.map_cons, htrim,
        List.filter_cons, ih]
      cases (trim text.toList).isEmpty <;> rfl

end Sift.Text

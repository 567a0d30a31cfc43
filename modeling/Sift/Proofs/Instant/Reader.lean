import Sift.Instant.Reader

/-!
# Texts that are no instants

Days and timestamps both have a hyphen behind their year, and a year has at least one character.
So a text that has no hyphen behind its first character stands for no instant
(`read?_eq_none_of_hyphen`).  The argument follows the text that each reader leaves, which is
always an end of the text it was given.
-/

namespace Sift.Instant

variable {cs rest : List Char} {n : Nat}

/-! ## What the readers leave -/

/-- Dropping some characters, but not none, leaves an end of the tail. -/
private theorem drop_suffix_tail {count : Nat} (h : count ≠ 0) : cs.drop count <:+ cs.tail := by
  obtain ⟨count, rfl⟩ := Nat.exists_eq_succ_of_ne_zero h
  rw [← List.drop_tail]
  exact List.drop_suffix _ _

/-- A number has at least one character. -/
private theorem upTo_suffix {most : Nat} (h : upTo most cs = some (n, rest)) :
    rest <:+ cs.tail := by
  unfold upTo at h
  split at h
  · cases h
  · rename_i hne
    obtain ⟨-, rfl⟩ := Prod.mk.inj (Option.some.inj h)
    exact drop_suffix_tail fun hzero => hne (List.length_eq_zero_iff.mp hzero)

/-- A number of fixed width has at least one character too. -/
private theorem exactly_suffix {count : Nat} (hcount : count ≠ 0)
    (h : exactly count cs = some (n, rest)) : rest <:+ cs.tail := by
  simp only [exactly] at h
  split at h
  · obtain ⟨-, rfl⟩ := Prod.mk.inj (Option.some.inj h)
    exact drop_suffix_tail hcount
  · cases h

/-- A year has at least one character behind its sign. -/
private theorem year_suffix {y : Int} (h : year cs = some (y, rest)) : rest <:+ cs.tail := by
  unfold year at h
  split at h <;> obtain ⟨⟨n, back⟩, hread, heq⟩ := Option.map_eq_some_iff.mp h <;>
    obtain ⟨-, rfl⟩ := Prod.mk.inj heq
  · -- a sign goes before the digits
    exact (upTo_suffix hread).trans (List.tail_suffix _)
  · exact (upTo_suffix hread).trans (List.tail_suffix _)
  · exact upTo_suffix hread

/-- A mark that is nowhere in the text is not read. -/
private theorem mark_eq_none {c : Char} (h : c ∉ cs) : mark c cs = none := by
  cases cs with
  | nil => rfl
  | cons c' rest =>
    have hne : c' ≠ c := by
      rintro rfl
      exact h List.mem_cons_self
    simp [mark, hne]

/-! ## Texts without a hyphen -/

/-- Blanks before the year move its end further to the right. -/
private theorem year_skipBlank_suffix {y : Int} (h : year (skipBlank cs) = some (y, rest)) :
    rest <:+ cs.tail := by
  cases cs with
  | nil => exact year_suffix h
  | cons c cs =>
    by_cases hc : Unicode.isWhiteSpace c = true
    · -- the year begins further to the right
      have hskip : skipBlank (c :: cs) = skipBlank cs := List.dropWhile_cons_of_pos hc
      rw [hskip] at h
      exact (year_suffix h).trans ((List.tail_suffix _).trans (List.dropWhile_suffix _))
    · have hskip : skipBlank (c :: cs) = c :: cs := List.dropWhile_cons_of_neg hc
      rw [hskip] at h
      exact year_suffix h

/-- A text without a hyphen behind its first character is no day. -/
private theorem day?_eq_none_of_hyphen (h : '-' ∉ cs.tail) : day? cs = none := by
  unfold day?
  cases hyear : year (skipBlank cs) with
  | none => rfl
  | some p =>
    obtain ⟨y, rest⟩ := p
    -- a hyphen behind the year would be a hyphen behind the first character
    have hmark := mark_eq_none fun hmem => h ((year_skipBlank_suffix hyear).mem hmem)
    show (mark '-' rest).bind _ = none
    rw [hmark, Option.bind_none]

/-- Nor is it a timestamp, whose year has four digits. -/
private theorem timestamp?_eq_none_of_hyphen (h : '-' ∉ cs.tail) : timestamp? cs = none := by
  unfold timestamp?
  cases hyear : exactly 4 cs with
  | none => rfl
  | some p =>
    obtain ⟨y, rest⟩ := p
    have hmark := mark_eq_none fun hmem => h ((exactly_suffix (by decide) hyear).mem hmem)
    show (mark '-' rest).bind _ = none
    rw [hmark, Option.bind_none]

/-- A text without a hyphen behind its first character stands for no instant. -/
theorem read?_eq_none_of_hyphen {text : String} (h : '-' ∉ text.toList.tail) :
    read? text = none := by
  simp [read?, day?_eq_none_of_hyphen h, timestamp?_eq_none_of_hyphen h]

end Sift.Instant

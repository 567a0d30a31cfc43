import Sift.Filter.Compile
import Sift.Proofs.Filter.DocumentId
import Sift.Proofs.Instant.Shift
import Sift.Proofs.Matcher.Field

/-!
# Documents with an identifier

The matcher of an identifier compares texts: the one in a document, in lower case, with the digits
of the identifier.  That is to compare bytes, since a text is read as the identifier whose digits it
has in either case, so the documents it accepts are those whose own text is read as the same
identifier (`hasId_iff`).
-/

namespace Sift

/-! ## The text in a document -/

open Json (Along)

/-- A single name leads to a member of an object. -/
private theorem Json.along_singleton_iff {name : String} {document value : Json} :
    Along [name] document value ↔ document.member? name = some value := by
  rw [← Matcher.lookup?_eq_some_iff, Matcher.lookup?]
  cases document.member? name with
  | none => simp
  | some inner => simp [Matcher.lookup?]

/-- A document is an object whose identifier is written as a text: a string, or an object with the
    string in it. -/
def Json.IdText (document : Json) (text : String) : Prop :=
  ∃ value, Along ["_id"] document value ∧
    (value = .string text ∨ Along ["$oid"] value (.string text))

namespace Matcher

/-- The text of an identifier is a string, or one in an object. -/
private theorem idText?_eq_some_iff {value : Json} {text : String} :
    idText? value = some text ↔ value = .string text ∨ Along ["$oid"] value (.string text) := by
  rw [Json.along_singleton_iff]
  cases value with
  | string s => simp [idText?, Json.member?]
  | object members =>
    -- an object is no string, so only its member counts
    rw [idText?]
    · split
      · rename_i s hmember
        simp [hmember]
      · rename_i hmember
        have hnone : Json.member? "$oid" (.object members) ≠ some (.string text) := hmember text
        simp [hnone]
    · simp
  | _ => simp [idText?, Json.member?]

/-- The text of a document's identifier, by the functions that find it. -/
private theorem idText_iff {document : Json} {text : String} :
    document.IdText text ↔
      ∃ value, document.member? "_id" = some value ∧ idText? value = some text := by
  unfold Json.IdText
  exact exists_congr fun _ => and_congr Json.along_singleton_iff idText?_eq_some_iff.symm

/-- A document is accepted exactly if its own text is read as the same identifier. -/
private theorem hasId_iff {id : DocumentId} {document : Json} :
    hasId id document = true ↔
      ∃ text, document.IdText text ∧ DocumentId.ofHex? text = some id := by
  -- texts are compared by their characters, in lower case
  have htext : ∀ text : String, (text.toList.map Char.toLower == id.hex.toList) = true ↔
      DocumentId.ofHex? text = some id := by
    intro text
    rw [DocumentId.ofHex?_eq_some_iff, beq_iff_eq, ← String.toList_inj,
      DocumentId.toList_toLower]
  simp only [idText_iff]
  unfold hasId
  cases document.member? "_id" with
  | none => simp
  | some value =>
    cases hvalue : idText? value with
    | none => simp [hvalue]
    | some text => simp [hvalue, htext]

end Matcher

/-! ## Terms on the identifier -/

namespace DocumentId

/-- A text is taken for an identifier exactly if it is read as one. -/
theorem parse_eq_ok_iff {text : String} {id : DocumentId} :
    parse text = .ok id ↔ ofHex? text = some id := by
  unfold parse
  cases ofHex? text <;> simp

end DocumentId

/-- The digits of an identifier are read back as the identifier.  A text is read exactly if it is
    made of 24 hexadecimal digits of ASCII, and the digits of what it is read as are the text in
    lower case.  A term on the identifier with such a text has, whatever its operator, a filter that
    accepts the documents with the same identifier: objects under whose `_id` there is a string, or
    an object with a string under `$oid`, that is read as the same bytes. -/
theorem identifiers_match_by_bytes :
    (∀ id : DocumentId, DocumentId.parse id.hex = .ok id) ∧
      (∀ text, (∃ id, DocumentId.parse text = .ok id) ↔ DocumentId.IsHex text) ∧
      (∀ text id, DocumentId.parse text = .ok id → id.hex = text.toLower) ∧
      ∀ (rule : Rule) (now : Instant) (operator : Operator) (value : Value),
        DocumentId.IsHex value.source →
          ∃ id matcher, DocumentId.parse value.source = .ok id ∧
            Filter.ofTerm rule now ⟨some Filter.idField, operator, value⟩ = .ok (.id id) ∧
            Matcher.ofFilter (.id id) = .ok matcher ∧
            ∀ document, matcher.accepts document = true ↔
              ∃ text, document.IdText text ∧ DocumentId.parse text = .ok id := by
  simp only [DocumentId.parse_eq_ok_iff]
  refine ⟨DocumentId.ofHex?_hex, fun _ => DocumentId.exists_ofHex?_iff, ?_, ?_⟩
  · intro text id h
    exact (DocumentId.ofHex?_eq_some_iff.mp h).symm
  · intro rule now operator value hhex
    -- the operator and the kind of the value do not matter, only its text
    obtain ⟨id, hid⟩ := DocumentId.exists_ofHex?_iff.mpr hhex
    have hparse : DocumentId.parse value.source = .ok id := DocumentId.parse_eq_ok_iff.mpr hid
    have hfilter : Filter.ofTerm rule now ⟨some Filter.idField, operator, value⟩ =
        .ok (.id id) := by
      simp [Filter.ofTerm, Filter.ofFullTerm, hparse]
    refine ⟨id, .id id, hid, hfilter, rfl, fun document => ?_⟩
    rw [Matcher.accepts, Matcher.hasId_iff]

/-- An identifier of decimal digits, which is a number elsewhere, and one with letters that stand in
    upper case in the document. -/
theorem identifiers_match_by_bytes_upper_case :
    (∃ id, Filter.ofTerm ⟨[], [], []⟩ .noon
        ⟨some "id", .gt, .number .nan "123456789012345678901234"⟩ = .ok (.id id)) ∧
      ∃ id matcher, Filter.ofTerm ⟨[], [], ["id"]⟩ .noon
          ⟨some "id", .regex, .text "507f1f77bcf86cd799439011"⟩ = .ok (.id id) ∧
        Matcher.ofFilter (.id id) = .ok matcher ∧
        matcher.accepts (.object [("_id", .object
          [("$oid", .string "507F1F77BCF86CD799439011")])]) = true := by
  obtain ⟨-, hread, -, hterms⟩ := identifiers_match_by_bytes
  refine ⟨?_, ?_⟩
  · obtain ⟨id, -, -, hfilter, -⟩ := hterms ⟨[], [], []⟩ .noon .gt
      (.number .nan "123456789012345678901234") ((hread _).mp ⟨_, rfl⟩)
    exact ⟨id, hfilter⟩
  · obtain ⟨id, matcher, hparse, hfilter, hmatcher, haccepts⟩ := hterms ⟨[], [], ["id"]⟩ .noon
      .regex (.text "507f1f77bcf86cd799439011") ((hread _).mp ⟨_, rfl⟩)
    refine ⟨id, matcher, hfilter, hmatcher, (haccepts _).mpr ?_⟩
    exact ⟨_, ⟨_, .member rfl (.here _), .inr (.member rfl (.here _))⟩, hparse⟩

end Sift

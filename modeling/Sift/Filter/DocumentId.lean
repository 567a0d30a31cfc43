import Sift.Text.Digits

/-! # Identifiers of documents

Documents are identified by twelve bytes, written as 24 hexadecimal digits. -/

namespace Sift

/-- The identifier of a document. -/
structure DocumentId where
  bytes : List UInt8
  length_eq : bytes.length = 12
  deriving DecidableEq

namespace DocumentId

open Text (hexDigitValue?)

/-- The bytes that pairs of hexadecimal digits write. -/
def readBytes? : List Char → Option (List UInt8)
  | [] => some []
  | [_] => none
  | high :: low :: rest => do
    let h ← hexDigitValue? high
    let l ← hexDigitValue? low
    let bytes ← readBytes? rest
    some (.ofNat (16 * h + l) :: bytes)

/-- The identifier that 24 hexadecimal digits write, in either case. -/
def ofHex? (text : String) : Option DocumentId := do
  let bytes ← readBytes? text.toList
  if h : bytes.length = 12 then some ⟨bytes, h⟩ else none

/-- The two digits of a byte. -/
def byteChars (byte : UInt8) : List Char :=
  [Nat.digitChar (byte.toNat / 16), Nat.digitChar (byte.toNat % 16)]

/-- The 24 digits of an identifier, in lower case. -/
def hex (id : DocumentId) : String := String.ofList (id.bytes.flatMap byteChars)

end DocumentId

end Sift

import Sift.Unicode.Property

/-! # Lines of a file

The lines of a file are read up to the first that is not UTF-8.  A carriage return before a line
feed belongs to the end of the line. -/

namespace Sift.Text

/-- Cuts bytes behind each line feed. -/
def byteLines : List UInt8 → List (List UInt8)
  | [] => []
  | byte :: rest =>
    if byte == 10 then [byte] :: byteLines rest
    else match byteLines rest with
      | [] => [[byte]]
      -- the byte belongs to the first of the lines that follow it
      | line :: lines => (byte :: line) :: lines

/-- A line without its end. -/
def withoutEnd (line : List Char) : List Char :=
  match line.reverse with
  | '\n' :: '\r' :: rest => rest.reverse
  | '\n' :: rest => rest.reverse
  | _ => line

/-- The first lines, as far as they are UTF-8. -/
def readableLines : List (List UInt8) → List (List Char)
  | [] => []
  | bytes :: rest =>
    match String.fromUTF8? ⟨bytes.toArray⟩ with
    | some line => withoutEnd line.toList :: readableLines rest
    | none => []

/-- A text without white space around it. -/
def trim (text : List Char) : List Char :=
  ((text.dropWhile Unicode.isWhiteSpace).reverse.dropWhile Unicode.isWhiteSpace).reverse

/-- The lines of a file. -/
def lines (content : ByteArray) : List (List Char) := readableLines (byteLines content.data.toList)

end Sift.Text

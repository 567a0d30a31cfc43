import Sift.Unicode.Property

/-! # Quoted text

Messages show text between double quotes.  Control characters, characters without a shape of
their own and marks that would attach to the quote are shown by their code. -/

namespace Sift.Text

/-- The code of a character, as `\u` and lower-case hexadecimal digits between braces. -/
def codeEscape (c : Char) : List Char :=
  ['\\', 'u', '\x7b'] ++ Nat.toDigits 16 c.toNat ++ ['\x7d']

/-- How a character is shown inside quotes. -/
def quotedChar (c : Char) : List Char :=
  match c with
  | '\x00' => ['\\', '0']
  | '\t' => ['\\', 't']
  | '\r' => ['\\', 'r']
  | '\n' => ['\\', 'n']
  | '\\' => ['\\', '\\']
  | '"' => ['\\', '"']
  | c =>
    if 0x20 ≤ c.toNat ∧ c.toNat < 0x7f then [c]
    else if Unicode.isGraphemeExtend c || !Unicode.isPrintable c then codeEscape c
    else [c]

/-- A text between double quotes. -/
def quoted (text : String) : String :=
  String.ofList ('"' :: text.toList.flatMap quotedChar ++ ['"'])

end Sift.Text

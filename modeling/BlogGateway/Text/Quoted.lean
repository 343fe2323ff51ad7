/-
Quoted texts inside messages.

A message that shows a text from outside puts it between double quotes, with a backslash
before quotes and backslashes, letters for the usual control characters, and the number of
every other character that has no visible form.
-/
import BlogGateway.Text.Unseen

namespace BlogGateway.Text

/-- The lower-case hexadecimal digits of a number, without leading zeros. -/
def hexDigits (n : Nat) : List Char := Nat.toDigits 16 n

/-- How a character that is no quote is shown between quotes. -/
def shownPlainly (c : Char) : List Char :=
  match c with
  | '\\' => ['\\', '\\']
  | '\n' => ['\\', 'n']
  | '\r' => ['\\', 'r']
  | '\t' => ['\\', 't']
  | '\x00' => ['\\', '0']
  | c =>
    if c.toNat < 0x20 || c.toNat = 0x7F || (0x7F < c.toNat && isUnseen c) then
      ['\\', 'u', '\x7b'] ++ hexDigits c.toNat ++ ['\x7d']
    else [c]

/-- How one character is shown between the given quotes. -/
def shownAs (quote c : Char) : List Char := if c = quote then ['\\', c] else shownPlainly c

/-- A text as a message shows it. -/
def quoted (text : String) : String :=
  String.ofList ('"' :: text.toList.flatMap (shownAs '"') ++ ['"'])

/-- A single character as a message shows it. -/
def quotedChar (c : Char) : String := String.ofList ('\'' :: shownAs '\'' c ++ ['\''])

end BlogGateway.Text

/-
Whole numbers as people write them in settings.

A number is decimal digits, perhaps after a plus sign.  Digits are read from the left, and
the first that makes the number too large or is no digit decides what is wrong with it.
-/
import BlogGateway.Text.Pieces

namespace BlogGateway.Text

/-- Why a text is no whole number within a limit. -/
inductive WholeError
  | empty
  | notDigit
  | tooLarge
  deriving DecidableEq, Repr

/-- The text of an error. -/
def WholeError.message : WholeError → String
  | .empty => "cannot parse integer from empty string"
  | .notDigit => "invalid digit found in string"
  | .tooLarge => "number too large to fit in target type"

/-- Reads digits into a number that may not exceed a limit. -/
def readWholeDigits (limit acc : Nat) : List Char → Except WholeError Nat
  | [] => .ok acc
  | c :: s =>
    if !isDigit c then .error .notDigit
    else
      let acc := acc * 10 + (c.toNat - '0'.toNat)
      if limit < acc then .error .tooLarge else readWholeDigits limit acc s

/-- Reads a whole number that may not exceed a limit. -/
def readWhole (limit : Nat) (text : String) : Except WholeError Nat :=
  match text.toList with
  | [] => .error .empty
  | ['+'] => .error .notDigit
  | '+' :: digits => readWholeDigits limit 0 digits
  | digits => readWholeDigits limit 0 digits

end BlogGateway.Text

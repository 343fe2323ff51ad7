/-
Crossing a JSON value without decoding it.

Arguments, parameters and operation bodies are kept as the text they arrived in, because
that text is what was signed.  A scan finds where a value ends and checks that it is JSON,
and does nothing else: it neither pairs surrogates nor bounds numbers, and it carries the
open containers in a list, so that no depth is too deep for it.

The scan takes one byte at a time.  `Place` says what may come next, and `scan` returns what
follows the value.
-/
import BlogGateway.Bytes
import BlogGateway.Json.Error

namespace BlogGateway.Json

open Ascii

/-- The bytes that may stand between tokens. -/
def isSpace (b : UInt8) : Bool := b == 0x20 || b == 0x0A || b == 0x09 || b == 0x0D

/-- What is left after leading white space. -/
def skipSpace (s : Bytes) : Bytes := s.dropWhile isSpace

/-- The two kinds of container. -/
inductive Container
  | list
  | object
  deriving DecidableEq, Repr

/-- How far a scan has got inside a number. -/
inductive NumberPart
  | sign
  /-- After a leading zero, which no digit may follow. -/
  | zero
  | whole
  | point
  | fraction
  | mark
  | markSign
  | power
  deriving DecidableEq, Repr

/-- What one more byte does to a number. -/
inductive NumberStep
  | more (part : NumberPart)
  /-- The number ended before this byte. -/
  | ended
  | broken
  deriving DecidableEq, Repr

/-- The step of a number over one byte. -/
def NumberPart.step (part : NumberPart) (b : UInt8) : NumberStep :=
  match part with
  | .sign => if b = 0x30 then .more .zero else if isDigit b then .more .whole else .broken
  | .zero =>
    if isDigit b then .broken
    else if b = Ascii.point then .more .point
    else if b = lowerE || b = upperE then .more .mark
    else .ended
  | .whole =>
    if isDigit b then .more .whole
    else if b = Ascii.point then .more .point
    else if b = lowerE || b = upperE then .more .mark
    else .ended
  | .point => if isDigit b then .more .fraction else .broken
  | .fraction =>
    if isDigit b then .more .fraction
    else if b = lowerE || b = upperE then .more .mark
    else .ended
  | .mark =>
    if isDigit b then .more .power
    else if b = plus || b = minus then .more .markSign
    else .broken
  | .markSign => if isDigit b then .more .power else .broken
  | .power => if isDigit b then .more .power else .ended

/-- Whether a number may end here. -/
def NumberPart.complete : NumberPart → Bool
  | .zero | .whole | .fraction | .power => true
  | .sign | .point | .mark | .markSign => false

/-- How far a scan has got inside a string. -/
inductive TextPart
  | plain
  /-- After a backslash. -/
  | escape
  /-- Inside the four digits of a numeric escape: how many are left, and whether all so far
  were digits.  The verdict falls after the fourth byte. -/
  | digits (left : Nat) (good : Bool)
  deriving DecidableEq, Repr

/-- What a scan expects next. -/
inductive Place
  /-- A value must begin. -/
  | value
  /-- Just inside the innermost container: its end, or its first entry. -/
  | opened
  /-- A value has ended. -/
  | ended
  /-- The key of a member must begin. -/
  | key
  | colon
  /-- Inside a word, with the bytes of it that are still to come. -/
  | word (left : Bytes)
  /-- Inside a string, which is a key or a value. -/
  | text (isKey : Bool) (part : TextPart)
  | number (part : NumberPart)
  deriving DecidableEq, Repr

/-- Where a scan goes from a byte that begins a value. -/
def beginValue (outer : List Container) (b : UInt8) :
    Except SyntaxError (List Container × Place) :=
  if b = openBracket then .ok (.list :: outer, .opened)
  else if b = openBrace then .ok (.object :: outer, .opened)
  else if b = quote then .ok (outer, .text false .plain)
  else if b = minus then .ok (outer, .number .sign)
  else if b = 0x30 then .ok (outer, .number .zero)
  else if isDigit b then .ok (outer, .number .whole)
  else if b = lowerN then .ok (outer, .word [0x75, 0x6C, 0x6C])
  else if b = lowerT then .ok (outer, .word [0x72, 0x75, 0x65])
  else if b = lowerF then .ok (outer, .word [0x61, 0x6C, 0x73, 0x65])
  else .error .expectedValue

/-- Where a scan goes from a byte that follows a value inside a container. -/
def afterEntry (inner : Container) (outer : List Container) (b : UInt8) :
    Except SyntaxError (List Container × Place) :=
  match inner with
  | .list =>
    if b = comma then .ok (.list :: outer, .value)
    else if b = closeBracket then .ok (outer, .ended)
    else .error .expectedCommaOrBracket
  | .object =>
    if b = comma then .ok (.object :: outer, .key)
    else if b = closeBrace then .ok (outer, .ended)
    else .error .expectedCommaOrBrace

/-- Where a scan goes from a byte of a string. -/
def TextPart.step (isKey : Bool) (part : TextPart) (b : UInt8) : Except SyntaxError Place :=
  match part with
  | .plain =>
    if b = quote then .ok (if isKey then .colon else .ended)
    else if b = backslash then .ok (.text isKey .escape)
    else if b < 0x20 then .error .controlCharacter
    else .ok (.text isKey .plain)
  | .escape =>
    if b = lowerU then .ok (.text isKey (.digits 4 true))
    else if b = quote || b = backslash || b = slash || b = lowerB || b = lowerF || b = lowerN
        || b = lowerR || b = lowerT then .ok (.text isKey .plain)
    else .error .invalidEscape
  | .digits left good =>
    let good := good && (hexValue? b).isSome
    if 1 < left then .ok (.text isKey (.digits (left - 1) good))
    else if good then .ok (.text isKey .plain)
    else .error .invalidEscape

/-- The step of a scan over one byte, outside numbers and outside the top level. -/
def Place.step (stack : List Container) (place : Place) (b : UInt8) :
    Except SyntaxError (List Container × Place) :=
  match place with
  | .value => if isSpace b then .ok (stack, .value) else beginValue stack b
  | .opened =>
    if isSpace b then .ok (stack, .opened)
    else match stack with
      | .list :: outer => if b = closeBracket then .ok (outer, .ended) else beginValue stack b
      | .object :: outer =>
        if b = closeBrace then .ok (outer, .ended)
        else if b = quote then .ok (stack, .text true .plain)
        else .error .keyNotString
      | [] => .error .expectedValue
  | .ended =>
    if isSpace b then .ok (stack, .ended)
    else match stack with
      | inner :: outer => afterEntry inner outer b
      | [] => .error .trailingCharacters
  | .key =>
    if isSpace b then .ok (stack, .key)
    else if b = quote then .ok (stack, .text true .plain)
    else .error .keyNotString
  | .colon =>
    if isSpace b then .ok (stack, .colon)
    else if b = Ascii.colon then .ok (stack, .value)
    else .error .expectedColon
  | .word left =>
    match left with
    | [] => .error .expectedWord
    | [last] => if b = last then .ok (stack, .ended) else .error .expectedWord
    | next :: rest => if b = next then .ok (stack, .word rest) else .error .expectedWord
  | .text isKey part => (part.step isKey b).map (stack, ·)
  | .number _ => .error .invalidNumber

/-- The error of a text that ends inside the given containers after a value. -/
def endInside : List Container → SyntaxError
  | .object :: _ => .endInObject
  | _ => .endInList

/-- What a text that ends here amounts to: the end of a number at the top level, or an error. -/
def Place.atEnd (stack : List Container) : Place → Except SyntaxError Bytes
  | .value => .error .endInValue
  | .opened => .error (endInside stack)
  | .ended => match stack with
    | [] => .ok []
    | _ => .error (endInside stack)
  | .key => .error .endInObject
  | .colon => .error .endInObject
  | .word _ => .error .endInValue
  | .text _ _ => .error .endInString
  | .number part =>
    if part.complete then
      match stack with
      | [] => .ok []
      | _ => .error (endInside stack)
    else .error .invalidNumber

/-- Crosses the rest of a value from a place inside it, and returns what follows. -/
def scan (stack : List Container) (place : Place) : Bytes → Except SyntaxError Bytes
  | [] => place.atEnd stack
  | b :: s =>
    match place with
    | .ended =>
      if stack.isEmpty then .ok (b :: s)
      else do
        let (stack, place) ← Place.step stack .ended b
        scan stack place s
    | .number part =>
      match part.step b with
      | .more part => scan stack (.number part) s
      | .broken => .error .invalidNumber
      | .ended =>
        if stack.isEmpty then .ok (b :: s)
        else do
          let (stack, place) ← Place.step stack .ended b
          scan stack place s
    | place => do
      let (stack, place) ← Place.step stack place b
      scan stack place s

/-- Crosses one value, with the white space before it, and returns what follows. -/
def skipValue (s : Bytes) : Except SyntaxError Bytes := scan [] .value s

end BlogGateway.Json

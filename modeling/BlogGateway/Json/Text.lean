/-
JSON strings.

A string is written with an escape for quotes, backslashes and control characters and with
the UTF-8 bytes of everything else.  Reading accepts every escape that JSON has, demands
that surrogate escapes come in pairs, and checks at the closing quote that the bytes in
between are UTF-8.
-/
import BlogGateway.Json.Scan

namespace BlogGateway.Json

open Ascii

/-- The number that four hexadecimal digits spell. -/
def fourDigits? (a b c d : UInt8) : Option Nat := do
  let a ← hexValue? a
  let b ← hexValue? b
  let c ← hexValue? c
  let d ← hexValue? d
  pure (((a.toNat * 16 + b.toNat) * 16 + c.toNat) * 16 + d.toNat)

/-- The byte that a one-letter escape stands for. -/
def shortEscape? (letter : UInt8) : Option UInt8 :=
  if letter = quote || letter = backslash || letter = slash then some letter
  else if letter = lowerB then some 0x08
  else if letter = lowerF then some 0x0C
  else if letter = lowerN then some 0x0A
  else if letter = lowerR then some 0x0D
  else if letter = lowerT then some 0x09
  else none

/-- The first unit of a surrogate pair. -/
def isLeading (unit : Nat) : Bool := 0xD800 ≤ unit && unit ≤ 0xDBFF

/-- The second unit of a surrogate pair. -/
def isTrailing (unit : Nat) : Bool := 0xDC00 ≤ unit && unit ≤ 0xDFFF

/-- Puts the UTF-8 bytes of a code point on top of the bytes read so far, last byte first. -/
def pushCode (code : Nat) (done : Bytes) : Bytes :=
  (String.utf8EncodeChar (Char.ofNat code)).reverse ++ done

/-- Reads the content of a string up to its closing quote.  `done` holds the bytes read so
far, last byte first; the result is the content and what follows the quote. -/
def readContent (done : Bytes) : Bytes → Except SyntaxError (Bytes × Bytes)
  | [] => .error .endInString
  | b :: s =>
    if b = quote then .ok (done.reverse, s)
    else if b = backslash then
      match s with
      | [] => .error .endInString
      | letter :: s =>
        if letter = lowerU then
          match s with
          | a :: b :: c :: d :: s =>
            match fourDigits? a b c d with
            | none => .error .invalidEscape
            | some unit =>
              if isTrailing unit then .error .loneSurrogate
              else if isLeading unit then
                match s with
                | [] => .error .endInString
                | [mark] =>
                  if mark = backslash then .error .endInString else .error .unpairedSurrogate
                | mark :: letter :: s =>
                  if mark = backslash && letter = lowerU then
                    match s with
                    | a :: b :: c :: d :: s =>
                      match fourDigits? a b c d with
                      | none => .error .invalidEscape
                      | some low =>
                        if isTrailing low then
                          readContent
                            (pushCode ((unit - 0xD800) * 0x400 + (low - 0xDC00) + 0x10000) done) s
                        else .error .loneSurrogate
                    | _ => .error .endInString
                  else .error .unpairedSurrogate
              else readContent (pushCode unit done) s
          | _ => .error .endInString
        else match shortEscape? letter with
          | some byte => readContent (byte :: done) s
          | none => .error .invalidEscape
    else if b < 0x20 then .error .controlCharacter
    else readContent (b :: done) s

/-- Reads a string whose opening quote has been taken; returns it with what follows. -/
def readText (s : Bytes) : Except SyntaxError (String × Bytes) := do
  let (content, s) ← readContent [] s
  match content.toText? with
  | some text => .ok (text, s)
  | none => .error .invalidUtf8

/-- How one byte of a text is written between the quotes. -/
def escapeByte (b : UInt8) : Bytes :=
  if b = quote then [backslash, quote]
  else if b = backslash then [backslash, backslash]
  else if b = 0x08 then [backslash, lowerB]
  else if b = 0x0C then [backslash, lowerF]
  else if b = 0x0A then [backslash, lowerN]
  else if b = 0x0D then [backslash, lowerR]
  else if b = 0x09 then [backslash, lowerT]
  else if b < 0x20 then [backslash, lowerU, 0x30, 0x30, hexDigit (b / 16), hexDigit (b % 16)]
  else [b]

/-- A text as a JSON string. -/
def writeText (text : String) : Bytes :=
  quote :: (Bytes.ofText text).flatMap escapeByte ++ [quote]

end BlogGateway.Json

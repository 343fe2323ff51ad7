/-
JSON numbers.

A whole number that fits 64 bits is kept exactly; `-0`, larger numbers and numbers with a
fraction or an exponent become floats.  The float is made of a significand of at most 64
bits and a power of ten, combined by one multiplication or division, so that the last bit is
the one which that arithmetic gives and not always the nearest.
-/
import BlogGateway.Json.Scan

namespace BlogGateway.Json

open Ascii

/-- The largest significand. -/
def significandLimit : Nat := 0xFFFFFFFFFFFFFFFF

/-- Takes digits into a number while it stays within the limit; returns the number, how many
digits went in, and what is left. -/
def absorb (limit : Nat) (acc count : Nat) : Bytes → Nat × Nat × Bytes
  | [] => (acc, count, [])
  | b :: s =>
    if isDigit b then
      let next := acc * 10 + (b - 0x30).toNat
      if limit < next then (acc, count, b :: s) else absorb limit next (count + 1) s
    else (acc, count, b :: s)

/-- The power of ten `10^n` as a float. -/
def powerOfTen (n : Nat) : Float := Float.ofScientific 1 false n

/-- The float `significand * 10^exponent` with a sign.  Beyond 308 the power of ten itself is
no float: large exponents are out of range and small ones are divided out in two steps. -/
def floatOf (negative : Bool) (significand : Nat) (exponent : Int) :
    Except SyntaxError Decimal.Binary64 :=
  let start := Float.ofScientific significand false 0
  let magnitude : Except SyntaxError Float :=
    if 0 ≤ exponent then
      if exponent ≤ 308 then
        let value := start * powerOfTen exponent.toNat
        if value.isInf then .error .numberOutOfRange else .ok value
      else if significand = 0 then .ok 0.0
      else .error .numberOutOfRange
    else if -308 ≤ exponent then .ok (start / powerOfTen exponent.natAbs)
    else if -616 ≤ exponent then .ok (start / powerOfTen 308 / powerOfTen (exponent.natAbs - 308))
    else .ok 0.0
  magnitude.map fun value => ⟨(if negative then -value else value).toBits⟩

/-- Reads an exponent after its mark. -/
def readExponent (negative : Bool) (significand : Nat) (start : Int) (s : Bytes) :
    Except SyntaxError (Number × Bytes) :=
  let (down, s) := match s with
    | b :: t => if b = plus then (false, t) else if b = minus then (true, t) else (false, s)
    | [] => (false, s)
  match s with
  | [] => .error .endInValue
  | b :: _ =>
    if isDigit b then
      match absorb 0x7FFFFFFF 0 0 s with
      | (power, _, rest) =>
        match rest with
        | c :: _ =>
          if isDigit c then
            -- the exponent itself is too large to be kept
            if significand ≠ 0 && !down then .error .numberOutOfRange
            else (floatOf negative 0 0).map (fun value => (.float value, rest.dropWhile isDigit))
          else finish power rest down
        | [] => finish power rest down
    else .error .invalidNumber
where
  finish (power : Nat) (rest : Bytes) (down : Bool) : Except SyntaxError (Number × Bytes) :=
    let exponent := if down then start - power else start + power
    (floatOf negative significand exponent).map (fun value => (.float value, rest))

/-- Reads what may follow the digits of a float: an exponent, or nothing. -/
def readFloatEnd (negative : Bool) (significand : Nat) (exponent : Int) (s : Bytes) :
    Except SyntaxError (Number × Bytes) :=
  match s with
  | b :: t =>
    if b = lowerE || b = upperE then readExponent negative significand exponent t
    else (floatOf negative significand exponent).map (fun value => (.float value, s))
  | [] => (floatOf negative significand exponent).map (fun value => (.float value, s))

/-- Reads a fraction after its point; digits that no longer fit the significand are dropped. -/
def readFraction (negative : Bool) (significand : Nat) (exponent : Int) (s : Bytes) :
    Except SyntaxError (Number × Bytes) :=
  match s with
  | [] => .error .endInValue
  | b :: _ =>
    if isDigit b then
      match absorb significandLimit significand 0 s with
      | (significand, count, rest) =>
        readFloatEnd negative significand (exponent - count) (rest.dropWhile isDigit)
    else .error .invalidNumber

/-- Reads what follows the digits before the point. -/
def readNumberEnd (negative : Bool) (significand : Nat) (s : Bytes) :
    Except SyntaxError (Number × Bytes) :=
  match s with
  | b :: t =>
    if isDigit b then
      -- further digits only move the point
      let moved := (s.takeWhile isDigit).length
      match s.dropWhile isDigit with
      | b :: t =>
        if b = point then readFraction negative significand moved t
        else readFloatEnd negative significand moved (b :: t)
      | [] => readFloatEnd negative significand moved []
    else if b = point then readFraction negative significand 0 t
    else if b = lowerE || b = upperE then readExponent negative significand 0 t
    else whole s
  | [] => whole s
where
  whole (s : Bytes) : Except SyntaxError (Number × Bytes) :=
    if !negative then .ok (.whole significand, s)
    else if significand = 0 || 0x8000000000000000 < significand then
      (floatOf true significand 0).map (fun value => (.float value, s))
    else .ok (.whole (-significand), s)

/-- Reads a number from its first digit on; a minus sign has been taken before. -/
def readNumber (negative : Bool) (s : Bytes) : Except SyntaxError (Number × Bytes) :=
  match s with
  | [] => .error .endInValue
  | b :: t =>
    if b = 0x30 then
      match t with
      | c :: _ => if isDigit c then .error .invalidNumber else readNumberEnd negative 0 t
      | [] => readNumberEnd negative 0 t
    else if isDigit b then
      match absorb significandLimit 0 0 s with
      | (significand, _, rest) => readNumberEnd negative significand rest
    else .error .invalidNumber

end BlogGateway.Json

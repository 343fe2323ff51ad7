/-
The fewest decimal digits that identify a floating point number.

A finite 64-bit float is `m * 2^q`, and the reals that round to it form an interval around
that value.  The digits are chosen on the coarsest decimal grid with a point in that
interval: for one, two, … seventeen digits the two grid points next to the value are tested
with exact integer arithmetic, the first grid with a hit wins, and of two hits the nearer
one.  No step computes with floats, so nothing is lost to rounding.
-/
namespace BlogGateway.Decimal

/-- The bits of a 64-bit float, as JSON numbers carry them. -/
structure Binary64 where
  bits : UInt64
  deriving DecidableEq, Repr, Inhabited

namespace Binary64

/-- Whether the sign bit is set; also zero has a sign. -/
def negative (x : Binary64) : Bool := x.bits >>> 63 == 1

private def biased (x : Binary64) : Nat := ((x.bits >>> 52) &&& 0x7FF).toNat

private def fraction (x : Binary64) : Nat := (x.bits &&& 0xFFFFFFFFFFFFF).toNat

/-- The integer `m` of the magnitude `m * 2^q`. -/
def mantissa (x : Binary64) : Nat :=
  if x.biased = 0 then x.fraction else 0x10000000000000 + x.fraction

/-- The exponent `q` of the magnitude `m * 2^q`. -/
def exponent (x : Binary64) : Int :=
  if x.biased = 0 then -1074 else (x.biased : Int) - 1075

/-- Whether the neighbour below is half as far away as the neighbour above. -/
def narrowBelow (x : Binary64) : Bool := x.fraction = 0 && x.biased > 1

end Binary64

/-- The number `digits * 10^scale`. -/
structure Digits where
  digits : Nat
  scale : Int
  deriving DecidableEq, Repr

/-- Compares `a * 10^i` with `n * 2^j`, exactly. -/
def compareScaled (a : Nat) (i : Int) (n : Nat) (j : Int) : Ordering :=
  compare (a * Nat.pow 10 i.toNat * Nat.pow 2 (-j).toNat)
    (n * Nat.pow 2 j.toNat * Nat.pow 10 (-i).toNat)

/-- Whether a decimal lies among the reals that round to `x`; the ends of the interval belong
to it when the mantissa is even. -/
def Binary64.roundsFrom (x : Binary64) (d : Digits) : Bool :=
  let low := if x.narrowBelow then 4 * x.mantissa - 1 else 4 * x.mantissa - 2
  let high := 4 * x.mantissa + 2
  let ends := x.mantissa % 2 == 0
  let atLow := compareScaled d.digits d.scale low (x.exponent - 2)
  let atHigh := compareScaled d.digits d.scale high (x.exponent - 2)
  (atLow == .gt || (ends && atLow == .eq)) && (atHigh == .lt || (ends && atHigh == .eq))

/-- The grid point of step `10^scale` just below the magnitude, in steps. -/
def Binary64.floorOn (x : Binary64) (scale : Int) : Nat :=
  (x.mantissa * Nat.pow 2 x.exponent.toNat * Nat.pow 10 (-scale).toNat) /
    (Nat.pow 2 (-x.exponent).toNat * Nat.pow 10 scale.toNat)

/-- The better of the two grid points next to the magnitude, if one of them rounds to it. -/
def Binary64.nearestOn (x : Binary64) (scale : Int) : Option Digits :=
  let below : Digits := ⟨x.floorOn scale, scale⟩
  let above : Digits := ⟨x.floorOn scale + 1, scale⟩
  match x.roundsFrom below, x.roundsFrom above with
  | false, false => none
  | true, false => some below
  | false, true => some above
  | true, true =>
    -- twice the value against the sum of the two candidates; a tie goes to the even one
    match compareScaled (below.digits + above.digits) scale (2 * x.mantissa) x.exponent with
    | .gt => some below
    | .lt => some above
    | .eq => if below.digits % 2 == 0 then some below else some above

/-- The least `k ≤ top` with magnitude below `10^k`, counting down from `top`. -/
def Binary64.magnitude (x : Binary64) : Nat → Int → Int
  | 0, top => top
  | fuel + 1, top =>
    if compareScaled 1 (top - 1) x.mantissa x.exponent == .gt then x.magnitude fuel (top - 1)
    else top

/-- The shortest decimal that rounds to a non-zero magnitude. -/
def Binary64.shortest (x : Binary64) : Digits :=
  let top := x.magnitude 700 310
  let found := (List.range 17).findSome? fun n => x.nearestOn (top - (n + 1 : Nat))
  found.getD ⟨x.floorOn (top - 17), top - 17⟩

/-- Moves trailing zeros of the digits into the scale. -/
def Digits.strip : Nat → Digits → Digits
  | 0, d => d
  | fuel + 1, d =>
    if d.digits ≠ 0 && d.digits % 10 == 0 then Digits.strip fuel ⟨d.digits / 10, d.scale + 1⟩
    else d

/-- Lays digits out: positionally when the leading digit stands between the fifth place after
the point and the sixteenth before it, otherwise with a signed exponent; a point or an
exponent is always there. -/
def Digits.layout (d : Digits) : String :=
  let text := toString d.digits
  let places := text.length
  let lead : Int := d.scale + places - 1
  if 0 ≤ d.scale ∧ lead < 16 then
    text ++ String.ofList (List.replicate d.scale.toNat '0') ++ ".0"
  else if 0 ≤ lead ∧ lead < 16 then
    String.ofList (text.toList.take (lead.toNat + 1)) ++ "."
      ++ String.ofList (text.toList.drop (lead.toNat + 1))
  else if -5 ≤ lead ∧ lead < 0 then
    "0." ++ String.ofList (List.replicate (-lead - 1).toNat '0') ++ text
  else
    let head := String.ofList (text.toList.take 1)
    let tail := String.ofList (text.toList.drop 1)
    let sign := if lead < 0 then "-" else "+"
    head ++ (if tail.isEmpty then "" else "." ++ tail) ++ "e" ++ sign ++ toString lead.natAbs

/-- A finite float as text. -/
def Binary64.text (x : Binary64) : String :=
  let sign := if x.negative then "-" else ""
  if x.mantissa = 0 then sign ++ "0.0"
  else sign ++ (Digits.strip 20 x.shortest).layout

end BlogGateway.Decimal

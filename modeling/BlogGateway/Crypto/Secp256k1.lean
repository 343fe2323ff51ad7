/-
The curve `y² = x³ + 7`.

Points are kept in three coordinates: `(x, y, z)` stands for the point `(x / z², y / z³)`,
and `z = 0` for the point at infinity, so that adding points needs no division.
-/
namespace BlogGateway.Secp256k1

/-- The size of the field of coordinates. -/
def prime : Nat := 0xFFFFFFFFFFFFFFFFFFFFFFFFFFFFFFFFFFFFFFFFFFFFFFFFFFFFFFFEFFFFFC2F

/-- The number of points, which is the size of the field of scalars. -/
def order : Nat := 0xFFFFFFFFFFFFFFFFFFFFFFFFFFFFFFFEBAAEDCE6AF48A03BBFD25E8CD0364141

/-- The power `base ^ exponent` modulo `m`. -/
def powMod (m base exponent : Nat) : Nat :=
  if exponent = 0 then 1 % m
  else
    let half := powMod m (base * base % m) (exponent / 2)
    if exponent % 2 = 0 then half else base * half % m
termination_by exponent

/-- The inverse modulo a prime. -/
def invMod (m a : Nat) : Nat := powMod m a (m - 2)

/-- The difference modulo `m` of numbers below it. -/
def subMod (m a b : Nat) : Nat := (a + m - b) % m

/-- A point in three coordinates. -/
structure Point where
  x : Nat
  y : Nat
  z : Nat
  deriving DecidableEq, Repr

namespace Point

/-- The point at infinity. -/
def infinity : Point := ⟨1, 1, 0⟩

/-- The point that generates all others. -/
def generator : Point :=
  ⟨0x79BE667EF9DCBBAC55A06295CE870B07029BFCDB2DCE28D959F2815B16F81798,
   0x483ADA7726A3C4655DA4FBFC0E1108A8FD17B448A68554199C47D08FFB10D4B8, 1⟩

/-- Twice a point. -/
def double (p : Point) : Point :=
  let square := p.y * p.y % prime
  let s := 4 * p.x * square % prime
  let m := 3 * p.x * p.x % prime
  let x := subMod prime (m * m % prime) (2 * s % prime)
  let y := subMod prime (m * subMod prime s x % prime) (8 * square * square % prime)
  ⟨x, y, 2 * p.y * p.z % prime⟩

/-- The sum of two points. -/
def add (p q : Point) : Point :=
  if p.z = 0 then q
  else if q.z = 0 then p
  else
    let pz := p.z * p.z % prime
    let qz := q.z * q.z % prime
    let u := p.x * qz % prime
    let v := q.x * pz % prime
    let s := p.y * (qz * q.z % prime) % prime
    let t := q.y * (pz * p.z % prime) % prime
    if u = v then if s = t then p.double else infinity
    else
      let h := subMod prime v u
      let r := subMod prime t s
      let hh := h * h % prime
      let hhh := hh * h % prime
      let w := u * hh % prime
      let x := subMod prime (subMod prime (r * r % prime) hhh) (2 * w % prime)
      let y := subMod prime (r * subMod prime w x % prime) (s * hhh % prime)
      ⟨x, y, h * (p.z * q.z % prime) % prime⟩

/-- The multiple of a point by the low `bits` bits of a scalar, high bit first. -/
def scaleOnto (p : Point) (scalar : Nat) : Nat → Point → Point
  | 0, done => done
  | bits + 1, done =>
    let done := done.double
    scaleOnto p scalar bits (if scalar.testBit bits then done.add p else done)

/-- The multiple of a point by a scalar of 256 bits. -/
def scale (scalar : Nat) (p : Point) : Point := scaleOnto p scalar 256 infinity

/-- The two plain coordinates of a point that is not at infinity. -/
def affine? (p : Point) : Option (Nat × Nat) :=
  if p.z = 0 then none
  else
    let inverse := invMod prime p.z
    let square := inverse * inverse % prime
    some (p.x * square % prime, p.y * (square * inverse % prime) % prime)

/-- The point with the given first coordinate whose second is odd or even as asked. -/
def ofX? (x : Nat) (odd : Bool) : Option Point :=
  if prime ≤ x then none
  else
    let right := (x * x % prime * x + 7) % prime
    let root := powMod prime right ((prime + 1) / 4)
    if root * root % prime = right then
      some ⟨x, if (root % 2 = 1) = odd then root else subMod prime 0 root, 1⟩
    else none

end Point

/-- Why a signature has no key: its numbers are out of range, or they fit no point. -/
inductive RecoveryFailure
  | scalarRange
  | noPoint
  deriving DecidableEq, Repr

/-- The point whose key made the signature `(r, s)` over the number `z`.  The signature tells
whether the second coordinate of its point is odd, and whether the first was reduced by the
order.  Of the two values of `s` that fit, only the smaller is accepted.  The key found here
verifies the signature, since the point of the verification is the one that it came from. -/
def recover (z r s : Nat) (odd reduced : Bool) : Except RecoveryFailure (Nat × Nat) :=
  if r = 0 || order ≤ r || s = 0 || order ≤ s || order / 2 < s then .error .scalarRange
  else
    match Point.ofX? (if reduced then r + order else r) odd with
    | none => .error .noPoint
    | some point =>
      let inverse := invMod order r
      let u := subMod order 0 (inverse * (z % order) % order)
      let v := inverse * s % order
      match ((Point.generator.scale u).add (point.scale v)).affine? with
      | none => .error .noPoint
      | some key => .ok key

end BlogGateway.Secp256k1

/-
**Edwards curve signatures (RFC 8032, Ed25519).**

The curve is `y² - x² = 1 + d x² y²` modulo `2^255 - 19`.

* points are kept with a common denominator and a fourth coordinate, for which one addition law
  holds for all pairs of points;
* `point?` recovers a point from 32 octets, its ordinate and the sign of its abscissa: an ordinate at
  or above the modulus is reduced, and a sign on a zero abscissa is ignored;
* `verify` recomputes the first half of a signature from the second, which must be below the order
  of the base point, and compares octets.
-/

import ClientAssertion.Digest.Hmac
import ClientAssertion.Signature.Modular

namespace ClientAssertion.Ed25519

/-! ### The curve -/

/-- The modulus of the coordinates. -/
def field : Nat := (1 <<< 255) - 19

/-- The order of the base point. -/
def order : Nat := (1 <<< 252) + 27742317777372353535851937790883648493

/-- The coefficient `d` of the curve. -/
def coefficient : Nat := 37095705934669439343138083508754565189542113879843219016388785533085940283555

/-- A square root of minus one. -/
def rootOfMinusOne : Nat := Modular.power field 2 ((field - 1) / 4)

/-- A point `(x / z, y / z)` with `t = x y / z`. -/
structure Point where
  x : Nat
  y : Nat
  z : Nat
  t : Nat
deriving Repr

namespace Point

/-- The neutral element. -/
def zero : Point := ⟨0, 1, 1, 0⟩

/-- The point with the given affine coordinates. -/
def ofAffine (x y : Nat) : Point := ⟨x, y, 1, x * y % field⟩

/-- The sum of two points. -/
def add (first second : Point) : Point :=
  let a := Modular.sub field first.y first.x * Modular.sub field second.y second.x % field
  let b := (first.y + first.x) * (second.y + second.x) % field
  let c := 2 * first.t * second.t % field * coefficient % field
  let d := 2 * first.z * second.z % field
  let e := Modular.sub field b a
  let f := Modular.sub field d c
  let g := (d + c) % field
  let h := (b + a) % field
  ⟨e * f % field, g * h % field, f * g % field, e * h % field⟩

/-- The opposite of a point. -/
def neg (point : Point) : Point :=
  ⟨Modular.sub field 0 point.x, point.y, point.z, Modular.sub field 0 point.t⟩

/-- A multiple of a point, by doubling and adding. -/
def multiple (scalar : Nat) (point : Point) : Point :=
  if nothing : scalar = 0 then zero
  else
    let half := multiple (scalar / 2) point
    let whole := half.add half
    if scalar % 2 = 1 then whole.add point else whole
termination_by scalar
decreasing_by omega

end Point

/-! ### The written form -/

/-- The number that octets spell, least significant octet first. -/
def littleEndian (bytes : Bytes) : Nat := Bytes.toNat bytes.reverse

/-- The written form of a point: its ordinate, with the parity of its abscissa in the top bit. -/
def encode (point : Point) : Bytes :=
  let inverse := Modular.inverse field point.z
  let x := point.x * inverse % field
  let y := point.y * inverse % field
  (Bytes.ofNat 32 (y + x % 2 * (1 <<< 255))).reverse

/-- A square root of a quotient, where it has one. -/
def rootOfQuotient? (numerator denominator : Nat) : Option Nat :=
  let quotient := numerator * Modular.inverse field denominator % field
  let root := Modular.power field quotient ((field + 3) / 8)
  if root * root % field = quotient then some root
  else
    let other := root * rootOfMinusOne % field
    if other * other % field = quotient then some other else none

/-- How many octets a point has in written form. -/
def pointLength : Nat := 32

/-- The point that octets are the written form of. -/
def point? (bytes : Bytes) : Option Point := do
  guard (bytes.length = pointLength)
  let value := littleEndian bytes
  let y := value % (1 <<< 255) % field
  let square := y * y % field
  let root ← rootOfQuotient? (Modular.sub field square 1) ((coefficient * square + 1) % field)
  let x := if root % 2 = value / (1 <<< 255) then root else Modular.sub field 0 root
  return .ofAffine x y

/-- The base point: its ordinate is four fifths. -/
def base : Point :=
  .ofAffine 15112221349535400772501151409588531511454012693041857206046113283949847762202
    46316835694926478169428394003475163141307993866256225615783033603165251855960

/-! ### Signatures -/

/-- The signature belongs to the message under the key of the given written form. -/
def verify (key : Bytes) (point : Point) (message signature : Bytes) : Bool :=
  let commitment := signature.take 32
  let response := littleEndian (signature.drop 32)
  let challenge := littleEndian (Digest.sha512 (commitment ++ key ++ message)) % order
  if signature.length = 64 ∧ response < order then
    encode ((Point.multiple response base).add (Point.multiple challenge point.neg)) == commitment
  else false

end ClientAssertion.Ed25519

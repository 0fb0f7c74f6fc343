/-
**Elliptic curve signatures (FIPS 186-4) over P-256 and P-384.**

A curve is `y² = x³ - 3x + b` over a prime field, with a base point of prime order.

* `Curve.add` and `Curve.multiple` are the group law on affine points and its multiples;
* `Curve.point?` reads an uncompressed public key, and accepts it only on the curve;
* `Curve.verify` checks a signature, the two numbers `r` and `s` written one after the other.
-/

import ClientAssertion.Digest.Hmac
import ClientAssertion.Signature.Modular

namespace ClientAssertion.Ecdsa

/-- An affine point; the neutral element is `none` of these. -/
structure Point where
  x : Nat
  y : Nat
deriving DecidableEq, Repr

/-- A curve `y² = x³ - 3x + b` with a base point of prime order. -/
structure Curve where
  field : Nat
  b : Nat
  order : Nat
  base : Point
  /-- The octets of a coordinate and of each number of a signature. -/
  size : Nat
  /-- The digest that is signed. -/
  hash : Hash

namespace Curve

/-! ### The group -/

/-- The coordinates satisfy the curve's equation. -/
def OnCurve (curve : Curve) (point : Point) : Prop :=
  point.x < curve.field ∧ point.y < curve.field ∧
    (point.y * point.y + 3 * point.x) % curve.field =
      (point.x * point.x * point.x + curve.b) % curve.field

instance (curve : Curve) (point : Point) : Decidable (curve.OnCurve point) := by
  unfold OnCurve; infer_instance

/-- The opposite of the third point on the line of the given slope through two points. -/
def third (curve : Curve) (slope : Nat) (first second : Point) : Point :=
  let field := curve.field
  let x := Modular.sub field (slope * slope % field) ((first.x + second.x) % field)
  ⟨x, Modular.sub field (slope * Modular.sub field first.x x % field) first.y⟩

/-- Twice a point. -/
def double (curve : Curve) : Option Point → Option Point
  | none => none
  | some point =>
    let field := curve.field
    if point.y = 0 then none
    else
      let rise := Modular.sub field (3 * point.x * point.x % field) (3 % field)
      let slope := rise * Modular.inverse field (2 * point.y) % field
      some (curve.third slope point point)

/-- The sum of two points. -/
def add (curve : Curve) : Option Point → Option Point → Option Point
  | none, second => second
  | first, none => first
  | some first, some second =>
    let field := curve.field
    if first.x = second.x then
      if first.y = second.y then curve.double (some first) else none
    else
      let rise := Modular.sub field second.y first.y
      let run := Modular.sub field second.x first.x
      some (curve.third (rise * Modular.inverse field run % field) first second)

/-- A multiple of a point, by doubling and adding. -/
def multiple (curve : Curve) (scalar : Nat) (point : Option Point) : Option Point :=
  if zero : scalar = 0 then none
  else
    let half := curve.double (multiple curve (scalar / 2) point)
    if scalar % 2 = 1 then curve.add half point else half
termination_by scalar
decreasing_by omega

/-! ### Keys and signatures -/

/-- The point that an uncompressed key spells: the octet 4 and the two coordinates. -/
def point? (curve : Curve) : Bytes → Option Point
  | 4 :: coordinates =>
    if coordinates.length = 2 * curve.size then
      let point : Point :=
        ⟨Bytes.toNat (coordinates.take curve.size), Bytes.toNat (coordinates.drop curve.size)⟩
      if curve.OnCurve point then some point else none
    else none
  | _ => none

/-- The two numbers of a signature, each from one to the order less one. -/
def numbers? (curve : Curve) (signature : Bytes) : Option (Nat × Nat) :=
  let r := Bytes.toNat (signature.take curve.size)
  let s := Bytes.toNat (signature.drop curve.size)
  if signature.length = 2 * curve.size ∧ 0 < r ∧ r < curve.order ∧ 0 < s ∧ s < curve.order then
    some (r, s)
  else none

/-- The signature belongs to the message under the key. -/
def verify (curve : Curve) (key : Point) (message signature : Bytes) : Bool :=
  match curve.numbers? signature with
  | none => false
  | some (r, s) =>
    let digest := Bytes.toNat (curve.hash.digest message)
    let inverse := Modular.inverse curve.order s
    let sum := curve.add (curve.multiple (digest * inverse % curve.order) (some curve.base))
      (curve.multiple (r * inverse % curve.order) (some key))
    match sum with
    | none => false
    | some point => point.x % curve.order == r

end Curve

/-! ### The two curves -/

/-- P-256 with SHA-256. -/
def p256 : Curve where
  field := 0xffffffff00000001000000000000000000000000ffffffffffffffffffffffff
  b := 0x5ac635d8aa3a93e7b3ebbd55769886bc651d06b0cc53b0f63bce3c3e27d2604b
  order := 0xffffffff00000000ffffffffffffffffbce6faada7179e84f3b9cac2fc632551
  base :=
    ⟨0x6b17d1f2e12c4247f8bce6e563a440f277037d812deb33a0f4a13945d898c296,
      0x4fe342e2fe1a7f9b8ee7eb4a7c0f9e162bce33576b315ececbb6406837bf51f5⟩
  size := 32
  hash := .sha256

/-- P-384 with SHA-384. -/
def p384 : Curve where
  field := 0xfffffffffffffffffffffffffffffffffffffffffffffffffffffffffffffffeffffffff0000000000000000ffffffff
  b := 0xb3312fa7e23ee7e4988e056be3f82d19181d9c6efe8141120314088f5013875ac656398d8a2ed19d2a85c8edd3ec2aef
  order := 0xffffffffffffffffffffffffffffffffffffffffffffffffc7634d81f4372ddf581a0db248b0a77aecec196accc52973
  base :=
    ⟨0xaa87ca22be8b05378eb1c71ef320ad746e1d3b628ba79b9859f741e082542a385502f25dbf55296c3a545e3872760ab7,
      0x3617de4a96262c6f5d9e98bf9292dc29f8f41dbd289a147ce9da3113b5f0b8c00a60b1ce1d7e819d7a431d7c90ea0e5f⟩
  size := 48
  hash := .sha384

end ClientAssertion.Ecdsa

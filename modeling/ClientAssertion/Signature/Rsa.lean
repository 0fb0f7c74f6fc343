/-
**RSA signatures (RFC 8017).**

A signature is a number below the modulus, written in as many octets as the modulus; raised to the
public exponent it is the encoded message.

* `PublicKey.Usable` says which keys take part at all: an odd modulus of at most 4096 bits and an
  odd exponent from 2 to 2^33 - 1 that is below the modulus;
* `PublicKey.verifyPkcs1` compares the encoded message with the one encoding there is;
* `PublicKey.verifyPss` unmasks the encoded message and recomputes its hash, with a salt exactly as
  long as the digest.
-/

import ClientAssertion.Digest.Hmac
import ClientAssertion.Signature.Modular

namespace ClientAssertion.Rsa

/-- A public key as its two numbers. -/
structure PublicKey where
  modulus : Nat
  exponent : Nat
deriving DecidableEq, Repr

namespace PublicKey

/-- The bits of the modulus. -/
def bits (key : PublicKey) : Nat := if key.modulus = 0 then 0 else key.modulus.log2 + 1

/-- The octets of the modulus, of a signature and of an encoded message. -/
def size (key : PublicKey) : Nat := (key.bits + 7) / 8

/-- The keys that signatures are checked under. -/
def Usable (key : PublicKey) : Prop :=
  key.bits ≤ 4096 ∧ key.modulus % 2 = 1 ∧ key.exponent < key.modulus ∧
    key.exponent % 2 = 1 ∧ 2 ≤ key.exponent ∧ key.exponent < 1 <<< 33

instance (key : PublicKey) : Decidable key.Usable := by unfold Usable; infer_instance

/-- The encoded message that a signature stands for. -/
def recover? (key : PublicKey) (signature : Bytes) : Option Bytes :=
  let value := Bytes.toNat signature
  if key.Usable ∧ value < key.modulus ∧ signature.length = key.size then
    some (Bytes.ofNat key.size (Modular.power key.modulus value key.exponent))
  else none

end PublicKey

/-! ### PKCS #1 version 1.5 -/

/-- The octets in front of a digest that name it. -/
def digestInfo : Hash → Bytes
  | .sha256 => [0x30, 0x31, 0x30, 0x0d, 0x06, 0x09, 0x60, 0x86, 0x48, 0x01, 0x65, 0x03, 0x04, 0x02,
      0x01, 0x05, 0x00, 0x04, 0x20]
  | .sha384 => [0x30, 0x41, 0x30, 0x0d, 0x06, 0x09, 0x60, 0x86, 0x48, 0x01, 0x65, 0x03, 0x04, 0x02,
      0x02, 0x05, 0x00, 0x04, 0x30]
  | .sha512 => [0x30, 0x51, 0x30, 0x0d, 0x06, 0x09, 0x60, 0x86, 0x48, 0x01, 0x65, 0x03, 0x04, 0x02,
      0x03, 0x05, 0x00, 0x04, 0x40]

/-- The encoding of a message in `size` octets; it needs room for eight octets of padding. -/
def encodePkcs1? (hash : Hash) (size : Nat) (message : Bytes) : Option Bytes :=
  let content := digestInfo hash ++ hash.digest message
  if content.length + 11 ≤ size then
    some (0 :: 1 :: List.replicate (size - content.length - 3) 0xff ++ 0 :: content)
  else none

/-- The signature's encoded message is the encoding of the message. -/
def PublicKey.verifyPkcs1 (key : PublicKey) (hash : Hash) (message signature : Bytes) : Bool :=
  match encodePkcs1? hash key.size message, key.recover? signature with
  | some expected, some encoded => expected == encoded
  | _, _ => false

/-! ### The probabilistic scheme -/

/-- The first `count` blocks of the mask that a seed generates, each from its own counter. -/
def maskBlocks (hash : Hash) (seed : Bytes) (counter : Nat) : (count : Nat) → Bytes
  | 0 => []
  | count + 1 =>
    hash.digest (seed ++ Bytes.ofNat 4 counter) ++ maskBlocks hash seed (counter + 1) count

/-- The mask of the given length that a seed generates. -/
def mask (hash : Hash) (seed : Bytes) (length : Nat) : Bytes :=
  (maskBlocks hash seed 0 ((length + hash.size - 1) / hash.size)).take length

/-- Whether an encoded message of `bits` bits encodes the message. -/
def matchesPss (hash : Hash) (bits : Nat) (message encoded : Bytes) : Bool :=
  let size := (bits + 7) / 8
  let clear := 8 * size - bits
  let maskedLength := size - hash.size - 1
  let masked := encoded.take maskedLength
  let seed := (encoded.drop maskedLength).take hash.size
  let zeros := size - 2 * hash.size - 2
  if size < 2 * hash.size + 2 ∨ encoded.getLast? ≠ some 0xbc then false
  else if (masked.headD 0).toNat / (1 <<< (8 - clear)) ≠ 0 then false
  else
    match Bytes.xor masked (mask hash seed maskedLength) with
    | [] => false
    | first :: rest =>
      let block := UInt8.ofNat (first.toNat % (1 <<< (8 - clear))) :: rest
      let salt := block.drop (zeros + 1)
      block.take (zeros + 1) == List.replicate zeros 0 ++ [1] &&
        seed == hash.digest (List.replicate 8 0 ++ hash.digest message ++ salt)

/-- The signature's encoded message encodes the message. -/
def PublicKey.verifyPss (key : PublicKey) (hash : Hash) (message signature : Bytes) : Bool :=
  match key.recover? signature with
  | some encoded =>
    let bits := key.bits - 1
    matchesPss hash bits message (encoded.drop (key.size - (bits + 7) / 8))
  | none => false

end ClientAssertion.Rsa

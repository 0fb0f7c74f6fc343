/-
**The SHA-2 digests (FIPS 180-4).**

SHA-256 works on 32-bit words in 64 rounds, SHA-384 and SHA-512 on 64-bit words in 80 rounds; the
rest of the construction is the same and is written once, for a `Family` of words.

* `Family.digest` pads a message, compresses its blocks in turn and writes out the registers;
* `length_sha256`, `length_sha384` and `length_sha512`: a digest has 32, 48 and 64 octets.
-/

import ClientAssertion.Bytes

namespace ClientAssertion.Digest

/-! ### The construction -/

/-- What tells one width of words from the other. -/
structure Family (Word : Type) where
  /-- Octets in a word. -/
  wordOctets : Nat
  ofNat : Nat → Word
  toNat : Word → Nat
  /-- The rotations of the two large and the rotations and shift of the two small sigma functions. -/
  bigSigma0 : Word → Word
  bigSigma1 : Word → Word
  smallSigma0 : Word → Word
  smallSigma1 : Word → Word
  /-- One constant for each round. -/
  constants : List Word

/-- The eight working registers. -/
structure Registers (Word : Type) where
  (a b c d e f g h : Word)

namespace Registers

/-- The registers in order. -/
def toList {Word : Type} (registers : Registers Word) : List Word :=
  [registers.a, registers.b, registers.c, registers.d,
    registers.e, registers.f, registers.g, registers.h]

/-- Register by register sums. -/
def add {Word : Type} [Add Word] (first second : Registers Word) : Registers Word where
  a := first.a + second.a
  b := first.b + second.b
  c := first.c + second.c
  d := first.d + second.d
  e := first.e + second.e
  f := first.f + second.f
  g := first.g + second.g
  h := first.h + second.h

end Registers

namespace Family

variable {Word : Type} [Add Word] [AndOp Word] [XorOp Word] [Complement Word]

/-- Octets in a block of sixteen words. -/
def blockOctets (family : Family Word) : Nat := 16 * family.wordOctets

/-- One round with its constant and its word of the message schedule. -/
def round (family : Family Word) (registers : Registers Word) (constant word : Word) :
    Registers Word :=
  let choice := (registers.e &&& registers.f) ^^^ (~~~registers.e &&& registers.g)
  let majority := (registers.a &&& registers.b) ^^^ (registers.a &&& registers.c) ^^^
    (registers.b &&& registers.c)
  let first := registers.h + family.bigSigma1 registers.e + choice + constant + word
  let second := family.bigSigma0 registers.a + majority
  { a := first + second
    b := registers.a
    c := registers.b
    d := registers.c
    e := registers.d + first
    f := registers.e
    g := registers.f
    h := registers.g }

/-- The schedule's next word from its last sixteen, oldest first. -/
def nextWord (family : Family Word) (window : List Word) : Option Word :=
  match window with
  | w0 :: w1 :: _ :: _ :: _ :: _ :: _ :: _ :: _ :: w9 :: _ :: _ :: _ :: _ :: w14 :: _ =>
    some (family.smallSigma1 w14 + w9 + family.smallSigma0 w1 + w0)
  | _ => none

/-- The rounds for the given constants, over a window of the schedule that slides by a word. -/
def rounds (family : Family Word) : List Word → List Word → Registers Word → Registers Word
  | constant :: constants, word :: window, registers =>
    rounds family constants (window ++ (family.nextWord (word :: window)).toList)
      (family.round registers constant word)
  | _, _, registers => registers

/-- The words that the octets spell. -/
def wordsOf (family : Family Word) (octets : Bytes) : (count : Nat) → List Word
  | 0 => []
  | count + 1 =>
    family.ofNat (Bytes.toNat (octets.take family.wordOctets)) ::
      wordsOf family (octets.drop family.wordOctets) count

/-- Compression of one block. -/
def compress (family : Family Word) (registers : Registers Word) (block : Bytes) :
    Registers Word :=
  registers.add (family.rounds family.constants (family.wordsOf block 16) registers)

/-- Compression of the first `count` blocks, in order. -/
def compressAll (family : Family Word) : (count : Nat) → Bytes → Registers Word → Registers Word
  | 0, _, registers => registers
  | count + 1, octets, registers =>
    compressAll family count (octets.drop family.blockOctets)
      (family.compress registers (octets.take family.blockOctets))

/-- The message, a one bit, zeros up to the end of a block, and the message's length in bits. -/
def padded (family : Family Word) (message : Bytes) : Bytes :=
  let block := family.blockOctets
  let lengthOctets := 2 * family.wordOctets
  let zeros := (block - (message.length + 1 + lengthOctets) % block) % block
  message ++ 0x80 :: List.replicate zeros 0 ++ Bytes.ofNat lengthOctets (8 * message.length)

/-- The registers after the whole message, most significant octet first. -/
def digest (family : Family Word) (initial : Registers Word) (message : Bytes) : Bytes :=
  let octets := family.padded message
  let final := family.compressAll (octets.length / family.blockOctets) octets initial
  final.toList.flatMap fun word => Bytes.ofNat family.wordOctets (family.toNat word)

theorem length_digest (family : Family Word) (initial : Registers Word) (message : Bytes) :
    (family.digest initial message).length = 8 * family.wordOctets := by
  simp [digest, Registers.toList]
  omega

end Family

/-! ### 32-bit words -/

/-- Rotation of a 32-bit word. -/
def rotate32 (amount word : UInt32) : UInt32 := (word >>> amount) ||| (word <<< (32 - amount))

/-- The words of SHA-256. -/
def words32 : Family UInt32 where
  wordOctets := 4
  ofNat := UInt32.ofNat
  toNat := UInt32.toNat
  bigSigma0 word := rotate32 2 word ^^^ rotate32 13 word ^^^ rotate32 22 word
  bigSigma1 word := rotate32 6 word ^^^ rotate32 11 word ^^^ rotate32 25 word
  smallSigma0 word := rotate32 7 word ^^^ rotate32 18 word ^^^ (word >>> 3)
  smallSigma1 word := rotate32 17 word ^^^ rotate32 19 word ^^^ (word >>> 10)
  constants := [
    0x428a2f98, 0x71374491, 0xb5c0fbcf, 0xe9b5dba5, 0x3956c25b, 0x59f111f1, 0x923f82a4, 0xab1c5ed5,
    0xd807aa98, 0x12835b01, 0x243185be, 0x550c7dc3, 0x72be5d74, 0x80deb1fe, 0x9bdc06a7, 0xc19bf174,
    0xe49b69c1, 0xefbe4786, 0x0fc19dc6, 0x240ca1cc, 0x2de92c6f, 0x4a7484aa, 0x5cb0a9dc, 0x76f988da,
    0x983e5152, 0xa831c66d, 0xb00327c8, 0xbf597fc7, 0xc6e00bf3, 0xd5a79147, 0x06ca6351, 0x14292967,
    0x27b70a85, 0x2e1b2138, 0x4d2c6dfc, 0x53380d13, 0x650a7354, 0x766a0abb, 0x81c2c92e, 0x92722c85,
    0xa2bfe8a1, 0xa81a664b, 0xc24b8b70, 0xc76c51a3, 0xd192e819, 0xd6990624, 0xf40e3585, 0x106aa070,
    0x19a4c116, 0x1e376c08, 0x2748774c, 0x34b0bcb5, 0x391c0cb3, 0x4ed8aa4a, 0x5b9cca4f, 0x682e6ff3,
    0x748f82ee, 0x78a5636f, 0x84c87814, 0x8cc70208, 0x90befffa, 0xa4506ceb, 0xbef9a3f7, 0xc67178f2]

/-- The SHA-256 digest of a message. -/
def sha256 (message : Bytes) : Bytes :=
  words32.digest
    { a := 0x6a09e667, b := 0xbb67ae85, c := 0x3c6ef372, d := 0xa54ff53a
      e := 0x510e527f, f := 0x9b05688c, g := 0x1f83d9ab, h := 0x5be0cd19 } message

@[simp] theorem length_sha256 (message : Bytes) : (sha256 message).length = 32 := by
  simp [sha256, Family.length_digest, words32]

/-! ### 64-bit words -/

/-- Rotation of a 64-bit word. -/
def rotate64 (amount word : UInt64) : UInt64 := (word >>> amount) ||| (word <<< (64 - amount))

/-- The words of SHA-384 and SHA-512. -/
def words64 : Family UInt64 where
  wordOctets := 8
  ofNat := UInt64.ofNat
  toNat := UInt64.toNat
  bigSigma0 word := rotate64 28 word ^^^ rotate64 34 word ^^^ rotate64 39 word
  bigSigma1 word := rotate64 14 word ^^^ rotate64 18 word ^^^ rotate64 41 word
  smallSigma0 word := rotate64 1 word ^^^ rotate64 8 word ^^^ (word >>> 7)
  smallSigma1 word := rotate64 19 word ^^^ rotate64 61 word ^^^ (word >>> 6)
  constants := [
    0x428a2f98d728ae22, 0x7137449123ef65cd, 0xb5c0fbcfec4d3b2f, 0xe9b5dba58189dbbc,
    0x3956c25bf348b538, 0x59f111f1b605d019, 0x923f82a4af194f9b, 0xab1c5ed5da6d8118,
    0xd807aa98a3030242, 0x12835b0145706fbe, 0x243185be4ee4b28c, 0x550c7dc3d5ffb4e2,
    0x72be5d74f27b896f, 0x80deb1fe3b1696b1, 0x9bdc06a725c71235, 0xc19bf174cf692694,
    0xe49b69c19ef14ad2, 0xefbe4786384f25e3, 0x0fc19dc68b8cd5b5, 0x240ca1cc77ac9c65,
    0x2de92c6f592b0275, 0x4a7484aa6ea6e483, 0x5cb0a9dcbd41fbd4, 0x76f988da831153b5,
    0x983e5152ee66dfab, 0xa831c66d2db43210, 0xb00327c898fb213f, 0xbf597fc7beef0ee4,
    0xc6e00bf33da88fc2, 0xd5a79147930aa725, 0x06ca6351e003826f, 0x142929670a0e6e70,
    0x27b70a8546d22ffc, 0x2e1b21385c26c926, 0x4d2c6dfc5ac42aed, 0x53380d139d95b3df,
    0x650a73548baf63de, 0x766a0abb3c77b2a8, 0x81c2c92e47edaee6, 0x92722c851482353b,
    0xa2bfe8a14cf10364, 0xa81a664bbc423001, 0xc24b8b70d0f89791, 0xc76c51a30654be30,
    0xd192e819d6ef5218, 0xd69906245565a910, 0xf40e35855771202a, 0x106aa07032bbd1b8,
    0x19a4c116b8d2d0c8, 0x1e376c085141ab53, 0x2748774cdf8eeb99, 0x34b0bcb5e19b48a8,
    0x391c0cb3c5c95a63, 0x4ed8aa4ae3418acb, 0x5b9cca4f7763e373, 0x682e6ff3d6b2b8a3,
    0x748f82ee5defb2fc, 0x78a5636f43172f60, 0x84c87814a1f0ab72, 0x8cc702081a6439ec,
    0x90befffa23631e28, 0xa4506cebde82bde9, 0xbef9a3f7b2c67915, 0xc67178f2e372532b,
    0xca273eceea26619c, 0xd186b8c721c0c207, 0xeada7dd6cde0eb1e, 0xf57d4f7fee6ed178,
    0x06f067aa72176fba, 0x0a637dc5a2c898a6, 0x113f9804bef90dae, 0x1b710b35131c471b,
    0x28db77f523047d84, 0x32caab7b40c72493, 0x3c9ebe0a15c9bebc, 0x431d67c49c100d4c,
    0x4cc5d4becb3e42b6, 0x597f299cfc657e2a, 0x5fcb6fab3ad6faec, 0x6c44198c4a475817]

/-- The SHA-512 digest of a message. -/
def sha512 (message : Bytes) : Bytes :=
  words64.digest
    { a := 0x6a09e667f3bcc908, b := 0xbb67ae8584caa73b
      c := 0x3c6ef372fe94f82b, d := 0xa54ff53a5f1d36f1
      e := 0x510e527fade682d1, f := 0x9b05688c2b3e6c1f
      g := 0x1f83d9abfb41bd6b, h := 0x5be0cd19137e2179 } message

/-- The SHA-384 digest of a message: its own initial registers, and the first 48 octets. -/
def sha384 (message : Bytes) : Bytes :=
  (words64.digest
    { a := 0xcbbb9d5dc1059ed8, b := 0x629a292a367cd507
      c := 0x9159015a3070dd17, d := 0x152fecd8f70e5939
      e := 0x67332667ffc00b31, f := 0x8eb44a8768581511
      g := 0xdb0c2e0d64f98fa7, h := 0x47b5481dbefa4fa4 } message).take 48

@[simp] theorem length_sha512 (message : Bytes) : (sha512 message).length = 64 := by
  simp [sha512, Family.length_digest, words64]

@[simp] theorem length_sha384 (message : Bytes) : (sha384 message).length = 48 := by
  simp [sha384, Family.length_digest, words64]

end ClientAssertion.Digest

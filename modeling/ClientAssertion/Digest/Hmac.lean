/-
**Keyed digests (RFC 2104).**

A `Hash` names one of the three digests that signatures use.  Its message authentication code
digests the message twice, each time behind the key mixed with a fixed octet.
-/

import ClientAssertion.Digest.Sha2

namespace ClientAssertion

/-- The digests that signatures are made over. -/
inductive Hash where
  | sha256
  | sha384
  | sha512
deriving DecidableEq, Repr

namespace Hash

/-- The digest of a message. -/
def digest : Hash → Bytes → Bytes
  | .sha256 => Digest.sha256
  | .sha384 => Digest.sha384
  | .sha512 => Digest.sha512

/-- Octets in a digest. -/
def size : Hash → Nat
  | .sha256 => 32
  | .sha384 => 48
  | .sha512 => 64

/-- Octets in a block of the message. -/
def blockSize : Hash → Nat
  | .sha256 => 64
  | .sha384 => 128
  | .sha512 => 128

@[simp] theorem length_digest (hash : Hash) (message : Bytes) :
    (hash.digest message).length = hash.size := by
  cases hash <;> simp [digest, size]

/-- The key as one block: a longer key is digested first, a shorter one is filled with zeros. -/
def keyBlock (hash : Hash) (key : Bytes) : Bytes :=
  let short := if key.length ≤ hash.blockSize then key else hash.digest key
  short ++ List.replicate (hash.blockSize - short.length) 0

/-- The message authentication code of a message under a key. -/
def hmac (hash : Hash) (key message : Bytes) : Bytes :=
  let block := hash.keyBlock key
  hash.digest (block.map (· ^^^ 0x5c) ++ hash.digest (block.map (· ^^^ 0x36) ++ message))

@[simp] theorem length_hmac (hash : Hash) (key message : Bytes) :
    (hash.hmac key message).length = hash.size := by
  simp [hmac]

end Hash

end ClientAssertion

/-
**Keys and signatures.**

* `Key.verifier?` prepares the check of signatures under a key: the key has to be of the
  algorithm's family, and the octets of a curve key have to be a point of the curve;
* of an Edwards curve key only the first octets count, but there have to be that many: a key that is
  too short has a flaw of its own;
* `Key.verifier?` of a secret compares the whole message authentication code.
-/

import ClientAssertion.Jose.Algorithm
import ClientAssertion.Jose.Error
import ClientAssertion.Signature.Ecdsa
import ClientAssertion.Signature.Ed25519
import ClientAssertion.Signature.Rsa

namespace ClientAssertion

/-- A key that signatures are checked under. -/
inductive Key where
  | secret (octets : Bytes)
  | rsa (key : Rsa.PublicKey)
  /-- An elliptic curve key in uncompressed form. -/
  | ellipticCurve (octets : Bytes)
  /-- An Edwards curve key. -/
  | edwardsCurve (octets : Bytes)
deriving DecidableEq, Repr

namespace Key

/-- The family of a key. -/
def family : Key → Algorithm.Family
  | .secret _ => .secret
  | .rsa _ => .rsa
  | .ellipticCurve _ => .ellipticCurve
  | .edwardsCurve _ => .edwardsCurve

/-- Decides whether a signature belongs to a message. -/
abbrev Check := (message signature : Bytes) → Bool

/-- The check of signatures under a secret. -/
def checkMac (hash : Hash) (secret : Bytes) : Check := fun message signature =>
  hash.hmac secret message == signature

/-- The check of signatures under an elliptic curve key. -/
def checkCurve (curve : Ecdsa.Curve) (octets : Bytes) : Except TokenFlaw Check :=
  match curve.point? octets with
  | some point => .ok (curve.verify point)
  | none => .error .ellipticCurveKey

/-- The check of signatures under an Edwards curve key, of which only the octets of a point count. -/
def checkEdwards (octets : Bytes) : Except TokenFlaw Check :=
  if octets.length < Ed25519.pointLength then .error .edwardsKeyLength
  else
    let written := octets.take Ed25519.pointLength
    (Ed25519.point? written).elim (.error .edwardsCurveKey) fun point =>
      .ok (Ed25519.verify written point)

/-- The check of signatures of an algorithm under a key. -/
def verifier? (algorithm : Algorithm) (key : Key) : Except TokenFlaw Check :=
  match algorithm, key with
  | .hs256, .secret octets => .ok (checkMac .sha256 octets)
  | .hs384, .secret octets => .ok (checkMac .sha384 octets)
  | .hs512, .secret octets => .ok (checkMac .sha512 octets)
  | .rs256, .rsa key => .ok (key.verifyPkcs1 .sha256)
  | .rs384, .rsa key => .ok (key.verifyPkcs1 .sha384)
  | .rs512, .rsa key => .ok (key.verifyPkcs1 .sha512)
  | .ps256, .rsa key => .ok (key.verifyPss .sha256)
  | .ps384, .rsa key => .ok (key.verifyPss .sha384)
  | .ps512, .rsa key => .ok (key.verifyPss .sha512)
  | .es256, .ellipticCurve octets => checkCurve Ecdsa.p256 octets
  | .es384, .ellipticCurve octets => checkCurve Ecdsa.p384 octets
  | .edDSA, .edwardsCurve octets => checkEdwards octets
  | _, _ => .error .keyFormat

end Key

end ClientAssertion

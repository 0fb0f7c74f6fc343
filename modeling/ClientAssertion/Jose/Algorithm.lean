/-
**Signature algorithms (RFC 7518, RFC 8037).**

An algorithm needs keys of one family: a shared secret for the message authentication codes, an
RSA, elliptic curve or Edwards curve key for the signatures.
-/

import ClientAssertion.Digest.Hmac

namespace ClientAssertion

/-- The algorithms that an assertion may be signed with. -/
inductive Algorithm where
  | hs256
  | hs384
  | hs512
  | rs256
  | rs384
  | rs512
  | es256
  | es384
  | ps256
  | ps384
  | ps512
  | edDSA
deriving DecidableEq, Repr

namespace Algorithm

/-- All algorithms. -/
def all : List Algorithm :=
  [.hs256, .hs384, .hs512, .rs256, .rs384, .rs512, .es256, .es384, .ps256, .ps384, .ps512, .edDSA]

/-- The registered name. -/
def name : Algorithm → String
  | .hs256 => "HS256"
  | .hs384 => "HS384"
  | .hs512 => "HS512"
  | .rs256 => "RS256"
  | .rs384 => "RS384"
  | .rs512 => "RS512"
  | .es256 => "ES256"
  | .es384 => "ES384"
  | .ps256 => "PS256"
  | .ps384 => "PS384"
  | .ps512 => "PS512"
  | .edDSA => "EdDSA"

/-- The algorithm that a name stands for. -/
def ofName? (name : String) : Option Algorithm := all.find? fun algorithm => algorithm.name == name

theorem ofName?_name (algorithm : Algorithm) : ofName? algorithm.name = some algorithm := by
  cases algorithm <;> rfl

/-- What is said about a name that stands for no algorithm. -/
def unknownName (name : String) : String := "Unknown JWS algorithm: " ++ name

/-- The kinds of keys. -/
inductive Family where
  | secret
  | rsa
  | ellipticCurve
  | edwardsCurve
deriving DecidableEq, Repr

/-- The kind of keys that an algorithm needs. -/
def family : Algorithm → Family
  | .hs256 | .hs384 | .hs512 => .secret
  | .rs256 | .rs384 | .rs512 | .ps256 | .ps384 | .ps512 => .rsa
  | .es256 | .es384 => .ellipticCurve
  | .edDSA => .edwardsCurve

/-- The algorithm is a message authentication code. -/
def isMac (algorithm : Algorithm) : Bool := algorithm.family == .secret

end Algorithm

end ClientAssertion

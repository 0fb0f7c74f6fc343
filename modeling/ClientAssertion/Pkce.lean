/-
**Proof keys for codes (RFC 7636).**

A client binds a code to a challenge and later shows the verifier behind it.

* `CodeVerifier` is a text of 43 to 128 unreserved octets; `CodeVerifier.of?` says what is
  wrong with another text, and `CodeVerifier.generate` makes one from 32 octets;
* `ChallengeMethod.derive` is the challenge of a verifier;
* `checkVerifier` decides whether a token request shows the verifier that an authorization asks
  for.
-/

import ClientAssertion.AuthError
import ClientAssertion.Authorization
import ClientAssertion.Base64Url
import ClientAssertion.Digest.Sha2

namespace ClientAssertion

/-! ### Errors -/

/-- Why a verifier is refused. -/
inductive PkceError where
  | missingVerifier
  | verificationFailed
  | challengeRequired
  | unsupportedMethod (method : String)
  | invalidLength (octets : Nat)
  | invalidCharacters
deriving DecidableEq, Repr

namespace PkceError

/-- The text of an error. -/
def message : PkceError → String
  | .missingVerifier => "code_verifier missing"
  | .verificationFailed => "invalid code_verifier"
  | .challengeRequired => "code_challenge required"
  | .unsupportedMethod method => "unsupported code_challenge_method: " ++ method
  | .invalidLength octets => "code_verifier must be 43 to 128 characters, got " ++ toString octets
  | .invalidCharacters => "code_verifier may only contain unreserved characters"

/-- The verifier itself is malformed. -/
def isVerifierError : PkceError → Bool
  | .invalidLength _ | .invalidCharacters => true
  | _ => false

/-- The error code of a response. -/
def code (error : PkceError) : String :=
  if error.isVerifierError then "invalid_request" else "invalid_grant"

/-- The group of an error. -/
def category (error : PkceError) : ErrorCategory :=
  if error.isVerifierError then .validation else .authentication

end PkceError

/-! ### Verifiers -/

/-- An octet that may stand in a verifier. -/
def isUnreserved (octet : UInt8) : Bool :=
  let char := Char.ofNat octet.toNat
  char.isAlphanum || char == '-' || char == '.' || char == '_' || char == '~'

/-- A text that a challenge can be derived from. -/
structure CodeVerifier where
  text : String
  valid : (43 ≤ text.utf8ByteSize ∧ text.utf8ByteSize ≤ 128) ∧ (Bytes.ofText text).all isUnreserved
deriving DecidableEq

namespace CodeVerifier

/-- The verifier with a text. -/
def of? (text : String) : Except PkceError CodeVerifier :=
  if length : 43 ≤ text.utf8ByteSize ∧ text.utf8ByteSize ≤ 128 then
    if octets : (Bytes.ofText text).all isUnreserved then .ok ⟨text, length, octets⟩
    else .error .invalidCharacters
  else .error (.invalidLength text.utf8ByteSize)

/-- The text of the verifier that entropy makes. -/
def generate (entropy : Bytes) : String := Base64Url.encode entropy

end CodeVerifier

/-! ### Challenges -/

/-- How a challenge is derived from its verifier. -/
inductive ChallengeMethod where
  | s256
  | plain
deriving DecidableEq, Repr

namespace ChallengeMethod

/-- The value of the parameter `code_challenge_method`. -/
def name : ChallengeMethod → String
  | .s256 => "S256"
  | .plain => "plain"

/-- The method that a name stands for. -/
def of? (name : String) : Except PkceError ChallengeMethod :=
  if name = "S256" then .ok .s256
  else if name = "plain" then .ok .plain
  else .error (.unsupportedMethod name)

/-- The method where none is named. -/
def default : ChallengeMethod := .plain

/-- The challenge of a verifier. -/
def derive (method : ChallengeMethod) (verifier : String) : String :=
  match method with
  | .s256 => Base64Url.encode (Digest.sha256 (Bytes.ofText verifier))
  | .plain => verifier

/-- The verifier is the one behind the challenge. -/
def check (method : ChallengeMethod) (challenge verifier : String) : Except PkceError Unit :=
  if method.derive verifier = challenge then .ok () else .error .verificationFailed

end ChallengeMethod

/-! ### Token requests -/

/-- The verifier of a token request is the one that the authorization asks for.  Without a
challenge the request passes, unless the client has to use one. -/
def checkVerifier (authorization : Authorization) (client : Client) (verifier : Option String) :
    Except PkceError Unit :=
  match authorization.codeChallenge? with
  | none => if client.settings.requireProofKey then .error .challengeRequired else .ok ()
  | some challenge =>
    match verifier.filter (· ≠ "") with
    | none => .error .missingVerifier
    | some verifier => do
      let method ← (authorization.codeChallengeMethod?.map ChallengeMethod.of?).getD (.ok .default)
      method.check challenge verifier

end ClientAssertion

/-
**Assertions of clients (RFC 7523, section 3).**

An assertion has to name the client as issuer and subject and the token endpoint among its
audiences, and it has to be used before it expires and not before it is valid, to the nanosecond.

* `Claims.violations` lists every claim that is rejected, in the order of `Claim.all`;
* `Claims.validity` is the time for which claims without a violation hold;
* `Assertion.validate` checks the signature first and then the claims.
-/

import ClientAssertion.Time.Timestamp
import ClientAssertion.Verifier

namespace ClientAssertion

/-- What an assertion has to claim. -/
structure ExpectedClaims where
  issuer : String
  subject : String
  audience : String
deriving DecidableEq, Repr

/-- What the assertion of a client about itself has to claim. -/
def ExpectedClaims.ofClient (clientId audience : String) : ExpectedClaims :=
  ⟨clientId, clientId, audience⟩

/-- The time for which an assertion holds. -/
structure Validity where
  issuedAt : Option Instant
  expiresAt : Instant
deriving DecidableEq, Repr

namespace Claims

/-! ### Single claims -/

/-- What is said of a claim that is not there. -/
def missing (claim : Claim) : String := "The " ++ claim.name ++ " claim is missing"

/-- What is said of a claim with a wrong value. -/
def invalid (claim : Claim) : String := "The " ++ claim.name ++ " claim is not valid"

/-- Why an identifier is rejected. -/
def identifierReason? (claim : Claim) (actual : Option String) (expected : String) : Option String :=
  match actual with
  | none => some (missing claim)
  | some actual => if actual = expected then none else some (invalid claim)

/-- Why the audience is rejected. -/
def audienceReason? (actual : Option Audience) (expected : String) : Option String :=
  match actual with
  | none => some (missing .aud)
  | some audience => if audience.contains expected then none else some (invalid .aud)

/-- Why the expiry is rejected. -/
def expiryReason? (expiresAt : Option Int) (now : Instant) : Option String :=
  match expiresAt with
  | none => some (missing .exp)
  | some seconds =>
    match Instant.ofSeconds? seconds with
    | none => some (invalid .exp)
    | some expiry => if expiry ≤ now then some ("Jwt expired at " ++ expiry.text) else none

/-- Why the start is rejected. -/
def startReason? (notBefore : Option Int) (now : Instant) : Option String :=
  match notBefore with
  | none => none
  | some seconds =>
    match Instant.ofSeconds? seconds with
    | none => some (invalid .nbf)
    | some start => if now < start then some ("Jwt used before " ++ start.text) else none

/-- Why the time of issue is rejected. -/
def issueReason? (issuedAt : Option Int) : Option String :=
  match issuedAt with
  | none => none
  | some seconds => if (Instant.ofSeconds? seconds).isSome then none else some (invalid .iat)

/-! ### All claims -/

/-- Why a claim is rejected, if it is. -/
def reason? (claims : Claims) (expected : ExpectedClaims) (now : Instant) : Claim → Option String
  | .iss => identifierReason? .iss claims.issuer expected.issuer
  | .sub => identifierReason? .sub claims.subject expected.subject
  | .aud => audienceReason? claims.audience expected.audience
  | .exp => expiryReason? claims.expiresAt now
  | .nbf => startReason? claims.notBefore now
  | .iat => issueReason? claims.issuedAt

/-- The rejected claims, in order. -/
def violations (claims : Claims) (expected : ExpectedClaims) (now : Instant) : List ClaimViolation :=
  Claim.all.filterMap fun claim =>
    (claims.reason? expected now claim).map fun reason => ⟨claim, reason⟩

/-- The time for which the claims hold, unless one of them is rejected. -/
def validity (claims : Claims) (expected : ExpectedClaims) (now : Instant) :
    Except (List ClaimViolation) Validity :=
  match claims.violations expected now, claims.expiresAt >>= Instant.ofSeconds? with
  | [], some expiresAt => .ok ⟨claims.issuedAt >>= Instant.ofSeconds?, expiresAt⟩
  | violations, _ => .error violations

end Claims

/-! ### Assertions -/

/-- An assertion whose signature and claims were found right. -/
structure Assertion where
  token : String
  header : Header
  claims : Claims
  validity : Validity
deriving DecidableEq

namespace Assertion

/-- The assertion that a decoded token makes, if its claims are right. -/
def ofDecoded (token : String) (expected : ExpectedClaims) (now : Instant) (decoded : Decoded) :
    Except JwtError Assertion :=
  match decoded.claims.validity expected now with
  | .ok validity => .ok ⟨token, decoded.header, decoded.claims, validity⟩
  | .error violations => .error (.validation violations)

/-- The outcome of a validation, with the calls to the source of keys and what they leave. -/
structure Outcome (State : Type) where
  result : Except JwtError Assertion
  calls : List KeyCall
  events : List Event
  state : State

/-- The validation of a token. -/
def validate {State : Type} (verifier : Verifier) (source : KeySource State)
    (expected : ExpectedClaims) (now : Instant) (token : String) (state : State) : Outcome State :=
  let outcome := verifier.verify source token state
  ⟨outcome.result >>= ofDecoded token expected now, outcome.calls, outcome.events, outcome.state⟩

end Assertion

end ClientAssertion

/-
**Which claims are rejected, and when an assertion is in force.**

* `Claims.Rejects` says of each claim why it is rejected, one case for each reason, and
  `mem_violations_iff` that exactly these reasons are reported;
* `map_claim_violations`: the reported claims stand in the order of the checks, each at most once;
* `reason?_congr`: what is said of a claim depends on no other claim;
* `Claims.Sound` and `Claims.InForce` part what is checked of an assertion at all times from what is
  checked of the clock, and `Assertion.validate_accepts_iff`: behind a right signature an assertion
  is accepted from its start up to, but not at, its expiry;
* `claims_checked_exactly` is all of this of all claims.
-/

import ClientAssertion.Proofs.Assertion

namespace ClientAssertion

namespace Claims

variable {claims : Claims} {expected : ExpectedClaims} {now : Instant}

/-! ### Reasons -/

/-- **Why a claim is rejected.** Issuer, subject, audience and expiry have to be there; a time that
is there has to be one of the calendar. -/
inductive Rejects (claims : Claims) (expected : ExpectedClaims) (now : Instant) :
    Claim → String → Prop where
  | issuerMissing (absent : claims.issuer = none) :
      Rejects claims expected now .iss "The iss claim is missing"
  | issuerOther {issuer : String} (stated : claims.issuer = some issuer)
      (other : issuer ≠ expected.issuer) :
      Rejects claims expected now .iss "The iss claim is not valid"
  | subjectMissing (absent : claims.subject = none) :
      Rejects claims expected now .sub "The sub claim is missing"
  | subjectOther {subject : String} (stated : claims.subject = some subject)
      (other : subject ≠ expected.subject) :
      Rejects claims expected now .sub "The sub claim is not valid"
  | audienceMissing (absent : claims.audience = none) :
      Rejects claims expected now .aud "The aud claim is missing"
  | audienceOther {audience : Audience} (stated : claims.audience = some audience)
      (other : expected.audience ∉ audience.toList) :
      Rejects claims expected now .aud "The aud claim is not valid"
  | expiryMissing (absent : claims.expiresAt = none) :
      Rejects claims expected now .exp "The exp claim is missing"
  | expiryOutside {seconds : Int} (stated : claims.expiresAt = some seconds)
      (outside : ¬Instant.Representable seconds) :
      Rejects claims expected now .exp "The exp claim is not valid"
  | expired {seconds : Int} (stated : claims.expiresAt = some seconds)
      (inside : Instant.Representable seconds) (past : Instant.ofSeconds seconds ≤ now) :
      Rejects claims expected now .exp ("Jwt expired at " ++ (Instant.ofSeconds seconds).text)
  | startOutside {seconds : Int} (stated : claims.notBefore = some seconds)
      (outside : ¬Instant.Representable seconds) :
      Rejects claims expected now .nbf "The nbf claim is not valid"
  | early {seconds : Int} (stated : claims.notBefore = some seconds)
      (inside : Instant.Representable seconds) (ahead : now < Instant.ofSeconds seconds) :
      Rejects claims expected now .nbf ("Jwt used before " ++ (Instant.ofSeconds seconds).text)
  | issueOutside {seconds : Int} (stated : claims.issuedAt = some seconds)
      (outside : ¬Instant.Representable seconds) :
      Rejects claims expected now .iat "The iat claim is not valid"

theorem identifierReason?_eq_some_iff {claim : Claim} {actual : Option String}
    {expected reason : String} :
    identifierReason? claim actual expected = some reason ↔
      (actual = none ∧ missing claim = reason) ∨
        ∃ value, actual = some value ∧ value ≠ expected ∧ invalid claim = reason := by
  cases actual <;> simp [identifierReason?]

theorem audienceReason?_eq_some_iff {actual : Option Audience} {expected reason : String} :
    audienceReason? actual expected = some reason ↔
      (actual = none ∧ missing .aud = reason) ∨
        ∃ audience, actual = some audience ∧ expected ∉ audience.toList ∧
          invalid .aud = reason := by
  cases actual <;> simp [audienceReason?, Audience.contains]

theorem expiryReason?_eq_some_iff {expiresAt : Option Int} {reason : String} :
    expiryReason? expiresAt now = some reason ↔
      (expiresAt = none ∧ missing .exp = reason) ∨
        ∃ seconds, expiresAt = some seconds ∧
          ((¬Instant.Representable seconds ∧ invalid .exp = reason) ∨
            Instant.Representable seconds ∧ Instant.ofSeconds seconds ≤ now ∧
              "Jwt expired at " ++ (Instant.ofSeconds seconds).text = reason) := by
  cases expiresAt with
  | none => simp [expiryReason?]
  | some seconds =>
    cases found : Instant.ofSeconds? seconds with
    | none =>
      have outside := Instant.ofSeconds?_eq_none_iff.mp found
      simp [expiryReason?, found, outside]
    | some expiry =>
      obtain ⟨inside, rfl⟩ := Instant.ofSeconds?_eq_some_iff.mp found
      simp [expiryReason?, found, inside]

/-- At its expiry an assertion has run out, and a nanosecond before it has not. -/
example :
    expiryReason? (some 1700000300) ⟨1700000300000000000⟩ =
        some "Jwt expired at 2023-11-14 22:18:20.0 +00:00:00" ∧
      expiryReason? (some 1700000300) ⟨1700000299999999999⟩ = none := by
  decide +kernel

theorem startReason?_eq_some_iff {notBefore : Option Int} {reason : String} :
    startReason? notBefore now = some reason ↔ ∃ seconds, notBefore = some seconds ∧
      ((¬Instant.Representable seconds ∧ invalid .nbf = reason) ∨
        Instant.Representable seconds ∧ now < Instant.ofSeconds seconds ∧
          "Jwt used before " ++ (Instant.ofSeconds seconds).text = reason) := by
  cases notBefore with
  | none => simp [startReason?]
  | some seconds =>
    cases found : Instant.ofSeconds? seconds with
    | none =>
      have outside := Instant.ofSeconds?_eq_none_iff.mp found
      simp [startReason?, found, outside]
    | some start =>
      obtain ⟨inside, rfl⟩ := Instant.ofSeconds?_eq_some_iff.mp found
      simp [startReason?, found, inside]

theorem issueReason?_eq_some_iff {issuedAt : Option Int} {reason : String} :
    issueReason? issuedAt = some reason ↔ ∃ seconds, issuedAt = some seconds ∧
      ¬Instant.Representable seconds ∧ invalid .iat = reason := by
  cases issuedAt with
  | none => simp [issueReason?]
  | some seconds =>
    cases found : Instant.ofSeconds? seconds with
    | none =>
      have outside := Instant.ofSeconds?_eq_none_iff.mp found
      simp [issueReason?, found, outside]
    | some issue =>
      obtain ⟨inside, -⟩ := Instant.ofSeconds?_eq_some_iff.mp found
      simp [issueReason?, found, inside]

/-- **A claim is rejected for exactly its reason.** -/
theorem reason?_eq_some_iff {claim : Claim} {reason : String} :
    claims.reason? expected now claim = some reason ↔ claims.Rejects expected now claim reason := by
  cases claim with
  | iss =>
    rw [reason?, identifierReason?_eq_some_iff]
    constructor
    · rintro (⟨absent, rfl⟩ | ⟨issuer, stated, other, rfl⟩)
      · exact .issuerMissing absent
      · exact .issuerOther stated other
    · intro rejects
      cases rejects with
      | issuerMissing absent => exact .inl ⟨absent, rfl⟩
      | issuerOther stated other => exact .inr ⟨_, stated, other, rfl⟩
  | sub =>
    rw [reason?, identifierReason?_eq_some_iff]
    constructor
    · rintro (⟨absent, rfl⟩ | ⟨subject, stated, other, rfl⟩)
      · exact .subjectMissing absent
      · exact .subjectOther stated other
    · intro rejects
      cases rejects with
      | subjectMissing absent => exact .inl ⟨absent, rfl⟩
      | subjectOther stated other => exact .inr ⟨_, stated, other, rfl⟩
  | aud =>
    rw [reason?, audienceReason?_eq_some_iff]
    constructor
    · rintro (⟨absent, rfl⟩ | ⟨audience, stated, other, rfl⟩)
      · exact .audienceMissing absent
      · exact .audienceOther stated other
    · intro rejects
      cases rejects with
      | audienceMissing absent => exact .inl ⟨absent, rfl⟩
      | audienceOther stated other => exact .inr ⟨_, stated, other, rfl⟩
  | exp =>
    rw [reason?, expiryReason?_eq_some_iff]
    constructor
    · rintro (⟨absent, rfl⟩ | ⟨seconds, stated, ⟨outside, rfl⟩ | ⟨inside, past, rfl⟩⟩)
      · exact .expiryMissing absent
      · exact .expiryOutside stated outside
      · exact .expired stated inside past
    · intro rejects
      cases rejects with
      | expiryMissing absent => exact .inl ⟨absent, rfl⟩
      | expiryOutside stated outside => exact .inr ⟨_, stated, .inl ⟨outside, rfl⟩⟩
      | expired stated inside past => exact .inr ⟨_, stated, .inr ⟨inside, past, rfl⟩⟩
  | nbf =>
    rw [reason?, startReason?_eq_some_iff]
    constructor
    · rintro ⟨seconds, stated, ⟨outside, rfl⟩ | ⟨inside, ahead, rfl⟩⟩
      · exact .startOutside stated outside
      · exact .early stated inside ahead
    · intro rejects
      cases rejects with
      | startOutside stated outside => exact ⟨_, stated, .inl ⟨outside, rfl⟩⟩
      | early stated inside ahead => exact ⟨_, stated, .inr ⟨inside, ahead, rfl⟩⟩
  | iat =>
    rw [reason?, issueReason?_eq_some_iff]
    constructor
    · rintro ⟨seconds, stated, outside, rfl⟩
      exact .issueOutside stated outside
    · intro rejects
      cases rejects with
      | issueOutside stated outside => exact ⟨_, stated, outside, rfl⟩

/-- A claim is rejected for some reason exactly when it is not right. -/
theorem exists_rejects_iff {claim : Claim} :
    (∃ reason, claims.Rejects expected now claim reason) ↔ ¬claims.Holds expected now claim := by
  simp only [← reason?_eq_some_iff, ← reason?_eq_none_iff, ← Option.isSome_iff_exists,
    ← Option.isSome_iff_ne_none]

/-! ### The report -/

/-- **The rejected claims stand in the order of the checks.** -/
theorem map_claim_violations (claims : Claims) (expected : ExpectedClaims) (now : Instant) :
    (claims.violations expected now).map (·.claim) =
      Claim.all.filter fun claim => (claims.reason? expected now claim).isSome := by
  rw [violations]
  induction Claim.all with
  | nil => rfl
  | cons claim rest hypothesis =>
    cases found : claims.reason? expected now claim <;> simp [found, hypothesis]

/-- **Exactly the rejected claims are reported**, each with its reason. -/
theorem mem_violations_iff {violation : ClaimViolation} :
    violation ∈ claims.violations expected now ↔
      claims.Rejects expected now violation.claim violation.reason := by
  have all : violation.claim ∈ Claim.all := by
    cases violation.claim <;> decide
  simp only [violations, List.mem_filterMap, Option.map_eq_some_iff, ← reason?_eq_some_iff]
  constructor
  · rintro ⟨claim, -, reason, found, rfl⟩
    exact found
  · intro found
    exact ⟨violation.claim, all, violation.reason, found, rfl⟩

/-- Two assertions claim the same of what a claim is about. -/
def AgreeOn (first second : Claims) : Claim → Prop
  | .iss => first.issuer = second.issuer
  | .sub => first.subject = second.subject
  | .aud => first.audience = second.audience
  | .exp => first.expiresAt = second.expiresAt
  | .nbf => first.notBefore = second.notBefore
  | .iat => first.issuedAt = second.issuedAt

/-- **What is said of a claim depends on no other claim.** -/
theorem reason?_congr {other : Claims} {claim : Claim} (agree : claims.AgreeOn other claim) :
    claims.reason? expected now claim = other.reason? expected now claim := by
  cases claim with
  | iss => exact congrArg (identifierReason? .iss · expected.issuer) agree
  | sub => exact congrArg (identifierReason? .sub · expected.subject) agree
  | aud => exact congrArg (audienceReason? · expected.audience) agree
  | exp => exact congrArg (expiryReason? · now) agree
  | nbf => exact congrArg (startReason? · now) agree
  | iat => exact congrArg issueReason? agree

theorem exists_validity_iff :
    (∃ validity, claims.validity expected now = .ok validity) ↔
      claims.violations expected now = [] := by
  rw [violations_eq_nil_iff]
  constructor
  · rintro ⟨validity, holds⟩
    exact (validity_eq_ok_iff.mp holds).1
  · intro right
    obtain ⟨expiry, stated, -⟩ := right .exp
    exact ⟨⟨claims.issuedAt.map Instant.ofSeconds, Instant.ofSeconds expiry⟩,
      validity_eq_ok_iff.mpr ⟨right, rfl, by rw [stated, Option.map_some]⟩⟩

/-- Claims have no time for which they hold exactly when there is a complaint, and the complaints
are the answer. -/
theorem validity_eq_error_iff {reported : List ClaimViolation} :
    claims.validity expected now = .error reported ↔
      reported = claims.violations expected now ∧ reported ≠ [] := by
  cases checked : claims.validity expected now with
  | ok validity =>
    have none := exists_validity_iff.mp ⟨validity, checked⟩
    simp [none]
  | error found =>
    have wrong : claims.violations expected now ≠ [] := by
      intro none
      obtain ⟨validity, holds⟩ := exists_validity_iff.mpr none
      rw [holds] at checked
      cases checked
    have same : found = claims.violations expected now := by
      unfold validity at checked
      split at checked
      case h_1 => cases checked
      case h_2 => exact (Except.error.inj checked).symm
    constructor
    · intro answered
      obtain rfl := Except.error.inj answered
      exact ⟨same, same ▸ wrong⟩
    · rintro ⟨rfl, -⟩
      rw [same]

/-! ### The clock -/

/-- **What has to be the case of an assertion at any time**: it names the client and the audience,
it has an expiry, and its times are ones of the calendar. -/
structure Sound (claims : Claims) (expected : ExpectedClaims) : Prop where
  issuer : claims.issuer = some expected.issuer
  subject : claims.subject = some expected.subject
  audience : ∃ audience, claims.audience = some audience ∧ expected.audience ∈ audience.toList
  expiry : ∃ seconds, claims.expiresAt = some seconds ∧ Instant.Representable seconds
  start : ∀ seconds, claims.notBefore = some seconds → Instant.Representable seconds
  issue : ∀ seconds, claims.issuedAt = some seconds → Instant.Representable seconds

/-- **An assertion is in force** from its start, if it has one, up to but not at its expiry. -/
structure InForce (claims : Claims) (now : Instant) : Prop where
  begun : ∀ seconds, claims.notBefore = some seconds → Instant.ofSeconds seconds ≤ now
  unexpired : ∃ seconds, claims.expiresAt = some seconds ∧ now < Instant.ofSeconds seconds

theorem holds_iff_sound_inForce :
    (∀ claim, claims.Holds expected now claim) ↔ claims.Sound expected ∧ claims.InForce now := by
  constructor
  · intro right
    obtain ⟨expiry, stated, inside, ahead⟩ := right .exp
    exact ⟨⟨right .iss, right .sub, right .aud, ⟨expiry, stated, inside⟩,
        fun start stated => (right .nbf start stated).1, right .iat⟩,
      fun start stated => (right .nbf start stated).2, expiry, stated, ahead⟩
  · rintro ⟨sound, begun, expiry, stated, ahead⟩ claim
    cases claim with
    | iss => exact sound.issuer
    | sub => exact sound.subject
    | aud => exact sound.audience
    | exp =>
      obtain ⟨seconds, same, inside⟩ := sound.expiry
      obtain rfl := Option.some.inj (stated.symm.trans same)
      exact ⟨expiry, stated, inside, ahead⟩
    | nbf => exact fun start same => ⟨sound.start start same, begun start same⟩
    | iat => exact sound.issue

end Claims

/-! ### Assertions -/

section Assertions

variable {State : Type} {verifier : Verifier} {source : KeySource State} {token : String}
  {state : State} {expected : ExpectedClaims} {now : Instant} {header : Header} {claims : Claims}

/-- **Behind a right signature an assertion is accepted exactly while it is in force**, and never if
it is not sound. -/
theorem Assertion.validate_accepts_iff
    (signed : (verifier.verify source token state).result = .ok ⟨header, claims⟩) :
    (∃ assertion, (Assertion.validate verifier source expected now token state).result =
        .ok assertion) ↔ claims.Sound expected ∧ claims.InForce now := by
  rw [← Claims.holds_iff_sound_inForce, ← Claims.violations_eq_nil_iff,
    ← Claims.exists_validity_iff]
  constructor
  · rintro ⟨assertion, accepted⟩
    obtain ⟨-, same, holds⟩ := Assertion.validate_eq_ok_iff.mp accepted
    obtain ⟨-, rfl⟩ := Decoded.mk.inj (Except.ok.inj (signed.symm.trans same))
    exact ⟨assertion.validity, holds⟩
  · rintro ⟨validity, holds⟩
    exact ⟨⟨token, header, claims, validity⟩,
      Assertion.validate_eq_ok_iff.mpr ⟨rfl, signed, holds⟩⟩

/-- **Behind a right signature an assertion is refused for its rejected claims and for nothing
else**, of which there is at least one. -/
theorem Assertion.validate_refuses_iff
    (signed : (verifier.verify source token state).result = .ok ⟨header, claims⟩) {error : JwtError} :
    (Assertion.validate verifier source expected now token state).result = .error error ↔
      error = .validation (claims.violations expected now) ∧
        claims.violations expected now ≠ [] := by
  show (verifier.verify source token state).result >>= Assertion.ofDecoded token expected now = _ ↔ _
  rw [signed]
  show Assertion.ofDecoded token expected now ⟨header, claims⟩ = _ ↔ _
  unfold Assertion.ofDecoded
  cases checked : claims.validity expected now with
  | ok validity =>
    have none := Claims.exists_validity_iff.mp ⟨validity, checked⟩
    simp [none]
  | error reported =>
    obtain ⟨rfl, wrong⟩ := Claims.validity_eq_error_iff.mp checked
    simp [wrong, eq_comm]

end Assertions

/-- **Checking claims is exact and complete.** For all claims, expectations and instants:

* the reported claims stand in the order of the checks, each at most once, and exactly the claims
  are reported that are not right, each for its reason;
* what is reported of a claim is the same for all claims that agree on it;
* claims without a complaint hold, from their time of issue, if they have one, to their expiry; for
  all others the complaints are the answer, never an empty list of them;
* behind a right signature, under any verifier and source of keys, a sound assertion is accepted at
  exactly the instants from its start up to, but not at, its expiry, an assertion that is not sound
  at none, and the refusals are the complaints. -/
theorem claims_checked_exactly (claims : Claims) (expected : ExpectedClaims) (now : Instant) :
    let violations := claims.violations expected now
    ((violations.map (·.claim)).Sublist [.iss, .sub, .aud, .exp, .nbf, .iat] ∧
      (violations.map (·.claim)).Nodup ∧
      (∀ claim, claim ∈ violations.map (·.claim) ↔ ¬claims.Holds expected now claim) ∧
      ∀ claim reason, ⟨claim, reason⟩ ∈ violations ↔ claims.Rejects expected now claim reason) ∧
    (∀ (other : Claims) claim, claims.AgreeOn other claim → ∀ reason,
      ⟨claim, reason⟩ ∈ violations ↔ ⟨claim, reason⟩ ∈ other.violations expected now) ∧
    (((∃ validity, claims.validity expected now = .ok validity) ↔ violations = []) ∧
      (∀ validity, claims.validity expected now = .ok validity →
        claims.expiresAt.map Instant.ofSeconds = some validity.expiresAt ∧
          validity.issuedAt = claims.issuedAt.map Instant.ofSeconds) ∧
      ∀ reported, claims.validity expected now = .error reported ↔
        reported = violations ∧ reported ≠ []) ∧
    ∀ {State : Type} (verifier : Verifier) (source : KeySource State) (token : String)
      (state : State) (header : Header),
      (verifier.verify source token state).result = .ok ⟨header, claims⟩ →
      (∀ instant,
        (∃ assertion, (Assertion.validate verifier source expected instant token state).result =
          .ok assertion) ↔ claims.Sound expected ∧ claims.InForce instant) ∧
      ∀ error, (Assertion.validate verifier source expected now token state).result =
          .error error ↔ error = .validation violations ∧ violations ≠ [] := by
  intro violations
  have ordered := Claims.map_claim_violations claims expected now
  refine ⟨⟨?_, ?_, fun claim => ?_, fun claim reason => Claims.mem_violations_iff⟩,
    fun other claim agree reason => ?_, ⟨Claims.exists_validity_iff, fun validity holds => ?_,
      fun reported => Claims.validity_eq_error_iff⟩,
    fun verifier source token state header signed =>
      ⟨fun instant => Assertion.validate_accepts_iff signed,
        fun error => Assertion.validate_refuses_iff signed⟩⟩
  · rw [ordered]
    exact List.filter_sublist
  · rw [ordered]
    exact List.Pairwise.filter _ (by decide)
  · rw [← Claims.exists_rejects_iff, List.mem_map]
    constructor
    · rintro ⟨violation, reported, rfl⟩
      exact ⟨violation.reason, Claims.mem_violations_iff.mp reported⟩
    · rintro ⟨reason, rejects⟩
      exact ⟨⟨claim, reason⟩, Claims.mem_violations_iff.mpr rejects, rfl⟩
  · simp only [violations, Claims.mem_violations_iff, ← Claims.reason?_eq_some_iff,
      Claims.reason?_congr agree]
  · obtain ⟨-, issued, expires⟩ := Claims.validity_eq_ok_iff.mp holds
    exact ⟨expires, issued⟩

end ClientAssertion

/-
**When the claims of an assertion are right.**

* `Claims.Holds` says of each claim what has to be the case, and `reason?_eq_none_iff` that a claim
  is not rejected exactly then;
* `validity_eq_ok_iff`: claims have a time for which they hold exactly when all of them are right,
  and it is the time that they state.
-/

import ClientAssertion.Assertion
import Mathlib.Tactic.SplitIfs

namespace ClientAssertion

/-! ### Instants -/

/-- The calendar, with the years -9999 to 9999, holds a second after the epoch. -/
def Instant.Representable (seconds : Int) : Prop :=
  -377705116800 ≤ seconds ∧ seconds ≤ 253402300799

instance (seconds : Int) : Decidable (Instant.Representable seconds) :=
  inferInstanceAs (Decidable (_ ∧ _))

theorem Instant.ofSeconds?_eq_some_iff {seconds : Int} {instant : Instant} :
    Instant.ofSeconds? seconds = some instant ↔
      Instant.Representable seconds ∧ instant = Instant.ofSeconds seconds := by
  show (if Instant.Representable seconds then some (Instant.ofSeconds seconds) else none) = _ ↔ _
  rw [Option.ite_none_right_eq_some, Option.some.injEq]
  exact and_congr_right fun _ => eq_comm

theorem Instant.ofSeconds?_eq_none_iff {seconds : Int} :
    Instant.ofSeconds? seconds = none ↔ ¬Instant.Representable seconds := by
  show (if Instant.Representable seconds then some (Instant.ofSeconds seconds) else none) = _ ↔ _
  simp

/-- Times that the calendar holds are the instants that they state. -/
theorem Instant.bind_ofSeconds? {stated : Option Int}
    (inside : ∀ seconds, stated = some seconds → Instant.Representable seconds) :
    stated >>= Instant.ofSeconds? = stated.map Instant.ofSeconds := by
  cases stated with
  | none => rfl
  | some seconds => exact Instant.ofSeconds?_eq_some_iff.mpr ⟨inside seconds rfl, rfl⟩

theorem Instant.not_le_iff {first second : Instant} : ¬first ≤ second ↔ second < first := Int.not_le

theorem Instant.not_lt_iff {first second : Instant} : ¬first < second ↔ second ≤ first := Int.not_lt

namespace Claims

variable {claims : Claims} {expected : ExpectedClaims} {now : Instant}

/-! ### Single claims -/

/-- **What has to be the case of each claim.** Issuer, subject, audience and expiry have to be there;
a time that is there has to be one of the calendar. -/
def Holds (claims : Claims) (expected : ExpectedClaims) (now : Instant) : Claim → Prop
  | .iss => claims.issuer = some expected.issuer
  | .sub => claims.subject = some expected.subject
  | .aud => ∃ audience, claims.audience = some audience ∧ expected.audience ∈ audience.toList
  | .exp => ∃ seconds, claims.expiresAt = some seconds ∧ Instant.Representable seconds ∧
      now < Instant.ofSeconds seconds
  | .nbf => ∀ seconds, claims.notBefore = some seconds → Instant.Representable seconds ∧
      Instant.ofSeconds seconds ≤ now
  | .iat => ∀ seconds, claims.issuedAt = some seconds → Instant.Representable seconds

theorem identifierReason?_eq_none_iff {claim : Claim} {actual : Option String} {expected : String} :
    identifierReason? claim actual expected = none ↔ actual = some expected := by
  cases actual <;> simp [identifierReason?]

theorem audienceReason?_eq_none_iff {actual : Option Audience} {expected : String} :
    audienceReason? actual expected = none ↔
      ∃ audience, actual = some audience ∧ expected ∈ audience.toList := by
  cases actual <;> simp [audienceReason?, Audience.contains]

theorem expiryReason?_eq_none_iff {expiresAt : Option Int} :
    expiryReason? expiresAt now = none ↔ ∃ seconds, expiresAt = some seconds ∧
      Instant.Representable seconds ∧ now < Instant.ofSeconds seconds := by
  cases expiresAt with
  | none => simp [expiryReason?]
  | some seconds =>
    cases found : Instant.ofSeconds? seconds with
    | none =>
      have outside := Instant.ofSeconds?_eq_none_iff.mp found
      simp [expiryReason?, found, outside]
    | some expiry =>
      obtain ⟨inside, rfl⟩ := Instant.ofSeconds?_eq_some_iff.mp found
      simp [expiryReason?, found, inside, Instant.not_le_iff]

theorem startReason?_eq_none_iff {notBefore : Option Int} :
    startReason? notBefore now = none ↔ ∀ seconds, notBefore = some seconds →
      Instant.Representable seconds ∧ Instant.ofSeconds seconds ≤ now := by
  cases notBefore with
  | none => simp [startReason?]
  | some seconds =>
    cases found : Instant.ofSeconds? seconds with
    | none =>
      have outside := Instant.ofSeconds?_eq_none_iff.mp found
      simp [startReason?, found, outside]
    | some start =>
      obtain ⟨inside, rfl⟩ := Instant.ofSeconds?_eq_some_iff.mp found
      simp [startReason?, found, inside, Instant.not_lt_iff]

theorem issueReason?_eq_none_iff {issuedAt : Option Int} :
    issueReason? issuedAt = none ↔
      ∀ seconds, issuedAt = some seconds → Instant.Representable seconds := by
  cases issuedAt with
  | none => simp [issueReason?]
  | some seconds =>
    cases found : Instant.ofSeconds? seconds with
    | none =>
      have outside := Instant.ofSeconds?_eq_none_iff.mp found
      simp [issueReason?, found, outside]
    | some issue =>
      obtain ⟨inside, -⟩ := Instant.ofSeconds?_eq_some_iff.mp found
      simp [issueReason?, found, inside]

/-- **Exactly a right claim is not rejected.** -/
theorem reason?_eq_none_iff {claim : Claim} :
    claims.reason? expected now claim = none ↔ claims.Holds expected now claim := by
  cases claim with
  | iss | sub => exact identifierReason?_eq_none_iff
  | aud => exact audienceReason?_eq_none_iff
  | exp => exact expiryReason?_eq_none_iff
  | nbf => exact startReason?_eq_none_iff
  | iat => exact issueReason?_eq_none_iff

/-! ### All claims -/

theorem violations_eq_nil_iff :
    claims.violations expected now = [] ↔ ∀ claim, claims.Holds expected now claim := by
  have all : ∀ claim, claim ∈ Claim.all := by
    intro claim
    cases claim <;> decide
  simp only [violations, List.filterMap_eq_nil_iff, Option.map_eq_none_iff, reason?_eq_none_iff]
  exact ⟨fun holds claim => holds claim (all claim), fun holds claim _ => holds claim⟩

/-- **Claims hold exactly when each of them is right**, and then for the time that they state. -/
theorem validity_eq_ok_iff {validity : Validity} :
    claims.validity expected now = .ok validity ↔
      (∀ claim, claims.Holds expected now claim) ∧
        validity.issuedAt = claims.issuedAt.map Instant.ofSeconds ∧
        claims.expiresAt.map Instant.ofSeconds = some validity.expiresAt := by
  by_cases right : ∀ claim, claims.Holds expected now claim
  · obtain ⟨expiry, stated, inside, -⟩ := right .exp
    have expires : claims.expiresAt >>= Instant.ofSeconds? = some (Instant.ofSeconds expiry) := by
      rw [stated]
      exact Instant.ofSeconds?_eq_some_iff.mpr ⟨inside, rfl⟩
    rw [Claims.validity, violations_eq_nil_iff.mpr right, expires,
      Instant.bind_ofSeconds? (right .iat), stated, Option.map_some]
    obtain ⟨issuedAt, expiresAt⟩ := validity
    simp [right, eq_comm]
  · have rejected : claims.violations expected now ≠ [] :=
      fun none => right (violations_eq_nil_iff.mp none)
    refine ⟨fun holds => ?_, fun ⟨holds, _⟩ => absurd holds right⟩
    unfold Claims.validity at holds
    split at holds
    case h_1 _ _ empty _ => exact absurd empty rejected
    case h_2 => cases holds

end Claims

/-! ### Assertions -/

/-- A token makes an assertion exactly when it is accepted and its claims hold. -/
theorem Assertion.validate_eq_ok_iff {State : Type} {verifier : Verifier} {source : KeySource State}
    {expected : ExpectedClaims} {now : Instant} {token : String} {state : State}
    {assertion : Assertion} :
    (Assertion.validate verifier source expected now token state).result = .ok assertion ↔
      assertion.token = token ∧
      (verifier.verify source token state).result = .ok ⟨assertion.header, assertion.claims⟩ ∧
      assertion.claims.validity expected now = .ok assertion.validity := by
  obtain ⟨written, header, claims, validity⟩ := assertion
  show (verifier.verify source token state).result >>= ofDecoded token expected now = _ ↔ _
  cases checked : (verifier.verify source token state).result with
  | error error => simp [bind, Except.bind]
  | ok decoded =>
    obtain ⟨found, read⟩ := decoded
    simp only [bind, Except.bind, ofDecoded]
    cases holds : read.validity expected now with
    | error violations =>
      simp only [reduceCtorEq, false_iff, not_and, Except.ok.injEq, Decoded.mk.injEq]
      rintro - ⟨-, rfl⟩
      simp [holds]
    | ok span =>
      simp only [Except.ok.injEq, Assertion.mk.injEq, Decoded.mk.injEq]
      constructor
      · rintro ⟨rfl, rfl, rfl, rfl⟩
        exact ⟨rfl, ⟨rfl, rfl⟩, holds⟩
      · rintro ⟨rfl, ⟨rfl, rfl⟩, same⟩
        exact ⟨rfl, rfl, rfl, Except.ok.inj (holds.symm.trans same)⟩

end ClientAssertion

/-
**What is said of a code's proof.**

* `ChallengeMethod.Opens` says when a verifier is the one behind a challenge: under `S256` the
  challenge has to be the one written form of the verifier's digest, and `derive_eq_iff` that this is
  what is compared;
* `PkceVerdict` relates a token request to the verdict on it, one case for each, and
  `checkVerifier_eq_iff`: a check has exactly that verdict;
* `checkVerifier_congr`: of an authorization and a client, the verdict depends on the stated challenge,
  its method and whether a challenge is required;
* `pkce_verdict` is all of this of every request.
-/

import ClientAssertion.Proofs.Base64Url
import ClientAssertion.Proofs.Pkce

namespace ClientAssertion

/-! ### Challenges -/

/-- **A verifier is the one behind a challenge**: it is the challenge itself, or the challenge is 43
characters that spell the verifier's digest in unpadded base64url. -/
def ChallengeMethod.Opens (challenge verifier : String) : ChallengeMethod → Prop
  | .plain => verifier = challenge
  | .s256 => challenge.length = 43 ∧
      Base64Url.decode? challenge = some (Digest.sha256 (Bytes.ofText verifier))

theorem ChallengeMethod.derive_eq_iff {method : ChallengeMethod} {challenge verifier : String} :
    method.derive verifier = challenge ↔ method.Opens challenge verifier := by
  cases method with
  | plain => rfl
  | s256 =>
    show Base64Url.encode (Digest.sha256 (Bytes.ofText verifier)) = challenge ↔ _ ∧ _
    rw [Base64Url.decode?_eq_some_iff]
    constructor
    · rintro rfl
      refine ⟨?_, rfl⟩
      rw [Base64Url.length_encode, Digest.length_sha256]
    · rintro ⟨-, written⟩
      exact written.symm

example : ChallengeMethod.s256.derive "dBjftJeZ4CVP-mB92K27uhbUJU1p1r_wW1gFWFOEjXk" =
    "E9Melhoa2OwvFrEMTJguCHaoeK1t8URWbuGJSstw-cM" := by
  decide +kernel

/-- An authorization uses at most one method. -/
theorem Authorization.Uses.unique {authorization : Authorization} {first second : ChallengeMethod}
    (one : authorization.Uses first) (two : authorization.Uses second) : first = second :=
  Except.ok.inj ((Authorization.uses_iff.mpr one).symm.trans (Authorization.uses_iff.mpr two))

/-! ### Verdicts -/

/-- **The verdict on a token request.** Without a challenge it passes, unless the client has to use
one. With a challenge, a verifier has to be shown, then the method has to be known, and then the
verifier has to be the one behind the challenge. An empty text is no challenge, method or verifier. -/
inductive PkceVerdict (authorization : Authorization) (client : Client) (shown : Option String) :
    Except PkceError Unit → Prop where
  | unbound (unstated : ∀ challenge, ¬authorization.States (·.codeChallenge) challenge)
      (optional : client.settings.requireProofKey = false) :
      PkceVerdict authorization client shown (.ok ())
  | challengeRequired (unstated : ∀ challenge, ¬authorization.States (·.codeChallenge) challenge)
      (required : client.settings.requireProofKey = true) :
      PkceVerdict authorization client shown (.error .challengeRequired)
  | missingVerifier {challenge : String} (bound : authorization.States (·.codeChallenge) challenge)
      (hidden : ∀ text, shown = some text → text = "") :
      PkceVerdict authorization client shown (.error .missingVerifier)
  | unsupportedMethod {challenge verifier name : String}
      (bound : authorization.States (·.codeChallenge) challenge) (given : shown = some verifier)
      (nonempty : verifier ≠ "") (named : authorization.States (·.codeChallengeMethod) name)
      (unknown : name ≠ "S256" ∧ name ≠ "plain") :
      PkceVerdict authorization client shown (.error (.unsupportedMethod name))
  | opened {challenge verifier : String} {method : ChallengeMethod}
      (bound : authorization.States (·.codeChallenge) challenge) (given : shown = some verifier)
      (nonempty : verifier ≠ "") (used : authorization.Uses method)
      (opens : method.Opens challenge verifier) : PkceVerdict authorization client shown (.ok ())
  | verificationFailed {challenge verifier : String} {method : ChallengeMethod}
      (bound : authorization.States (·.codeChallenge) challenge) (given : shown = some verifier)
      (nonempty : verifier ≠ "") (used : authorization.Uses method)
      (closed : ¬method.Opens challenge verifier) :
      PkceVerdict authorization client shown (.error .verificationFailed)

section Verdicts

variable {authorization : Authorization} {client : Client} {shown : Option String}

/-- The method of a challenge is read as the one that is used, or else as the error that names it. -/
theorem Authorization.method_cases (authorization : Authorization) :
    (∃ method, authorization.Uses method ∧
      (authorization.codeChallengeMethod?.map ChallengeMethod.of?).getD (.ok .default) = .ok method) ∨
    ∃ name, authorization.States (·.codeChallengeMethod) name ∧ (name ≠ "S256" ∧ name ≠ "plain") ∧
      (authorization.codeChallengeMethod?.map ChallengeMethod.of?).getD (.ok .default) =
        .error (.unsupportedMethod name) := by
  cases read : (authorization.codeChallengeMethod?.map ChallengeMethod.of?).getD (.ok .default) with
  | ok method => exact .inl ⟨method, Authorization.uses_iff.mp read, rfl⟩
  | error error =>
    cases stated : authorization.codeChallengeMethod? with
    | none => simp [stated] at read
    | some name =>
      simp only [stated, Option.map_some, Option.getD_some, ChallengeMethod.of?] at read
      split_ifs at read with s256 plain
      obtain rfl := Except.error.inj read
      exact .inr ⟨name, Authorization.states_iff.mp stated, ⟨s256, plain⟩, rfl⟩

/-- Every request has a verdict, and the check gives it. -/
theorem pkceVerdict_checkVerifier (authorization : Authorization) (client : Client)
    (shown : Option String) :
    PkceVerdict authorization client shown (checkVerifier authorization client shown) := by
  cases challenged : authorization.codeChallenge? with
  | none =>
    have unstated := Authorization.states_none_iff.mp challenged
    cases required : client.settings.requireProofKey with
    | true =>
      simp only [checkVerifier, challenged, required, if_true]
      exact .challengeRequired unstated required
    | false =>
      simp only [checkVerifier, challenged, required, Bool.false_eq_true, if_false]
      exact .unbound unstated required
  | some challenge =>
    have bound := Authorization.states_iff.mp challenged
    cases given : shown.filter (· ≠ "") with
    | none =>
      simp only [checkVerifier, challenged, given]
      exact .missingVerifier bound (filter_ne_empty_eq_none_iff.mp given)
    | some verifier =>
      obtain ⟨shows, nonempty⟩ := filter_ne_empty_eq_some_iff.mp given
      simp only [checkVerifier, challenged, given]
      obtain ⟨method, used, read⟩ | ⟨name, named, unknown, read⟩ := authorization.method_cases
      · simp only [read, bind, Except.bind, ChallengeMethod.check]
        split_ifs with same
        · exact .opened bound shows nonempty used (ChallengeMethod.derive_eq_iff.mp same)
        · exact .verificationFailed bound shows nonempty used (mt ChallengeMethod.derive_eq_iff.mpr same)
      · simp only [read, bind, Except.bind]
        exact .unsupportedMethod bound shows nonempty named unknown

/-- A request has no verdict but the one that the check gives. -/
theorem PkceVerdict.checkVerifier_eq {verdict : Except PkceError Unit}
    (decided : PkceVerdict authorization client shown verdict) :
    checkVerifier authorization client shown = verdict := by
  cases decided with
  | unbound unstated optional =>
    have challenged : authorization.codeChallenge? = none := Authorization.states_none_iff.mpr unstated
    simp [checkVerifier, challenged, optional]
  | challengeRequired unstated required =>
    have challenged : authorization.codeChallenge? = none := Authorization.states_none_iff.mpr unstated
    simp [checkVerifier, challenged, required]
  | @missingVerifier challenge bound hidden =>
    have challenged : authorization.codeChallenge? = some challenge :=
      Authorization.states_iff.mpr bound
    simp only [checkVerifier, challenged, filter_ne_empty_eq_none_iff.mpr hidden]
  | @unsupportedMethod challenge verifier name bound given nonempty named unknown =>
    have challenged : authorization.codeChallenge? = some challenge :=
      Authorization.states_iff.mpr bound
    have method : authorization.codeChallengeMethod? = some name := Authorization.states_iff.mpr named
    simp only [checkVerifier, challenged, filter_ne_empty_eq_some_iff.mpr ⟨given, nonempty⟩, method,
      Option.map_some, Option.getD_some, ChallengeMethod.of?, if_neg unknown.1, if_neg unknown.2]
    rfl
  | @opened challenge verifier method bound given nonempty used opens =>
    have filtered := filter_ne_empty_eq_some_iff.mpr ⟨given, nonempty⟩
    exact (checkVerifier_of_challenge bound filtered).mpr
      ⟨method, used, ChallengeMethod.derive_eq_iff.mpr opens⟩
  | @verificationFailed challenge verifier method bound given nonempty used closed =>
    have challenged : authorization.codeChallenge? = some challenge :=
      Authorization.states_iff.mpr bound
    simp only [checkVerifier, challenged, filter_ne_empty_eq_some_iff.mpr ⟨given, nonempty⟩,
      Authorization.uses_iff.mpr used, bind, Except.bind, ChallengeMethod.check,
      if_neg (mt ChallengeMethod.derive_eq_iff.mp closed)]

/-- **The check of a request gives exactly its verdict.** -/
theorem checkVerifier_eq_iff {verdict : Except PkceError Unit} :
    checkVerifier authorization client shown = verdict ↔
      PkceVerdict authorization client shown verdict :=
  ⟨fun given => given ▸ pkceVerdict_checkVerifier authorization client shown,
    PkceVerdict.checkVerifier_eq⟩

/-! ### What a verdict depends on -/

/-- No verdict is about the form of a verifier. -/
theorem PkceVerdict.code_eq {error : PkceError}
    (decided : PkceVerdict authorization client shown (.error error)) :
    error.code = "invalid_grant" := by
  cases decided <;> rfl

/-- **A challenge that is no written form of a digest is opened by no verifier.** -/
theorem PkceVerdict.not_opened {challenge : String}
    (bound : authorization.States (·.codeChallenge) challenge) (used : authorization.Uses .s256)
    (unwritten : ∀ octets : Bytes, octets.length = 32 → Base64Url.decode? challenge ≠ some octets) :
    ¬PkceVerdict authorization client shown (.ok ()) := by
  intro decided
  have stated : authorization.codeChallenge? = some challenge := Authorization.states_iff.mpr bound
  cases decided with
  | unbound unstated => exact unstated challenge bound
  | @opened other verifier method boundToo _ _ usedToo opens =>
    obtain rfl := Option.some.inj (stated.symm.trans (Authorization.states_iff.mpr boundToo))
    obtain rfl := used.unique usedToo
    exact unwritten _ (Digest.length_sha256 _) opens.2

theorem Authorization.filter_congr {other : Authorization}
    {member : AuthorizationRequest → Option String}
    (same : ∀ text, authorization.States member text ↔ other.States member text) :
    (authorization.request.bind member).filter (· ≠ "") =
      (other.request.bind member).filter (· ≠ "") := by
  apply Option.ext
  intro text
  rw [Authorization.states_iff, Authorization.states_iff]
  exact same text

/-- **A verdict depends on the stated challenge, its method and whether a challenge is required.** -/
theorem checkVerifier_congr {other : Authorization} {otherClient : Client}
    (sameChallenge : ∀ text, authorization.States (·.codeChallenge) text ↔
      other.States (·.codeChallenge) text)
    (sameMethod : ∀ name, authorization.States (·.codeChallengeMethod) name ↔
      other.States (·.codeChallengeMethod) name)
    (sameNeed : client.settings.requireProofKey = otherClient.settings.requireProofKey) :
    checkVerifier authorization client shown = checkVerifier other otherClient shown := by
  have challenge : authorization.codeChallenge? = other.codeChallenge? :=
    Authorization.filter_congr sameChallenge
  have method : authorization.codeChallengeMethod? = other.codeChallengeMethod? :=
    Authorization.filter_congr sameMethod
  simp only [checkVerifier, challenge, method, sameNeed]

end Verdicts

/-- **The verdict on a code's proof.** For every authorization, client and shown text:

* the check gives exactly the verdict of the one case that applies;
* every error is reported as `invalid_grant`;
* a challenge under `S256` that is not the unpadded base64url of 32 octets is opened by no text;
* other authorizations and clients with the same stated challenge and method and the same need of a
  challenge have the same verdict, whatever else they hold. -/
theorem pkce_verdict (authorization : Authorization) (client : Client) (shown : Option String) :
    (∀ verdict, checkVerifier authorization client shown = verdict ↔
      PkceVerdict authorization client shown verdict) ∧
    (∀ error, checkVerifier authorization client shown = .error error →
      error.code = "invalid_grant") ∧
    (∀ challenge, authorization.States (·.codeChallenge) challenge → authorization.Uses .s256 →
      (∀ octets : Bytes, octets.length = 32 → Base64Url.decode? challenge ≠ some octets) →
      checkVerifier authorization client shown ≠ .ok ()) ∧
    ∀ (other : Authorization) (otherClient : Client),
      (∀ text, authorization.States (·.codeChallenge) text ↔ other.States (·.codeChallenge) text) →
      (∀ name, authorization.States (·.codeChallengeMethod) name ↔
        other.States (·.codeChallengeMethod) name) →
      client.settings.requireProofKey = otherClient.settings.requireProofKey →
      checkVerifier authorization client shown = checkVerifier other otherClient shown := by
  refine ⟨fun verdict => checkVerifier_eq_iff, fun error rejected => ?_,
    fun challenge bound used unwritten passed => ?_, fun other otherClient => checkVerifier_congr⟩
  · exact (checkVerifier_eq_iff.mp rejected).code_eq
  · exact PkceVerdict.not_opened bound used unwritten (checkVerifier_eq_iff.mp passed)

/-- A digest with a padding character behind it is a challenge that no text opens, not even the one
with that digest. -/
theorem pkce_verdict_padded :
    let request : AuthorizationRequest :=
      { codeChallenge := some "E9Melhoa2OwvFrEMTJguCHaoeK1t8URWbuGJSstw-cM="
        codeChallengeMethod := some "S256" }
    let authorization :=
      (Authorization.new "authorization-1" "registration-1" "alice" .authorizationCode).withRequest
        request
    let client : Client :=
      { id := "registration-1", clientId := "client-1", clientSecret := some "secret"
        methods := [.clientSecretJwt], settings := { signingAlgorithm := some .hs256 } }
    (authorization.States (·.codeChallenge) "E9Melhoa2OwvFrEMTJguCHaoeK1t8URWbuGJSstw-cM=" ∧
      authorization.Uses .s256 ∧ ∀ octets : Bytes, octets.length = 32 →
        Base64Url.decode? "E9Melhoa2OwvFrEMTJguCHaoeK1t8URWbuGJSstw-cM=" ≠ some octets) ∧
    checkVerifier authorization client (some "dBjftJeZ4CVP-mB92K27uhbUJU1p1r_wW1gFWFOEjXk") ≠ .ok () := by
  intro request authorization client
  have bound : authorization.States (·.codeChallenge)
      "E9Melhoa2OwvFrEMTJguCHaoeK1t8URWbuGJSstw-cM=" := ⟨request, rfl, rfl, by decide⟩
  have used : authorization.Uses .s256 := .inr ⟨request, rfl, rfl, by decide⟩
  have unwritten : ∀ octets : Bytes, octets.length = 32 →
      Base64Url.decode? "E9Melhoa2OwvFrEMTJguCHaoeK1t8URWbuGJSstw-cM=" ≠ some octets := by
    intro octets size read
    have long := congrArg String.length (Base64Url.decode?_eq_some_iff.mp read)
    rw [Base64Url.length_encode, size] at long
    exact absurd long (by decide)
  exact ⟨⟨bound, used, unwritten⟩, (pkce_verdict authorization client _).2.2.1 _ bound used unwritten⟩

end ClientAssertion

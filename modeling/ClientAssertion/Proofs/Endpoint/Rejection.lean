/-
**Which check rejects a request, and what its client is told.**

A request meets seven checks in a fixed order, and is rejected by the first that it does not pass.

* `Check` lists the checks in their order.  `Attempt.Passes` says for each by itself when a request
  passes it, and `Attempt.Answers` which error it has for a request that does not;
* `Attempt.RejectedBy`: a check is the first that a request does not pass;
* `result_eq_ok_iff` and `result_eq_error_iff`: a request that passes all checks is authenticated,
  and any other has the answer of the check that rejects it;
* `Answers.grant_iff` and `Answers.source?_isSome_iff`: the kind of an error and whether it has a
  source follow from the check alone;
* `Answers.response_eq`: so does the response, but for what a registration lacks and how the proof
  of a code fails;
* `rejection_tells_the_check`: all of it, for every request and every two of them.
-/

import ClientAssertion.Proofs.Endpoint.Acceptance
import Mathlib.Order.Bounds.Basic
import Mathlib.Order.WellFounded

namespace ClientAssertion

/-! ### Checks -/

/-- The checks of a request, in the order in which they are made. -/
inductive Check where
  /-- The store knows the client. -/
  | client
  /-- The client may use the method, which is one of assertions. -/
  | method
  /-- There is an assertion. -/
  | credentials
  /-- The registration says what checks the assertion. -/
  | verifier
  /-- The assertion is right. -/
  | assertion
  /-- The store can say which authorization a code belongs to. -/
  | authorization
  /-- The client proves that the code is its own. -/
  | proofKey
deriving DecidableEq, Repr

namespace Check

/-- The number of checks before a check. -/
def place : Check → Nat
  | .client => 0
  | .method => 1
  | .credentials => 2
  | .verifier => 3
  | .assertion => 4
  | .authorization => 5
  | .proofKey => 6

theorem place_injective : Function.Injective place := by
  intro first second same
  cases first <;> cases second <;> first | rfl | cases same

instance : LinearOrder Check := LinearOrder.lift' place place_injective

end Check

/-! ### Attempts -/

/-- A request with all that its authentication depends on. -/
structure Attempt (State : Type) where
  directory : Directory
  source : KeySource State
  provider : Provider
  now : Instant
  request : AuthRequest
  state : State

namespace Attempt

variable {State : Type} {attempt : Attempt State}

/-- The result of the authentication. -/
def result (attempt : Attempt State) : Except AuthError AuthenticatedClient :=
  (authenticate attempt.directory attempt.source attempt.provider attempt.now attempt.request
    attempt.state).result

/-- The store finds the client of the request. -/
def Knows (attempt : Attempt State) (client : Client) : Prop :=
  attempt.directory.findClient attempt.request.clientId = .ok (some client)

/-- The request presents an assertion. -/
def Presents (attempt : Attempt State) (token : String) : Prop :=
  attempt.request.credentials = some token ∧ token ≠ ""

/-- What the validator says of a token under a verifier. -/
def validation (attempt : Attempt State) (verifier : Verifier) (token : String) :
    Except JwtError Assertion :=
  (Assertion.validate verifier attempt.source
    (.ofClient attempt.request.clientId attempt.provider.tokenEndpointUrl) attempt.now token
    attempt.state).result

/-- The validator gives its verdict on the assertion of the request, under what the registration of
its client asks for. -/
def Judges (attempt : Attempt State) (verdict : Except JwtError Assertion) : Prop :=
  ∃ client verifier token, attempt.Knows client ∧
    Verifier.Registered client attempt.request.method verifier ∧ attempt.Presents token ∧
    attempt.validation verifier token = verdict

/-- The client of the request does not prove its code, which belongs to an authorization. -/
def Refutes (attempt : Attempt State) (reason : PkceError) : Prop :=
  ∃ client code authorization, attempt.Knows client ∧ attempt.request.Exchanges code ∧
    attempt.directory.findCode code = .ok (some authorization) ∧
    checkVerifier authorization client (attempt.request.parameters.get? "code_verifier") =
      .error reason

/-- **A request passes a check**, whatever becomes of the others. -/
def Passes (attempt : Attempt State) : Check → Prop
  | .client => ∃ client, attempt.Knows client
  | .method =>
    (attempt.request.method = .clientSecretJwt ∨ attempt.request.method = .privateKeyJwt) ∧
      ∃ client, attempt.Knows client ∧ attempt.request.method ∈ client.methods
  | .credentials => ∃ token, attempt.Presents token
  | .verifier => ∃ client verifier, attempt.Knows client ∧
      Verifier.Registered client attempt.request.method verifier
  | .assertion => ∃ assertion, attempt.Judges (.ok assertion)
  | .authorization => ∀ code, attempt.request.Exchanges code →
      ∃ found, attempt.directory.findCode code = .ok found
  | .proofKey => ∀ client code authorization, attempt.Knows client →
      attempt.request.Exchanges code → attempt.directory.findCode code = .ok (some authorization) →
      ProofKey authorization client (attempt.request.parameters.get? "code_verifier")

/-- **The first check that a request does not pass.** -/
def RejectedBy (attempt : Attempt State) (check : Check) : Prop :=
  IsLeast {check | ¬attempt.Passes check} check

/-- **The error that a check has for a request which does not pass it.**  It names the part of the
request that the check is about; only what a registration lacks and how a proof fails are told. -/
inductive Answers (attempt : Attempt State) : Check → AuthError → Prop where
  | client : Answers attempt .client (.refused "Client authentication failed: client_id")
  | method : Answers attempt .method (.refused "Client authentication failed: authentication_method")
  | credentials : Answers attempt .credentials (.refused "Client authentication failed: credentials")
  | verifier {client : Client} {missing : Verifier.Missing} (known : attempt.Knows client)
      (lacks : Verifier.Lacks client attempt.request.method missing) :
      Answers attempt .verifier (.refused ("Failed to find a Signature Verifier for Client: '" ++
        client.id ++ "'. Check to ensure you have configured " ++ missing.name ++ "."))
  | assertion {flaw : JwtError} (judged : attempt.Judges (.error flaw)) :
      Answers attempt .assertion
        (.invalidClient "Client authentication failed: client_assertion" (some flaw))
  | authorization :
      Answers attempt .authorization (.invalidGrant "code: authorization lookup failed")
  | proofKey {reason : PkceError} (refuted : attempt.Refutes reason) :
      Answers attempt .proofKey (.invalidGrant reason.message)

/-! ### The first check -/

theorem RejectedBy.passes {check earlier : Check} (rejected : attempt.RejectedBy check)
    (before : earlier < check) : attempt.Passes earlier :=
  not_not.mp fun fails => (rejected.2 fails).not_gt before

/-- A request that does not pass all checks is rejected by one of them. -/
theorem exists_rejectedBy (fails : ¬∀ check, attempt.Passes check) :
    ∃ check, attempt.RejectedBy check := by
  -- the places are natural numbers, so one of the failing checks has the least
  obtain ⟨check, failing, least⟩ := (measure Check.place).wf.has_min
    {check | ¬attempt.Passes check} (not_forall.mp fails)
  exact ⟨check, failing, fun later other => not_lt.mp (least later other)⟩

/-- All checks up to one pass exactly when the check that rejects the request is a later one. -/
theorem RejectedBy.lt_iff {check last : Check} (rejected : attempt.RejectedBy check) :
    last < check ↔ ∀ earlier ≤ last, attempt.Passes earlier := by
  constructor
  · intro before earlier upTo
    exact rejected.passes (upTo.trans_lt before)
  · intro passes
    exact not_le.mp fun upTo => rejected.1 (passes check upTo)

/-! ### What the parts of a request determine -/

theorem Knows.unique {first second : Client} (one : attempt.Knows first)
    (two : attempt.Knows second) : first = second :=
  Option.some.inj (Except.ok.inj (one.symm.trans two))

theorem Judges.unique {first second : Except JwtError Assertion} (one : attempt.Judges first)
    (two : attempt.Judges second) : first = second := by
  obtain ⟨client, verifier, token, known, registered, ⟨presented, -⟩, rfl⟩ := one
  obtain ⟨other, another, text, found, registeredToo, ⟨shown, -⟩, rfl⟩ := two
  obtain rfl := known.unique found
  obtain rfl := registered.unique registeredToo
  obtain rfl := Option.some.inj (presented.symm.trans shown)
  rfl

/-- A request that passes the checks before the assertion is admitted with its client, its assertion
and what checks it. -/
theorem preliminary_of_passes (passes : ∀ check ≤ .verifier, attempt.Passes check) :
    ∃ client token verifier, attempt.Knows client ∧ attempt.Presents token ∧
      Verifier.Registered client attempt.request.method verifier ∧
      preliminary attempt.directory attempt.request = .ok ⟨client, token, verifier⟩ := by
  obtain ⟨usable, client, known, permitted⟩ := passes .method (by decide)
  obtain ⟨token, presented⟩ := passes .credentials (by decide)
  obtain ⟨other, verifier, found, registered⟩ := passes .verifier (by decide)
  -- two checks speak of a client that the store finds, and it finds one only
  obtain rfl := known.unique found
  exact ⟨client, token, verifier, known, presented, registered, preliminary_eq_ok_iff.mpr
    ⟨known, AuthMethod.usesAssertion_iff.mpr usable, Client.supports_iff.mpr permitted,
      presented.1, presented.2, Verifier.resolve_eq_ok_iff.mpr registered⟩⟩

/-- An admitted request is judged by the validator. -/
theorem judges_of_passes (passes : ∀ check ≤ .verifier, attempt.Passes check) :
    ∃ verdict, attempt.Judges verdict := by
  obtain ⟨client, token, verifier, known, presented, registered, -⟩ := preliminary_of_passes passes
  exact ⟨_, client, verifier, token, known, registered, presented, rfl⟩

/-! ### Results -/

/-- A request that the checks before the assertion reject has their answer. -/
theorem result_of_preliminary (rejection : Rejection)
    (rejected : preliminary attempt.directory attempt.request = .error rejection) :
    attempt.result = .error rejection.error := by
  simp only [result, authenticate, rejected]

/-- **An admitted request has the result that its assertion's verdict leads to**: the validator's
error, or what the checks behind the assertion say. -/
theorem result_of_judges {client : Client} {verdict : Except JwtError Assertion}
    (passes : ∀ check ≤ .verifier, attempt.Passes check) (known : attempt.Knows client)
    (judged : attempt.Judges verdict) :
    attempt.result = match verdict with
      | .error flaw => .error (Rejection.badAssertion flaw).error
      | .ok assertion => (conclude attempt.directory attempt.request client assertion).1 := by
  obtain ⟨other, token, verifier, found, presented, registered, admitted⟩ :=
    preliminary_of_passes passes
  obtain rfl := known.unique found
  have given : attempt.validation verifier token = verdict :=
    Judges.unique ⟨client, verifier, token, known, registered, presented, rfl⟩ judged
  unfold validation at given
  simp only [result, authenticate, admitted, given]
  cases verdict with
  | error flaw => rfl
  | ok assertion => rfl

/-- A request whose assertion is right has the answer of the check that rejects its code. -/
theorem result_of_checkGrant {client : Client} (rejection : Rejection)
    (passes : ∀ check ≤ .assertion, attempt.Passes check) (known : attempt.Knows client)
    (rejected : checkGrant attempt.directory client attempt.request = .rejected rejection) :
    attempt.result = .error rejection.error := by
  obtain ⟨assertion, judged⟩ := passes .assertion le_rfl
  have admitted : ∀ check ≤ .verifier, attempt.Passes check :=
    fun check upTo => passes check (upTo.trans (by decide))
  rw [result_of_judges admitted known judged]
  simp only [conclude, rejected]

theorem result_of_client (unknown : ¬attempt.Passes .client) :
    attempt.result = .error (.refused "Client authentication failed: client_id") := by
  -- a store that fails and one that does not know the client are answered alike
  cases looked : attempt.directory.findClient attempt.request.clientId with
  | error failure =>
    exact result_of_preliminary (.clientLookup failure) (by simp only [preliminary, looked])
  | ok found =>
    cases found with
    | none => exact result_of_preliminary .unknownClient (by simp only [preliminary, looked])
    | some client => exact absurd ⟨client, looked⟩ unknown

theorem result_of_method {client : Client} (known : attempt.Knows client)
    (unusable : ¬attempt.Passes .method) :
    attempt.result = .error (.refused "Client authentication failed: authentication_method") := by
  have forbidden : ¬(attempt.request.method.usesAssertion = true ∧
      client.supports attempt.request.method = true) := by
    rw [AuthMethod.usesAssertion_iff, Client.supports_iff]
    exact fun permitted => unusable ⟨permitted.1, client, known, permitted.2⟩
  unfold Knows at known
  exact result_of_preliminary (.methodNotPermitted attempt.request.method)
    (by simp only [preliminary, known, forbidden, if_false])

theorem result_of_credentials (usable : attempt.Passes .method)
    (unpresented : ¬attempt.Passes .credentials) :
    attempt.result = .error (.refused "Client authentication failed: credentials") := by
  obtain ⟨assertions, client, known, permitted⟩ := usable
  have uses := AuthMethod.usesAssertion_iff.mpr assertions
  have supports := Client.supports_iff.mpr permitted
  have absent : attempt.request.credentials.filter (· ≠ "") = none :=
    filter_ne_empty_eq_none_iff.mpr fun token given =>
      by_contra fun nonempty => unpresented ⟨token, given, nonempty⟩
  unfold Knows at known
  exact result_of_preliminary .noAssertion
    (by simp only [preliminary, known, uses, supports, and_self, if_true, absent])

theorem result_of_verifier {client : Client} {missing : Verifier.Missing}
    (usable : attempt.Passes .method) (presents : attempt.Passes .credentials)
    (known : attempt.Knows client)
    (lacks : Verifier.Lacks client attempt.request.method missing) :
    attempt.result = .error (missing.error client.id) := by
  obtain ⟨assertions, other, found, permitted⟩ := usable
  obtain ⟨token, given, nonempty⟩ := presents
  obtain rfl := known.unique found
  have uses := AuthMethod.usesAssertion_iff.mpr assertions
  have supports := Client.supports_iff.mpr permitted
  have presented := filter_ne_empty_eq_some_iff.mpr ⟨given, nonempty⟩
  have unresolved := Verifier.resolve_eq_error_iff.mpr lacks
  unfold Knows at known
  exact result_of_preliminary (.noVerifier client.id missing)
    (by simp only [preliminary, known, uses, supports, and_self, if_true, presented, unresolved])

theorem result_of_assertion {flaw : JwtError} (passes : ∀ check ≤ .verifier, attempt.Passes check)
    (judged : attempt.Judges (.error flaw)) :
    attempt.result =
      .error (.invalidClient "Client authentication failed: client_assertion" (some flaw)) := by
  obtain ⟨client, known⟩ := passes .client (by decide)
  exact result_of_judges passes known judged

theorem result_of_authorization (passes : ∀ check ≤ .assertion, attempt.Passes check)
    (unanswered : ¬attempt.Passes .authorization) :
    attempt.result = .error (.invalidGrant "code: authorization lookup failed") := by
  obtain ⟨client, known⟩ := passes .client (by decide)
  obtain ⟨code, exchanges, silent⟩ : ∃ code, attempt.request.Exchanges code ∧
      ∀ found, attempt.directory.findCode code ≠ .ok found := by
    simpa [Passes] using unanswered
  have exchanged := AuthRequest.code?_eq_some_iff.mpr exchanges
  cases looked : attempt.directory.findCode code with
  | error failure =>
    exact result_of_checkGrant (.authorizationLookup failure) passes known
      (by simp only [checkGrant, exchanged, looked])
  | ok found => exact absurd looked (silent found)

theorem result_of_proofKey {reason : PkceError} (passes : ∀ check ≤ .assertion, attempt.Passes check)
    (refuted : attempt.Refutes reason) : attempt.result = .error (.invalidGrant reason.message) := by
  obtain ⟨client, code, authorization, known, exchanges, found, refused⟩ := refuted
  have exchanged := AuthRequest.code?_eq_some_iff.mpr exchanges
  exact result_of_checkGrant (.proofKey reason) passes known
    (by simp only [checkGrant, exchanged, found, Parameter.codeVerifier, refused])

/-- **The check that rejects a request gives the answer.** -/
theorem RejectedBy.result_eq {check : Check} {error : AuthError} (rejected : attempt.RejectedBy check)
    (answers : attempt.Answers check error) : attempt.result = .error error := by
  have passes : ∀ last, last < check → ∀ earlier ≤ last, attempt.Passes earlier :=
    fun last before => rejected.lt_iff.mp before
  cases answers with
  | client => exact result_of_client rejected.1
  | method =>
    obtain ⟨client, known⟩ := passes .client (by decide) .client le_rfl
    exact result_of_method known rejected.1
  | credentials => exact result_of_credentials (passes .method (by decide) .method le_rfl) rejected.1
  | verifier known lacks =>
    exact result_of_verifier (passes .method (by decide) .method le_rfl)
      (passes .credentials (by decide) .credentials le_rfl) known lacks
  | assertion judged => exact result_of_assertion (passes .verifier (by decide)) judged
  | authorization => exact result_of_authorization (passes .assertion (by decide)) rejected.1
  | proofKey refuted => exact result_of_proofKey (passes .assertion (by decide)) refuted

theorem RejectedBy.lacks {client : Client} (rejected : attempt.RejectedBy .verifier)
    (known : attempt.Knows client) :
    ∃ missing, Verifier.Lacks client attempt.request.method missing := by
  cases resolved : Verifier.resolve client attempt.request.method with
  | error missing => exact ⟨missing, Verifier.resolve_eq_error_iff.mp resolved⟩
  | ok verifier =>
    exact absurd ⟨client, verifier, known, Verifier.resolve_eq_ok_iff.mp resolved⟩ rejected.1

/-- A check that rejects a request has an answer for it. -/
theorem RejectedBy.exists_answer {check : Check} (rejected : attempt.RejectedBy check) :
    ∃ error, attempt.Answers check error := by
  cases check with
  | client => exact ⟨_, .client⟩
  | method => exact ⟨_, .method⟩
  | credentials => exact ⟨_, .credentials⟩
  | verifier =>
    obtain ⟨client, known⟩ := rejected.passes (show Check.client < .verifier by decide)
    obtain ⟨missing, lacks⟩ := rejected.lacks known
    exact ⟨_, .verifier known lacks⟩
  | assertion =>
    obtain ⟨verdict, judged⟩ :=
      judges_of_passes (rejected.lt_iff.mp (show Check.verifier < .assertion by decide))
    cases verdict with
    | error flaw => exact ⟨_, .assertion judged⟩
    | ok assertion => exact absurd ⟨assertion, judged⟩ rejected.1
  | authorization => exact ⟨_, .authorization⟩
  | proofKey =>
    obtain ⟨client, code, authorization, known, exchanges, found, unproved⟩ :
        ∃ client code authorization, attempt.Knows client ∧ attempt.request.Exchanges code ∧
          attempt.directory.findCode code = .ok (some authorization) ∧
          ¬ProofKey authorization client (attempt.request.parameters.get? "code_verifier") := by
      simpa [Passes] using rejected.1
    cases checked : checkVerifier authorization client
        (attempt.request.parameters.get? "code_verifier") with
    | error reason =>
      exact ⟨_, .proofKey ⟨client, code, authorization, known, exchanges, found, checked⟩⟩
    | ok => exact absurd (checkVerifier_eq_ok_iff.mp checked) unproved

theorem result_of_passes (passes : ∀ check, attempt.Passes check) :
    ∃ accepted, attempt.result = .ok accepted := by
  obtain ⟨client, known⟩ := passes .client
  obtain ⟨assertion, judged⟩ := passes .assertion
  have proves : Proves attempt.directory client attempt.request := by
    intro code exchanges
    obtain ⟨found, looked⟩ := passes .authorization code exchanges
    refine ⟨found, looked, ?_⟩
    rintro authorization rfl
    exact passes .proofKey client code authorization known exchanges looked
  rw [result_of_judges (fun check _ => passes check) known judged]
  exact ⟨_, conclude_eq_ok_iff.mpr ⟨rfl, proves⟩⟩

/-- **A request has an error exactly as answer of the check that rejects it.** -/
theorem result_eq_error_iff {error : AuthError} :
    attempt.result = .error error ↔
      ∃ check, attempt.RejectedBy check ∧ attempt.Answers check error := by
  constructor
  · intro refused
    have fails : ¬∀ check, attempt.Passes check := by
      intro passes
      obtain ⟨accepted, granted⟩ := result_of_passes passes
      cases granted.symm.trans refused
    obtain ⟨check, rejected⟩ := exists_rejectedBy fails
    obtain ⟨answer, answers⟩ := rejected.exists_answer
    obtain rfl := Except.error.inj ((rejected.result_eq answers).symm.trans refused)
    exact ⟨check, rejected, answers⟩
  · rintro ⟨check, rejected, answers⟩
    exact rejected.result_eq answers

/-- **Exactly the requests that pass all checks are authenticated.** -/
theorem result_eq_ok_iff :
    (∃ accepted, attempt.result = .ok accepted) ↔ ∀ check, attempt.Passes check := by
  constructor
  · rintro ⟨accepted, granted⟩
    by_contra fails
    obtain ⟨check, rejected⟩ := exists_rejectedBy fails
    obtain ⟨answer, answers⟩ := rejected.exists_answer
    cases granted.symm.trans (rejected.result_eq answers)
  · exact result_of_passes

/-! ### What an answer tells -/

namespace Answers

variable {check : Check} {error : AuthError}

theorem client_or_grant (answers : attempt.Answers check error) :
    (∃ message source, error = .invalidClient message source) ∨
      ∃ message, error = .invalidGrant message := by
  cases answers with
  | client | method | credentials | verifier | assertion => exact Or.inl ⟨_, _, rfl⟩
  | authorization | proofKey => exact Or.inr ⟨_, rfl⟩

/-- A grant is refused exactly by the checks behind the assertion. -/
theorem grant_iff (answers : attempt.Answers check error) :
    (∃ message, error = .invalidGrant message) ↔ Check.assertion < check := by
  cases answers with
  | client | method | credentials | verifier | assertion =>
    exact iff_of_false nofun (by decide)
  | authorization | proofKey => exact iff_of_true ⟨_, rfl⟩ (by decide)

/-- An error has a source exactly as answer to a wrong assertion. -/
theorem source?_isSome_iff (answers : attempt.Answers check error) :
    error.source?.isSome = true ↔ check = .assertion := by
  cases answers with
  | assertion => exact iff_of_true rfl rfl
  | client | method | credentials | verifier | authorization | proofKey =>
    exact iff_of_false nofun nofun

/-- The source of an error is the validator's own. -/
theorem judges_of_source? {flaw : JwtError} (answers : attempt.Answers check error)
    (source : error.source? = some flaw) : attempt.Judges (.error flaw) := by
  cases answers with
  | assertion judged =>
    obtain rfl := Option.some.inj source
    exact judged
  | client | method | credentials | verifier | authorization | proofKey => cases source

end Answers

theorem Refutes.unique {first second : PkceError} (one : attempt.Refutes first)
    (two : attempt.Refutes second) : first = second := by
  obtain ⟨client, code, authorization, known, exchanges, found, refused⟩ := one
  obtain ⟨other, text, record, knownToo, exchangesToo, foundToo, refusedToo⟩ := two
  obtain rfl := known.unique knownToo
  obtain rfl : code = text := Option.some.inj (exchanges.2.1.symm.trans exchangesToo.2.1)
  obtain rfl := Option.some.inj (Except.ok.inj (found.symm.trans foundToo))
  exact Except.error.inj (refused.symm.trans refusedToo)

section TwoAttempts

variable {Other : Type} {other : Attempt Other}

/-- **Two requests fail a check in the same way**, as far as it tells.  Two checks tell more than
that they fail: one the identifier of a registration and what it lacks, one how a proof fails. -/
def FailsAlike (attempt : Attempt State) (other : Attempt Other) : Check → Prop
  | .verifier => ∃ client twin missing, attempt.Knows client ∧ other.Knows twin ∧
      client.id = twin.id ∧ Verifier.Lacks client attempt.request.method missing ∧
      Verifier.Lacks twin other.request.method missing
  | .proofKey => ∃ reason, attempt.Refutes reason ∧ other.Refutes reason
  | .client | .method | .credentials | .assertion | .authorization => True

/-- **Requests that fail a check alike are answered with one response.** -/
theorem Answers.response_eq {check : Check} {error another : AuthError}
    (answers : attempt.Answers check error) (answersToo : other.Answers check another)
    (alike : attempt.FailsAlike other check) : error.response = another.response := by
  cases answers with
  | client | method | credentials | assertion | authorization =>
    cases answersToo
    rfl
  | verifier known lacks =>
    cases answersToo with
    | verifier knownToo lacksToo =>
      obtain ⟨client, twin, missing, found, foundToo, same, misses, missesToo⟩ := alike
      obtain rfl := known.unique found
      obtain rfl := knownToo.unique foundToo
      obtain rfl := lacks.unique misses
      obtain rfl := lacksToo.unique missesToo
      rw [same]
  | proofKey refuted =>
    cases answersToo with
    | proofKey refutedToo =>
      obtain ⟨reason, refutes, refutesToo⟩ := alike
      obtain rfl := refuted.unique refutes
      obtain rfl := refutedToo.unique refutesToo
      rfl

/-- Registrations with one identifier and one algorithm fail alike under one method, whatever else
they hold. -/
theorem failsAlike_of_same_algorithm {client twin : Client}
    (rejected : attempt.RejectedBy .verifier) (rejectedToo : other.RejectedBy .verifier)
    (known : attempt.Knows client) (knownToo : other.Knows twin) (same : client.id = twin.id)
    (algorithm : client.settings.signingAlgorithm = twin.settings.signingAlgorithm)
    (method : attempt.request.method = other.request.method) :
    attempt.FailsAlike other .verifier := by
  obtain ⟨missing, lacks⟩ := rejected.lacks known
  obtain ⟨missingToo, lacksToo⟩ := rejectedToo.lacks knownToo
  rw [method] at lacks
  obtain rfl := lacks.of_same_algorithm lacksToo algorithm
  exact ⟨client, twin, missing, known, knownToo, same, by rwa [method], lacksToo⟩

end TwoAttempts

/-- **A rejection tells which check failed first, and little more.**  For all stores, sources of
keys, servers, times and requests, and for every two of them:

* a request has an error exactly as answer of the first check that it does not pass;
* the error is the client's or the grant's: the grant's exactly when all checks up to the one of the
  assertion pass;
* it has a source exactly when the assertion is wrong, and then the validator's own error;
* two requests that one check rejects get one response, except that the check of the registration
  tells its identifier and what it lacks, and the last check how the proof of the code fails;
* what a registration lacks follows from its algorithm and the method of the request. -/
theorem rejection_tells_the_check {Other : Type} (attempt : Attempt State) (other : Attempt Other) :
    (∀ error, attempt.result = .error error ↔
      ∃ check, attempt.RejectedBy check ∧ attempt.Answers check error) ∧
    (∀ error, attempt.result = .error error →
      ((∃ message source, error = .invalidClient message source) ∨
        ∃ message, error = .invalidGrant message) ∧
      ((∃ message, error = .invalidGrant message) ↔
        ∀ check ≤ .assertion, attempt.Passes check) ∧
      (error.source?.isSome = true ↔ attempt.RejectedBy .assertion) ∧
      ∀ flaw, error.source? = some flaw → attempt.Judges (.error flaw)) ∧
    (∀ check error another, attempt.RejectedBy check → other.RejectedBy check →
      attempt.FailsAlike other check → attempt.result = .error error →
      other.result = .error another → error.response = another.response) ∧
    ∀ client twin, attempt.RejectedBy .verifier → other.RejectedBy .verifier →
      attempt.Knows client → other.Knows twin → client.id = twin.id →
      client.settings.signingAlgorithm = twin.settings.signingAlgorithm →
      attempt.request.method = other.request.method → attempt.FailsAlike other .verifier := by
  refine ⟨fun error => result_eq_error_iff, ?_, ?_, ?_⟩
  · intro error refused
    obtain ⟨check, rejected, answers⟩ := result_eq_error_iff.mp refused
    refine ⟨answers.client_or_grant, ?_, ?_, fun flaw => answers.judges_of_source?⟩
    · exact answers.grant_iff.trans rejected.lt_iff
    · rw [answers.source?_isSome_iff]
      constructor
      · rintro rfl
        exact rejected
      · exact rejected.unique
  · intro check error another rejected rejectedToo alike refused refusedToo
    obtain ⟨answer, answers⟩ := rejected.exists_answer
    obtain ⟨answerToo, answersToo⟩ := rejectedToo.exists_answer
    obtain rfl := Except.error.inj ((rejected.result_eq answers).symm.trans refused)
    obtain rfl := Except.error.inj ((rejectedToo.result_eq answersToo).symm.trans refusedToo)
    exact answers.response_eq answersToo alike
  · intro client twin rejected rejectedToo known knownToo same algorithm method
    exact failsAlike_of_same_algorithm rejected rejectedToo known knownToo same algorithm method

end Attempt

end ClientAssertion

/-
**When a code's proof is right.**

* `Authorization.States` says what the request of an authorization states of its challenge, where
  an empty text states nothing;
* `ProofKey` says when a client proves that a code is its own, and `checkVerifier_eq_ok_iff` that a
  verifier passes exactly then.
-/

import ClientAssertion.Pkce
import ClientAssertion.Proofs.Client

namespace ClientAssertion

/-! ### Challenges -/

/-- The request of an authorization states a text, which is not empty. -/
def Authorization.States (authorization : Authorization)
    (member : AuthorizationRequest → Option String) (text : String) : Prop :=
  ∃ request, authorization.request = some request ∧ member request = some text ∧ text ≠ ""

section States

variable {authorization : Authorization} {member : AuthorizationRequest → Option String}

theorem Authorization.states_iff {text : String} :
    (authorization.request.bind member).filter (· ≠ "") = some text ↔
      authorization.States member text := by
  rw [filter_ne_empty_eq_some_iff, Option.bind_eq_some_iff]
  constructor
  · rintro ⟨⟨request, asked, stated⟩, nonempty⟩
    exact ⟨request, asked, stated, nonempty⟩
  · rintro ⟨request, asked, stated, nonempty⟩
    exact ⟨⟨request, asked, stated⟩, nonempty⟩

theorem Authorization.states_none_iff :
    (authorization.request.bind member).filter (· ≠ "") = none ↔
      ∀ text, ¬authorization.States member text := by
  rw [Option.eq_none_iff_forall_ne_some]
  exact forall_congr' fun text => not_congr states_iff

end States

/-- The challenge of an authorization is derived by a method: by `plain` where none is named. -/
def Authorization.Uses (authorization : Authorization) (method : ChallengeMethod) : Prop :=
  (∀ name, ¬authorization.States (·.codeChallengeMethod) name) ∧ method = .plain ∨
    authorization.States (·.codeChallengeMethod) method.name

/-- A verifier passes exactly if the challenge is derived of it. -/
theorem ChallengeMethod.check_eq_ok_iff {method : ChallengeMethod} {challenge verifier : String} :
    method.check challenge verifier = .ok () ↔ method.derive verifier = challenge := by
  unfold check
  by_cases same : method.derive verifier = challenge
  · simp [same]
  · simp [same]

theorem ChallengeMethod.of?_eq_ok_iff {name : String} {method : ChallengeMethod} :
    ChallengeMethod.of? name = .ok method ↔ name = method.name := by
  unfold of?
  by_cases s256 : name = "S256"
  · cases method <;> simp [s256, ChallengeMethod.name]
  · by_cases plain : name = "plain"
    · cases method <;> simp [plain, ChallengeMethod.name]
    · cases method <;> simp [s256, plain, ChallengeMethod.name]

/-- The method that is checked is the one that an authorization uses. -/
theorem Authorization.uses_iff {authorization : Authorization} {method : ChallengeMethod} :
    (authorization.codeChallengeMethod?.map ChallengeMethod.of?).getD (.ok .default) = .ok method ↔
      authorization.Uses method := by
  unfold Uses
  cases stated : authorization.codeChallengeMethod? with
  | none =>
    have unnamed := Authorization.states_none_iff.mp stated
    simp only [Option.map_none, Option.getD_none, Except.ok.injEq, unnamed, or_false,
      not_false_eq_true, implies_true, true_and]
    exact eq_comm
  | some name =>
    have named := Authorization.states_iff.mp stated
    rw [Option.map_some, Option.getD_some, ChallengeMethod.of?_eq_ok_iff]
    constructor
    · rintro rfl
      exact Or.inr named
    · rintro (⟨unnamed, -⟩ | other)
      · exact absurd named (unnamed name)
      · have same := Authorization.states_iff.mpr other
        exact Option.some.inj (stated.symm.trans same)

/-! ### Proofs -/

/-- **A client proves that a code is its own** by what its request shows: nothing where no challenge
is stated and none is required, the challenge itself under the method `plain`, and a text with the
challenge as its digest under the method `S256`. -/
inductive ProofKey (authorization : Authorization) (client : Client) (shown : Option String) :
    Prop where
  | unbound (unstated : ∀ challenge, ¬authorization.States (·.codeChallenge) challenge)
      (optional : client.settings.requireProofKey = false)
  | plain {challenge : String} (bound : authorization.States (·.codeChallenge) challenge)
      (used : authorization.Uses .plain) (same : shown = some challenge)
  | s256 {challenge verifier : String} (bound : authorization.States (·.codeChallenge) challenge)
      (used : authorization.Uses .s256) (given : shown = some verifier)
      (nonempty : verifier ≠ "")
      (derived : Base64Url.encode (Digest.sha256 (Bytes.ofText verifier)) = challenge)

/-- Where a challenge is stated, a verifier that is shown decides. -/
theorem checkVerifier_of_challenge {authorization : Authorization} {client : Client}
    {shown : Option String} {challenge verifier : String}
    (bound : authorization.States (·.codeChallenge) challenge)
    (given : shown.filter (· ≠ "") = some verifier) :
    checkVerifier authorization client shown = .ok () ↔
      ∃ method, authorization.Uses method ∧ method.derive verifier = challenge := by
  have challenged : authorization.codeChallenge? = some challenge := Authorization.states_iff.mpr bound
  simp only [checkVerifier, challenged, given, ← Authorization.uses_iff]
  cases (authorization.codeChallengeMethod?.map ChallengeMethod.of?).getD (.ok .default) with
  | error error => simp [bind, Except.bind]
  | ok method => simp [bind, Except.bind, ChallengeMethod.check_eq_ok_iff]

/-- **Exactly a proof passes.** -/
theorem checkVerifier_eq_ok_iff {authorization : Authorization} {client : Client}
    {shown : Option String} :
    checkVerifier authorization client shown = .ok () ↔ ProofKey authorization client shown := by
  constructor
  · intro passed
    cases challenged : authorization.codeChallenge? with
    | none =>
      cases optional : client.settings.requireProofKey with
      | true =>
        simp only [checkVerifier, challenged, optional, if_true] at passed
        cases passed
      | false => exact .unbound (Authorization.states_none_iff.mp challenged) optional
    | some challenge =>
      have bound := Authorization.states_iff.mp challenged
      cases given : shown.filter (· ≠ "") with
      | none =>
        simp only [checkVerifier, challenged, given] at passed
        cases passed
      | some verifier =>
        obtain ⟨method, used, derived⟩ := (checkVerifier_of_challenge bound given).mp passed
        obtain ⟨rfl, nonempty⟩ := filter_ne_empty_eq_some_iff.mp given
        cases method with
        | plain => exact .plain bound used (congrArg some derived)
        | s256 => exact .s256 bound used rfl nonempty derived
  · rintro (⟨unstated, optional⟩ | ⟨bound, used, rfl⟩ | ⟨bound, used, rfl, nonempty, derived⟩)
    · have challenged : authorization.codeChallenge? = none :=
        Authorization.states_none_iff.mpr unstated
      simp [checkVerifier, challenged, optional]
    · obtain ⟨_, -, -, nonempty⟩ := id bound
      have given := filter_ne_empty_eq_some_iff.mpr ⟨rfl, nonempty⟩
      exact (checkVerifier_of_challenge bound given).mpr ⟨.plain, used, rfl⟩
    · have given := filter_ne_empty_eq_some_iff.mpr ⟨rfl, nonempty⟩
      exact (checkVerifier_of_challenge bound given).mpr ⟨.s256, used, derived⟩

end ClientAssertion

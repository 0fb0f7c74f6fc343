/-
**Every form that can be accepted is routed to be accepted.**

The method of a request is told by the header of its token before anything is checked, by the
registration when a verifier is chosen, and by the algorithm when the signature is checked.

* `Trusts.methodOf_eq`: for a token that is trusted all three agree;
* `method_of_accepted`: so an accepted token tells the method of its request, whoever presents it;
* `AssertionForm` says what a form has to carry, and `routing_loses_nothing`: what is accepted of
  such a form under any method is what it is converted into and authenticated as.
-/

import ClientAssertion.Proofs.Endpoint.Acceptance
import ClientAssertion.Proofs.Endpoint.Request

namespace ClientAssertion

variable {State : Type}

/-! ### The method of a token -/

/-- **The header of a trusted token tells the method** that its client is registered for. -/
theorem Verifier.Trusts.methodOf_eq {source : KeySource State} {state : State} {client : Client}
    {token : String} {decoded : Decoded} {method : AuthMethod}
    (trusts : Trusts source state client token decoded method) :
    Token.header token = .ok decoded.header ∧
      AuthRequest.methodOf decoded.header.algorithm = method := by
  cases trusts with
  | secret _ kind _ _ signed =>
    obtain ⟨_, _, _, -, -, same, -⟩ := id signed
    refine ⟨Token.header_of_signed signed, ?_⟩
    rw [same, AuthRequest.methodOf, if_pos kind]
  | published _ kind _ _ _ _ _ signed =>
    obtain ⟨_, _, _, -, -, same, -⟩ := id signed
    refine ⟨Token.header_of_signed signed, ?_⟩
    rw [same, AuthRequest.methodOf, kind, if_neg Bool.false_ne_true]

/-- **An accepted token tells the method of its request.** -/
theorem method_of_accepted {directory : Directory} {source : KeySource State} {provider : Provider}
    {now : Instant} {request : AuthRequest} {state : State} {accepted : AuthenticatedClient}
    {token : String} (presented : request.credentials = some token)
    (accepts : (authenticate directory source provider now request state).result = .ok accepted) :
    ∃ header, Token.header token = .ok header ∧
      request.method = AuthRequest.methodOf header.algorithm := by
  obtain ⟨admission, assertion, passed, valid, -⟩ := authenticate_eq_ok_iff.mp accepts
  obtain ⟨-, -, -, given, -, resolved⟩ := preliminary_eq_ok_iff.mp passed
  obtain ⟨-, verified, -⟩ := Assertion.validate_eq_ok_iff.mp valid
  obtain ⟨headed, told⟩ := (Verifier.trusts_iff.mpr ⟨_, resolved, verified⟩).methodOf_eq
  rw [Option.some.inj (presented.symm.trans given)]
  exact ⟨_, headed, told.symm⟩

/-! ### Forms -/

/-- **A form carries the assertion of a client**, by the first values of its parameters. -/
structure AssertionForm (pairs : List (String × String)) (grant token clientId : String) : Prop where
  grantType : pairs.lookup "grant_type" = some grant
  type : pairs.lookup "client_assertion_type" =
    some "urn:ietf:params:oauth:client-assertion-type:jwt-bearer"
  assertion : pairs.lookup "client_assertion" = some token
  presented : token ≠ ""
  identified : pairs.lookup "client_id" = some clientId
  named : clientId ≠ ""

/-- The request of a client with a method and an assertion, beside which the first values of a form
remain. -/
def AuthRequest.ofForm (pairs : List (String × String)) (token clientId : String)
    (method : AuthMethod) : AuthRequest :=
  ⟨clientId, method, some token, (Parameters.ofPairs pairs).remaining⟩

namespace AssertionForm

variable {pairs : List (String × String)} {grant token clientId : String}

/-- The form makes the request with the method that the token's header tells. -/
theorem madeOf (form : AssertionForm pairs grant token clientId) {header : Header}
    (headed : Token.header token = .ok header) :
    (AuthRequest.ofForm pairs token clientId (AuthRequest.methodOf header.algorithm)).MadeOf
      (.ofPairs pairs) where
  type := (Parameters.get?_ofPairs pairs _).trans form.type
  credentials := ⟨token, header, (Parameters.get?_ofPairs pairs _).trans form.assertion,
    form.presented, headed,
    AuthRequest.clientIdOf_of_given token ((Parameters.get?_ofPairs pairs _).trans form.identified)
      form.named, rfl, rfl⟩
  parameters := rfl

end AssertionForm

/-- The parameters that remain of a form. -/
theorem AuthRequest.get?_ofForm (pairs : List (String × String)) (token clientId : String)
    (method : AuthMethod) (name : String) :
    (ofForm pairs token clientId method).parameters.get? name =
      if name ∈ ["client_assertion", "client_assertion_type", "client_id"] then none
      else pairs.lookup name := by
  rw [ofForm, Parameters.get?_remaining, Parameters.get?_ofPairs]

/-- **The first values of a form decide the check of its code.** -/
theorem proves_ofForm_iff {directory : Directory} {client : Client} {pairs : List (String × String)}
    {token clientId : String} {method : AuthMethod} :
    Proves directory client (.ofForm pairs token clientId method) ↔
      ∀ code, pairs.lookup "grant_type" = some "authorization_code" →
        pairs.lookup "code" = some code → code ≠ "" →
        ∃ found, directory.findCode code = .ok found ∧ ∀ authorization, found = some authorization →
          ProofKey authorization client (pairs.lookup "code_verifier") := by
  have kept : ∀ name, name ∉ ["client_assertion", "client_assertion_type", "client_id"] →
      (AuthRequest.ofForm pairs token clientId method).parameters.get? name = pairs.lookup name :=
    fun name other => (AuthRequest.get?_ofForm ..).trans (if_neg other)
  simp only [Proves, AuthRequest.Exchanges, kept _ (by decide : "grant_type" ∉ _),
    kept _ (by decide : "code" ∉ _), kept _ (by decide : "code_verifier" ∉ _), and_imp]

/-- **Routing loses nothing.** For every form that carries an assertion of a client and has a grant
type which is converted for assertions, every directory, source of keys, server, instant and state:
if its request is accepted under some method, then

* the form is converted into exactly this request, and the dispatcher in which the authenticator is
  registered treats it alike, with the same client;
* no request with the token is accepted under another method, whatever else it says and is checked
  against;
* all other parameters of the request have the first values of the form, and these decide whether
  its code is proved. -/
theorem routing_loses_nothing {directory : Directory} {source : KeySource State}
    {provider : Provider} {now : Instant} {state : State} {converter : GrantConverter}
    {dispatcher : Dispatcher State} {pairs : List (String × String)} {grant token clientId : String}
    (form : AssertionForm pairs grant token clientId)
    (maps : converter.Maps grant AuthRequest.ofAssertion)
    (registers : dispatcher.Registers (assertionAuthenticator directory source))
    {method : AuthMethod} {accepted : AuthenticatedClient}
    (accepts : (authenticate directory source provider now
      (.ofForm pairs token clientId method) state).result = .ok accepted) :
    let request := AuthRequest.ofForm pairs token clientId method
    converter.convert (.ofPairs pairs) = .ok (some request) ∧
    dispatcher.authenticate provider now request state =
      authenticate directory source provider now request state ∧
    (dispatcher.authenticate provider now request state).result = .ok accepted ∧
    (∀ {Other : Type} (directory : Directory) (source : KeySource Other) (provider : Provider)
      (now : Instant) (other : AuthRequest) (state : Other) (accepted : AuthenticatedClient),
      other.credentials = some token →
      (authenticate directory source provider now other state).result = .ok accepted →
      other.method = method) ∧
    (∀ name, request.parameters.get? name =
      if name ∈ ["client_assertion", "client_assertion_type", "client_id"] then none
      else pairs.lookup name) ∧
    ∀ client, (∀ rejection, checkGrant directory client request ≠ .rejected rejection) ↔
      ∀ code, pairs.lookup "grant_type" = some "authorization_code" →
        pairs.lookup "code" = some code → code ≠ "" →
        ∃ found, directory.findCode code = .ok found ∧ ∀ authorization, found = some authorization →
          ProofKey authorization client (pairs.lookup "code_verifier") := by
  intro request
  obtain ⟨header, headed, told⟩ := method_of_accepted rfl accepts
  have converted : converter.convert (.ofPairs pairs) = .ok (some request) := by
    rw [GrantConverter.convert_of_maps maps ((Parameters.get?_ofPairs pairs _).trans form.grantType),
      AuthRequest.ofAssertion_eq_some_iff]
    have made := form.madeOf headed
    rwa [← told] at made
  -- an accepted request has one of the two methods that the authenticator is registered for
  have dispatched : dispatcher.authenticate provider now request state =
      authenticate directory source provider now request state := by
    obtain ⟨admission, _, passed, -⟩ := authenticate_eq_ok_iff.mp accepts
    obtain ⟨-, uses, -⟩ := preliminary_eq_ok_iff.mp passed
    have member : request.method ∈ (assertionAuthenticator directory source).methods := by
      rcases AuthMethod.usesAssertion_iff.mp uses with same | same <;> simp [request, same,
        assertionAuthenticator]
    exact Dispatcher.authenticate_of_registers registers member provider now state
  refine ⟨converted, dispatched, dispatched ▸ accepts, ?_, AuthRequest.get?_ofForm pairs token
    clientId method, fun client => checkGrant_passes_iff.trans proves_ofForm_iff⟩
  intro Other directory source provider now other state accepted presented acceptsOther
  obtain ⟨again, headedAgain, toldAgain⟩ := method_of_accepted presented acceptsOther
  obtain rfl := Except.ok.inj (headed.symm.trans headedAgain)
  exact toldAgain.trans told.symm

/-- A form that exchanges a code and names a second client in vain: what it is converted into is
accepted. -/
theorem routing_loses_nothing_second_client :
    let client : Client :=
      { id := "registration-1", clientId := "client-1", clientSecret := some "secret"
        methods := [.clientSecretJwt], settings := { signingAlgorithm := some .hs256 } }
    let authorization : Authorization :=
      { id := "authorization-1", registeredClientId := "registration-1", principalName := "user"
        grantType := .authorizationCode, request := some { codeChallenge := some "challenge" } }
    let directory : Directory :=
      { client := fun clientId => .answered (if clientId = "client-1" then some client else none)
        authorization := fun code _ => .answered (if code = "code-1" then some authorization else none)
        timeout := .zero }
    let header := Bytes.ofText "\x7b\"alg\":\"HS256\"\x7d"
    let payload := Bytes.ofText ("\x7b\"iss\":\"client-1\",\"sub\":\"client-1\"," ++
      "\"aud\":\"https://auth.example.com/oauth2/token\",\"exp\":2000000000\x7d")
    let token := Token.compact header payload (Verifier.macOf .sha256 "secret" header payload)
    let pairs := [("grant_type", "authorization_code"), ("code", "code-1"),
      ("code_verifier", "challenge"), ("client_assertion", token),
      ("client_assertion_type", "urn:ietf:params:oauth:client-assertion-type:jwt-bearer"),
      ("client_id", "client-1"), ("client_id", "client-2")]
    let request := AuthRequest.ofForm pairs token "client-1" .clientSecretJwt
    let authenticator := assertionAuthenticator directory KeySource.fixed
    ∃ converter accepted,
      GrantConverter.ofGrantTypes [.authorizationCode] AuthRequest.ofAssertion = .ok converter ∧
      AssertionForm pairs "authorization_code" token "client-1" ∧
      converter.Maps "authorization_code" AuthRequest.ofAssertion ∧
      Dispatcher.Registers (Dispatcher.withAuthenticator .empty authenticator) authenticator ∧
      (authenticate directory KeySource.fixed ⟨"https://auth.example.com", {}⟩
        (.ofSeconds 1700000000) request .empty).result = .ok accepted ∧
      accepted.client = client ∧ converter.convert (.ofPairs pairs) = .ok (some request) ∧
      (Dispatcher.authenticate (Dispatcher.withAuthenticator .empty authenticator)
        ⟨"https://auth.example.com", {}⟩ (.ofSeconds 1700000000) request .empty).result =
          .ok accepted := by
  intro client authorization directory header payload token pairs request authenticator
  have form : AssertionForm pairs "authorization_code" token "client-1" :=
    ⟨rfl, rfl, rfl, Token.compact_ne_empty, rfl, by decide⟩
  obtain ⟨converter, built⟩ : ∃ converter,
      GrantConverter.ofGrantTypes [.authorizationCode] AuthRequest.ofAssertion = .ok converter :=
    ⟨_, rfl⟩
  have maps : converter.Maps "authorization_code" AuthRequest.ofAssertion :=
    (GrantConverter.maps_ofGrantTypes_iff built).mpr ⟨rfl, .authorizationCode, by simp, rfl⟩
  have registers := Dispatcher.registers_withAuthenticator .empty authenticator
  obtain ⟨found, isHeader, same⟩ :
      ∃ found, Header.read? header = some found ∧ found.algorithm = .hs256 := by
    refine ⟨(Header.read? header).get (by decide +kernel), (Option.some_get _).symm, ?_⟩
    decide +kernel
  let claims : Claims := ⟨some "client-1", some "client-1",
    some (.one "https://auth.example.com/oauth2/token"), some 2000000000, none, none, none⟩
  have isClaims : Claims.ofPayload? payload = some claims := by decide +kernel
  have holds : ∀ claim, claims.Holds (.ofClient "client-1" (Provider.tokenEndpointUrl
      ⟨"https://auth.example.com", {}⟩)) (.ofSeconds 1700000000) claim := by
    intro claim
    cases claim with
    | iss | sub => rfl
    | aud => exact ⟨_, rfl, by decide +kernel⟩
    | exp => exact ⟨_, rfl, by decide, by decide⟩
    | nbf | iat => exact nofun
  have proves : Proves directory client request := by
    refine proves_ofForm_iff.mpr fun code _ exchanged _ => ?_
    obtain rfl : "code-1" = code := Option.some.inj exchanged
    refine ⟨some authorization, rfl, ?_⟩
    rintro _ ⟨rfl⟩
    have unnamed : ∀ name, ¬authorization.States (·.codeChallengeMethod) name := by
      rintro name ⟨_, ⟨rfl⟩, stated, -⟩
      cases stated
    exact .plain ⟨_, rfl, rfl, by decide⟩ (Or.inl ⟨unnamed, rfl⟩) rfl
  obtain ⟨accepted, accepts, identified⟩ : ∃ accepted,
      (authenticate directory KeySource.fixed ⟨"https://auth.example.com", {}⟩
        (.ofSeconds 1700000000) request .empty).result = .ok accepted ∧ accepted.client = client :=
    authenticate_minted (show directory.findClient request.clientId = .ok (some client) from rfl)
      rfl (by simp [client]) rfl rfl rfl (by decide) isHeader same isClaims rfl holds proves
  obtain ⟨converted, -, dispatched, -⟩ := routing_loses_nothing form maps registers accepts
  exact ⟨converter, accepted, built, form, maps, registers, accepts, identified, converted, dispatched⟩

end ClientAssertion

/-
**Exactly which requests are authenticated.**

* `Trusts` says that a token is signed as a registration asks for: under its secret, or under the
  key that is provided from its published set;
* `Acceptance` lists everything that has to hold of a request, by what was last saved in the stores;
* `preliminary_eq_ok_iff`, `conclude_eq_ok_iff` and `authenticate_eq_ok_iff` say when the checks
  before the assertion, those behind it and all of them pass;
* `authenticate_minted`: a client that mints an assertion as it is registered is authenticated, and
  `Sample.authenticates`: so is one with a given assertion;
* `authenticate_accepts_iff`: after every run of the stores exactly these requests are authenticated.
-/

import ClientAssertion.Endpoint.Authenticator
import ClientAssertion.Proofs.Assertion
import ClientAssertion.Proofs.Pkce
import ClientAssertion.Proofs.Store.Authorizations
import ClientAssertion.Proofs.Store.Clients
import ClientAssertion.Proofs.Verifier.KeySet
import ClientAssertion.Proofs.Verifier.Mac

namespace ClientAssertion

variable {State : Type}

/-! ### Signatures -/

namespace Verifier

/-- **A token is signed as a registration asks for** by the method of its client: under the secret
for an algorithm of codes, else under the key that its set provides, which has to be of the
algorithm's family. -/
inductive Trusts (source : KeySource State) (state : State) (client : Client) (token : String)
    (decoded : Decoded) : AuthMethod → Prop where
  | secret {algorithm : Algorithm} {secret : String}
      (registered : client.settings.signingAlgorithm = some algorithm) (kind : algorithm.isMac = true)
      (held : client.clientSecret = some secret) (nonempty : secret ≠ "")
      (signed : Token.Signed algorithm (.secret (Bytes.ofText secret)) token decoded) :
      Trusts source state client token decoded .clientSecretJwt
  | published {algorithm : Algorithm} {url : String} {jwk : Jwk} {key : Key}
      (registered : client.settings.signingAlgorithm = some algorithm) (kind : algorithm.isMac = false)
      (held : client.settings.keySetUrl = some url) (nonempty : url ≠ "")
      (provided : Provides source url decoded.header.keyId algorithm state jwk)
      (usable : jwk.numbers.key? = some key) (family : key.family = algorithm.family)
      (signed : Token.Signed algorithm key token decoded) :
      Trusts source state client token decoded .privateKeyJwt

/-- Exactly such a token is accepted by the registration's verifier. -/
theorem trusts_iff {source : KeySource State} {state : State} {client : Client} {token : String}
    {decoded : Decoded} {method : AuthMethod} :
    Trusts source state client token decoded method ↔
      ∃ verifier, resolve client method = .ok verifier ∧
        (verifier.verify source token state).result = .ok decoded := by
  constructor
  · rintro (⟨registered, kind, held, nonempty, signed⟩ |
      ⟨registered, kind, held, nonempty, provided, usable, -, signed⟩)
    · exact ⟨_, resolve_eq_ok_iff.mpr (.secret registered kind held nonempty),
        verifyKey_eq_ok_iff.mpr (Token.verify_eq_ok_iff.mpr signed)⟩
    · exact ⟨_, resolve_eq_ok_iff.mpr (.published registered kind held nonempty),
        verify_keySet_eq_ok_iff.mpr ⟨_, _, provided, usable, signed⟩⟩
  · rintro ⟨verifier, resolved, accepted⟩
    rcases resolve_eq_ok_iff.mp resolved with
      ⟨registered, kind, held, nonempty⟩ | ⟨registered, kind, held, nonempty⟩
    · have signed := Token.verify_eq_ok_iff.mp (verifyKey_eq_ok_iff.mp accepted)
      exact .secret registered kind held nonempty signed
    · obtain ⟨jwk, key, provided, usable, signed⟩ := verify_keySet_eq_ok_iff.mp accepted
      exact .published registered kind held nonempty provided usable signed.family signed

end Verifier

/-! ### Stages -/

/-- A request exchanges a code. -/
def AuthRequest.Exchanges (request : AuthRequest) (code : String) : Prop :=
  request.parameters.get? "grant_type" = some "authorization_code" ∧
    request.parameters.get? "code" = some code ∧ code ≠ ""

theorem AuthRequest.code?_eq_some_iff {request : AuthRequest} {code : String} :
    request.code? = some code ↔ request.Exchanges code := by
  unfold AuthRequest.code? AuthRequest.Exchanges Parameters.nonEmpty?
  rw [Option.ite_none_right_eq_some, filter_ne_empty_eq_some_iff]
  rfl

section Stages

variable {directory : Directory} {request : AuthRequest}

/-- **The checks before the assertion** find a client that may use the method, an assertion and what
checks it. -/
theorem preliminary_eq_ok_iff {admission : Admission} :
    preliminary directory request = .ok admission ↔
      directory.findClient request.clientId = .ok (some admission.client) ∧
      request.method.usesAssertion = true ∧ admission.client.supports request.method = true ∧
      request.credentials = some admission.assertion ∧ admission.assertion ≠ "" ∧
      Verifier.resolve admission.client request.method = .ok admission.verifier := by
  obtain ⟨client, assertion, verifier⟩ := admission
  constructor
  · intro passed
    unfold preliminary at passed
    split at passed
    case h_1 => cases passed
    case h_2 => cases passed
    case h_3 found known =>
      split_ifs at passed with permitted
      split at passed
      case h_1 => cases passed
      case h_2 token presented =>
        split at passed
        case h_1 => cases passed
        case h_2 checker resolved =>
          cases passed
          obtain ⟨given, nonempty⟩ := filter_ne_empty_eq_some_iff.mp presented
          exact ⟨known, permitted.1, permitted.2, given, nonempty, resolved⟩
  · rintro ⟨known, uses, supports, given, nonempty, resolved⟩
    have presented := filter_ne_empty_eq_some_iff.mpr ⟨given, nonempty⟩
    simp only [preliminary, known, uses, supports, and_self, if_true, presented, resolved]

/-- A client proves the code of a request, if that exchanges one and it belongs to an
authorization. -/
def Proves (directory : Directory) (client : Client) (request : AuthRequest) : Prop :=
  ∀ code, request.Exchanges code → ∃ found, directory.findCode code = .ok found ∧
    ∀ authorization, found = some authorization →
      ProofKey authorization client (request.parameters.get? "code_verifier")

theorem checkGrant_passes_iff {client : Client} :
    (∀ rejection, checkGrant directory client request ≠ .rejected rejection) ↔
      Proves directory client request := by
  unfold checkGrant Proves
  cases exchanged : request.code? with
  | none =>
    refine ⟨fun _ code exchanges => ?_, fun _ rejection => nofun⟩
    rw [AuthRequest.code?_eq_some_iff.mpr exchanges] at exchanged
    cases exchanged
  | some code =>
    have only : ∀ other, request.Exchanges other ↔ other = code := by
      intro other
      rw [← AuthRequest.code?_eq_some_iff, exchanged, Option.some.injEq, eq_comm]
    simp only [only, forall_eq, Parameter.codeVerifier]
    cases looked : directory.findCode code with
    | error error => simp
    | ok found =>
      cases found with
      | none => simp
      | some authorization =>
        simp only [Except.ok.injEq, exists_eq_left', Option.some.injEq, forall_eq',
          ← checkVerifier_eq_ok_iff]
        cases checkVerifier authorization client (request.parameters.get? "code_verifier") with
        | error error => simp
        | ok => simp

/-- **The checks behind the assertion** pass exactly when the code is proved. -/
theorem conclude_eq_ok_iff {client : Client} {assertion : Assertion} {accepted : AuthenticatedClient} :
    (conclude directory request client assertion).1 = .ok accepted ↔
      accepted = ⟨client, request.method, assertion, request.parameters⟩ ∧
        Proves directory client request := by
  rw [← checkGrant_passes_iff]
  unfold conclude
  cases checkGrant directory client request with
  | passed | unbound => simp [eq_comm]
  | rejected rejection => simp

/-- **All checks pass** exactly when those before the assertion find what checks it, it is right, and
those behind it pass. -/
theorem authenticate_eq_ok_iff {source : KeySource State} {provider : Provider} {now : Instant}
    {state : State} {accepted : AuthenticatedClient} :
    (authenticate directory source provider now request state).result = .ok accepted ↔
      ∃ admission assertion, preliminary directory request = .ok admission ∧
        (Assertion.validate admission.verifier source
          (.ofClient request.clientId provider.tokenEndpointUrl) now admission.assertion
          state).result = .ok assertion ∧
        (conclude directory request admission.client assertion).1 = .ok accepted := by
  unfold authenticate
  cases preliminary directory request with
  | error rejection => simp
  | ok admission =>
    simp only [Except.ok.injEq, exists_and_left, exists_eq_left']
    cases (Assertion.validate admission.verifier source
      (.ofClient request.clientId provider.tokenEndpointUrl) now admission.assertion state).result with
    | error error => simp
    | ok assertion => simp

/-- **An assertion that a client mints under its secret is accepted**, where its claims hold and the
code that it comes with is proved. -/
theorem authenticate_minted {source : KeySource State} {provider : Provider} {now : Instant}
    {state : State} {client : Client} {algorithm : Algorithm} {hash : Hash} {secret : String}
    {headerOctets payload : Bytes} {header : Header} {claims : Claims}
    (known : directory.findClient request.clientId = .ok (some client))
    (method : request.method = .clientSecretJwt) (permitted : .clientSecretJwt ∈ client.methods)
    (registered : client.settings.signingAlgorithm = some algorithm)
    (mac : algorithm.mac? = some hash) (held : client.clientSecret = some secret)
    (nonempty : secret ≠ "") (isHeader : Header.read? headerOctets = some header)
    (same : header.algorithm = algorithm) (isClaims : Claims.ofPayload? payload = some claims)
    (presented : request.credentials = some (Token.compact headerOctets payload
      (Verifier.macOf hash secret headerOctets payload)))
    (holds : ∀ claim, claims.Holds (.ofClient request.clientId provider.tokenEndpointUrl) now claim)
    (proves : Proves directory client request) :
    ∃ accepted, (authenticate directory source provider now request state).result = .ok accepted ∧
      accepted.client = client := by
  have kind : algorithm.isMac = true := by
    rw [algorithm.isMac_eq_isSome, mac]
    rfl
  have resolved : Verifier.resolve client request.method = .ok (.mac algorithm secret) := by
    rw [method]
    exact Verifier.resolve_eq_ok_iff.mpr (.secret registered kind held nonempty)
  obtain ⟨expiry, stated, -, -⟩ := holds .exp
  have valid : claims.validity (.ofClient request.clientId provider.tokenEndpointUrl) now =
      .ok ⟨claims.issuedAt.map Instant.ofSeconds, Instant.ofSeconds expiry⟩ :=
    Claims.validity_eq_ok_iff.mpr ⟨holds, rfl, by rw [stated, Option.map_some]⟩
  refine ⟨⟨client, request.method, ⟨_, header, claims, _⟩, request.parameters⟩,
    authenticate_eq_ok_iff.mpr ⟨⟨client, _, .mac algorithm secret⟩, _,
      preliminary_eq_ok_iff.mpr ⟨known, ?_, ?_, presented, Token.compact_ne_empty, resolved⟩,
      Assertion.validate_eq_ok_iff.mpr ⟨rfl, ?_, valid⟩, conclude_eq_ok_iff.mpr ⟨rfl, proves⟩⟩, rfl⟩
  · rw [method]
    rfl
  · rw [method]
    exact Client.supports_iff.mpr permitted
  · exact (Verifier.verify_mac_eq_ok_iff mac secret source _ state _).mpr
      ⟨headerOctets, payload, rfl, isHeader, same, isClaims⟩

end Stages

/-! ### An assertion of a client -/

namespace Sample

/-- A header with the algorithm `HS256`. -/
def header : Bytes := Bytes.ofText "\x7b\"alg\":\"HS256\"\x7d"

/-- What `client-1` claims of itself towards a server. -/
def payload : Bytes := Bytes.ofText ("\x7b\"iss\":\"client-1\",\"sub\":\"client-1\"," ++
  "\"aud\":\"https://auth.example.com/oauth2/token\",\"exp\":2000000000\x7d")

/-- The assertion under the secret `secret`. -/
def token : String := Token.compact header payload (Verifier.macOf .sha256 "secret" header payload)

/-- The server that the assertion is for. -/
def provider : Provider := ⟨"https://auth.example.com", {}⟩

/-- A time before the assertion expires. -/
def now : Instant := .ofSeconds 1700000000

/-- The claims that the payload spells. -/
def claims : Claims := ⟨some "client-1", some "client-1",
  some (.one "https://auth.example.com/oauth2/token"), some 2000000000, none, none, none⟩

theorem exists_header : ∃ found, Header.read? header = some found ∧ found.algorithm = .hs256 := by
  refine ⟨(Header.read? header).get (by decide +kernel), (Option.some_get _).symm, ?_⟩
  decide +kernel

theorem ofPayload?_payload : Claims.ofPayload? payload = some claims := by decide +kernel

theorem holds (claim : Claim) :
    claims.Holds (.ofClient "client-1" provider.tokenEndpointUrl) now claim := by
  cases claim with
  | iss | sub => rfl
  | aud => exact ⟨_, rfl, by decide +kernel⟩
  | exp => exact ⟨_, rfl, by decide, by decide⟩
  | nbf | iat => exact nofun

/-- A client that knows the secret is authenticated by the assertion, where it proves its code. -/
theorem authenticates_of_proves {directory : Directory} {client : Client} {parameters : Parameters}
    (source : KeySource State) (state : State)
    (known : directory.findClient "client-1" = .ok (some client))
    (permitted : .clientSecretJwt ∈ client.methods)
    (registered : client.settings.signingAlgorithm = some .hs256)
    (held : client.clientSecret = some "secret")
    (proves : Proves directory client ⟨"client-1", .clientSecretJwt, some token, parameters⟩) :
    ∃ accepted, (authenticate directory source provider now
      ⟨"client-1", .clientSecretJwt, some token, parameters⟩ state).result = .ok accepted := by
  obtain ⟨found, isHeader, same⟩ := exists_header
  obtain ⟨accepted, accepts, -⟩ : ∃ accepted, (authenticate directory source provider now
      ⟨"client-1", .clientSecretJwt, some token, parameters⟩ state).result = .ok accepted ∧
        accepted.client = client :=
    authenticate_minted known rfl permitted registered rfl held (by decide) isHeader same
      ofPayload?_payload rfl holds proves
  exact ⟨accepted, accepts⟩

/-- So is a client that exchanges no code. -/
theorem authenticates {directory : Directory} {client : Client} {parameters : Parameters}
    (source : KeySource State) (state : State)
    (known : directory.findClient "client-1" = .ok (some client))
    (permitted : .clientSecretJwt ∈ client.methods)
    (registered : client.settings.signingAlgorithm = some .hs256)
    (held : client.clientSecret = some "secret")
    (exchanged : parameters.get? "grant_type" ≠ some "authorization_code") :
    ∃ accepted, (authenticate directory source provider now
      ⟨"client-1", .clientSecretJwt, some token, parameters⟩ state).result = .ok accepted :=
  authenticates_of_proves source state known permitted registered held
    fun _ exchanges => absurd exchanges.1 exchanged

end Sample

/-! ### Acceptance -/

/-- **Everything that has to hold of a request**, by the registrations and authorizations that are
stored, for the assertion of a client to be accepted. -/
structure Acceptance (registered : String → Option Client) (stored : String → Option Authorization)
    (source : KeySource State) (provider : Provider) (now : Instant) (request : AuthRequest)
    (state : State) (client : Client) (assertion : Assertion) : Prop where
  known : ∃ id, registered id = some client
  identified : client.clientId = request.clientId
  method : request.method = .clientSecretJwt ∨ request.method = .privateKeyJwt
  permitted : request.method ∈ client.methods
  presented : request.credentials = some assertion.token
  nonempty : assertion.token ≠ ""
  trusted : Verifier.Trusts source state client assertion.token ⟨assertion.header, assertion.claims⟩
    request.method
  claims : ∀ claim, assertion.claims.Holds
    (.ofClient request.clientId provider.tokenEndpointUrl) now claim
  issued : assertion.validity.issuedAt = assertion.claims.issuedAt.map Instant.ofSeconds
  expires : assertion.claims.expiresAt.map Instant.ofSeconds = some assertion.validity.expiresAt
  proved : ∀ code, request.Exchanges code → ∀ id authorization, stored id = some authorization →
    authorization.Carries (.code, code) →
    ProofKey authorization client (request.parameters.get? "code_verifier")

theorem proves_ofStores_iff {clients : ClientStore} {authorizations : AuthorizationStore}
    {stored : String → Option Authorization} (represents : authorizations.Represents stored)
    {timeout : Span} {client : Client} {request : AuthRequest} :
    Proves (.ofStores clients authorizations timeout) client request ↔
      ∀ code, request.Exchanges code → ∀ id authorization, stored id = some authorization →
        authorization.Carries (.code, code) →
        ProofKey authorization client (request.parameters.get? "code_verifier") := by
  constructor
  · intro proves code exchanges id authorization held carries
    obtain ⟨found, looked, proved⟩ := proves code exchanges
    obtain rfl := Except.ok.inj looked
    exact proved authorization ((represents.byToken?_eq_some_iff code .code authorization).mpr
      ⟨id, held, carries⟩)
  · intro proved code exchanges
    refine ⟨_, rfl, fun authorization found => ?_⟩
    obtain ⟨id, held, carries⟩ :=
      (represents.byToken?_eq_some_iff code .code authorization).mp found
    exact proved code exchanges id authorization held carries

/-- Over stores that hold given registrations and authorizations, exactly the requests are
authenticated of which everything holds. -/
theorem authenticate_ofStores_iff {clients : ClientStore} {authorizations : AuthorizationStore}
    {registered : String → Option Client} {stored : String → Option Authorization}
    (clientsHeld : clients.Represents registered)
    (authorizationsHeld : authorizations.Represents stored)
    {timeout : Span} {source : KeySource State} {provider : Provider} {now : Instant}
    {request : AuthRequest} {state : State} {accepted : AuthenticatedClient} :
    (authenticate (.ofStores clients authorizations timeout) source provider now request
        state).result = .ok accepted ↔
      accepted.method = request.method ∧ accepted.parameters = request.parameters ∧
        Acceptance registered stored source provider now request state accepted.client
          accepted.assertion := by
  rw [authenticate_eq_ok_iff]
  constructor
  · rintro ⟨admission, assertion, passed, valid, concluded⟩
    obtain ⟨found, uses, supports, presented, nonempty, resolved⟩ := preliminary_eq_ok_iff.mp passed
    obtain ⟨same, verified, holds⟩ := Assertion.validate_eq_ok_iff.mp valid
    obtain ⟨rfl, proves⟩ := conclude_eq_ok_iff.mp concluded
    obtain ⟨id, held, identified⟩ :=
      (clientsHeld.byClientId?_eq_some_iff request.clientId _).mp (Except.ok.inj found)
    obtain ⟨right, issued, expires⟩ := Claims.validity_eq_ok_iff.mp holds
    refine ⟨rfl, rfl, ?_⟩
    exact {
      known := ⟨id, held⟩
      identified
      method := AuthMethod.usesAssertion_iff.mp uses
      permitted := Client.supports_iff.mp supports
      presented := by rw [same]; exact presented
      nonempty := by rw [same]; exact nonempty
      trusted := Verifier.trusts_iff.mpr ⟨_, resolved, by rw [same]; exact verified⟩
      claims := right
      issued
      expires
      proved := (proves_ofStores_iff authorizationsHeld).mp proves }
  · rintro ⟨sameMethod, sameParameters, acceptance⟩
    obtain ⟨id, held⟩ := acceptance.known
    obtain ⟨verifier, resolved, verified⟩ := Verifier.trusts_iff.mp acceptance.trusted
    -- by the index, the registration that holds the client identifier is the one that is found
    have found : (Directory.ofStores clients authorizations timeout).findClient request.clientId =
        .ok (some accepted.client) :=
      congrArg Except.ok ((clientsHeld.byClientId?_eq_some_iff request.clientId _).mpr
        ⟨id, held, acceptance.identified⟩)
    refine ⟨⟨accepted.client, accepted.assertion.token, verifier⟩, accepted.assertion, ?_, ?_, ?_⟩
    · exact preliminary_eq_ok_iff.mpr ⟨found, AuthMethod.usesAssertion_iff.mpr acceptance.method,
        Client.supports_iff.mpr acceptance.permitted, acceptance.presented, acceptance.nonempty,
        resolved⟩
    · exact Assertion.validate_eq_ok_iff.mpr ⟨rfl, verified,
        Claims.validity_eq_ok_iff.mpr ⟨acceptance.claims, acceptance.issued, acceptance.expires⟩⟩
    · refine conclude_eq_ok_iff.mpr ⟨?_, ?_⟩
      · rw [← sameMethod, ← sameParameters]
      · exact (proves_ofStores_iff authorizationsHeld).mpr acceptance.proved

/-- **Exactly the requests are authenticated of which everything holds.** After every run of the
stores from the empty ones, for every source of keys, server, instant and request:

* an authentication succeeds exactly with the client, the assertion, the method and the parameters
  for which everything holds, by the registrations and authorizations that were last saved;
* so it succeeds at all exactly when everything holds for some client and assertion. -/
theorem authenticate_accepts_iff (clients : List Client) (commands : List AuthorizationStore.Command)
    (timeout : Span) (source : KeySource State) (provider : Provider) (now : Instant)
    (request : AuthRequest) (state : State) :
    let clientRun := trace ClientStore.perform clients .empty
    let authorizationRun := trace AuthorizationStore.perform commands .empty
    let accepts := Acceptance (ClientStore.registered clientRun.1)
      (AuthorizationStore.stored authorizationRun.1) source provider now request state
    let result := (authenticate (.ofStores clientRun.2 authorizationRun.2 timeout) source provider now
      request state).result
    (∀ accepted, result = .ok accepted ↔ accepted.method = request.method ∧
      accepted.parameters = request.parameters ∧ accepts accepted.client accepted.assertion) ∧
    ((∃ accepted, result = .ok accepted) ↔ ∃ client assertion, accepts client assertion) := by
  intro clientRun authorizationRun accepts result
  have exactly : ∀ accepted, result = .ok accepted ↔ accepted.method = request.method ∧
      accepted.parameters = request.parameters ∧ accepts accepted.client accepted.assertion :=
    fun accepted => authenticate_ofStores_iff (ClientStore.represents_trace clients)
      (AuthorizationStore.represents_trace commands)
  refine ⟨exactly, ?_⟩
  constructor
  · rintro ⟨accepted, succeeded⟩
    obtain ⟨-, -, holds⟩ := (exactly accepted).mp succeeded
    exact ⟨accepted.client, accepted.assertion, holds⟩
  · rintro ⟨client, assertion, holds⟩
    exact ⟨⟨client, request.method, assertion, request.parameters⟩,
      (exactly _).mpr ⟨rfl, rfl, holds⟩⟩

end ClientAssertion

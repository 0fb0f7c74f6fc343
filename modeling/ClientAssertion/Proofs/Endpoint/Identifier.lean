/-
**A client identifier beside an assertion may be left out.**

* `Parameters.AlikeButIdentifier`: parameters that differ in nothing but the client identifier, and
  `AuthRequest.MadeOf.of_alike`: they make the same request if they are of the same client;
* `Accepts`: parameters make a request, and it is authenticated;
* `Accepts.issued`: an accepted request is for the issuer of its assertion;
* `Directory.Identifies`: clients are found by their identifiers, as in the stores;
* `identifier_optional`: the same requests are accepted with the identifier and without it.
-/

import ClientAssertion.Proofs.Endpoint.Acceptance
import ClientAssertion.Proofs.Endpoint.Request
import ClientAssertion.Proofs.Jose.Identifier
import ClientAssertion.Proofs.Saved.Claims

namespace ClientAssertion

/-! ### Parameters -/

namespace Parameters

/-- Parameters differ in nothing but the client identifier. -/
structure AlikeButIdentifier (parameters other : Parameters) : Prop where
  type : other.get? "client_assertion_type" = parameters.get? "client_assertion_type"
  assertion : other.get? "client_assertion" = parameters.get? "client_assertion"
  remaining : remaining other = remaining parameters

variable (parameters : Parameters)

theorem alike_erase : AlikeButIdentifier parameters (parameters.erase "client_id") where
  type := Table.get?_erase parameters "client_id" _
  assertion := Table.get?_erase parameters "client_id" _
  remaining := Table.filterKeys_erase rfl parameters

theorem alike_insert (clientId : String) :
    AlikeButIdentifier parameters (parameters.insert "client_id" clientId) where
  type := Table.get?_insert parameters "client_id" _ clientId
  assertion := Table.get?_insert parameters "client_id" _ clientId
  remaining := Table.filterKeys_insert rfl parameters clientId

theorem nonEmpty?_erase (name : String) : nonEmpty? (parameters.erase name) name = none := by
  rw [nonEmpty?, Table.get?_erase, if_pos rfl, Option.filter_none]

theorem nonEmpty?_insert_empty (name : String) :
    nonEmpty? (parameters.insert name "") name = none := by
  rw [nonEmpty?, Table.get?_insert, if_pos rfl]
  rfl

end Parameters

/-! ### Requests -/

namespace AuthRequest

variable {parameters other : Parameters} {request : AuthRequest}

/-- Without an identifier, the one that the assertion claims counts. -/
theorem clientIdOf_of_absent {assertion clientId : String}
    (absent : parameters.nonEmpty? "client_id" = none) :
    clientIdOf parameters assertion = .ok clientId ↔ Token.clientId assertion = .ok clientId := by
  have unnamed : parameters.nonEmpty? Parameter.clientId = none := absent
  simp only [clientIdOf, unnamed]
  cases Token.clientId assertion with
  | error error => simp [Except.mapError]
  | ok claimed => simp [Except.mapError]

/-- **Of the client identifier, a request depends on which client it is for and on nothing else.** -/
theorem MadeOf.of_alike (made : request.MadeOf parameters)
    (alike : parameters.AlikeButIdentifier other)
    (identified : ∀ assertion, parameters.get? "client_assertion" = some assertion →
      clientIdOf other assertion = .ok request.clientId) : request.MadeOf other := by
  obtain ⟨assertion, header, carried, nonempty, headed, -, inferred, presented⟩ := made.credentials
  exact {
    type := alike.type.trans made.type
    credentials := ⟨assertion, header, alike.assertion.trans carried, nonempty, headed,
      identified assertion carried, inferred, presented⟩
    parameters := made.parameters.trans alike.remaining.symm }

end AuthRequest

/-! ### Acceptance -/

/-- Clients are found by the identifiers that they present. -/
def Directory.Identifies (directory : Directory) : Prop :=
  ∀ clientId client, directory.findClient clientId = .ok (some client) → client.clientId = clientId

/-- **The stores find clients by their identifiers**, after every run. -/
theorem Directory.identifies_ofStores (clients : List Client) (authorizations : AuthorizationStore)
    (timeout : Span) :
    (ofStores (trace ClientStore.perform clients .empty).2 authorizations timeout).Identifies := by
  intro clientId client found
  obtain ⟨_, _, same⟩ := ((ClientStore.represents_trace clients).byClientId?_eq_some_iff clientId
    client).mp (Except.ok.inj found)
  exact same

section Acceptance

variable {State : Type} {directory : Directory} {source : KeySource State} {provider : Provider}
  {now : Instant} {state : State} {parameters : Parameters} {request : AuthRequest}
  {accepted : AuthenticatedClient}

/-- **Parameters make a request, and it is authenticated.** -/
structure Accepts (directory : Directory) (source : KeySource State) (provider : Provider)
    (now : Instant) (state : State) (parameters : Parameters) (request : AuthRequest)
    (accepted : AuthenticatedClient) : Prop where
  converts : AuthRequest.ofAssertion parameters = .ok (some request)
  authenticates : (authenticate directory source provider now request state).result = .ok accepted

/-- **The client of an accepted assertion is its issuer**, by a verifier that accepts the token. -/
theorem Accepts.issued (accepts : Accepts directory source provider now state parameters request
    accepted) {token : String} (carried : parameters.get? "client_assertion" = some token) :
    accepted.assertion.claims.issuer = some request.clientId ∧
      directory.findClient request.clientId = .ok (some accepted.client) ∧
      ∃ verifier : Verifier, (verifier.verify source token state).result =
        .ok ⟨accepted.assertion.header, accepted.assertion.claims⟩ := by
  obtain ⟨_, _, presented, -, -, -, -, given⟩ :=
    (AuthRequest.ofAssertion_eq_some_iff.mp accepts.converts).credentials
  obtain rfl := Option.some.inj (carried.symm.trans presented)
  obtain ⟨admission, assertion, passed, valid, concluded⟩ :=
    authenticate_eq_ok_iff.mp accepts.authenticates
  obtain ⟨found, -, -, credentials, -, -⟩ := preliminary_eq_ok_iff.mp passed
  obtain ⟨-, verified, holds⟩ := Assertion.validate_eq_ok_iff.mp valid
  obtain ⟨rfl, -⟩ := conclude_eq_ok_iff.mp concluded
  obtain ⟨right, -, -⟩ := Claims.validity_eq_ok_iff.mp holds
  obtain rfl := Option.some.inj (given.symm.trans credentials)
  exact ⟨right .iss, found, admission.verifier, verified⟩

/-- **Without the identifier, the same request is accepted.** -/
theorem Accepts.of_absent {other : Parameters} {clientId token : String}
    (accepts : Accepts directory source provider now state parameters request accepted)
    (given : parameters.get? "client_id" = some clientId) (nonempty : clientId ≠ "")
    (carried : parameters.get? "client_assertion" = some token) (object : Token.CarriesObject token)
    (alike : parameters.AlikeButIdentifier other) (absent : other.nonEmpty? "client_id" = none) :
    Accepts directory source provider now state other request accepted := by
  have made := AuthRequest.ofAssertion_eq_some_iff.mp accepts.converts
  obtain ⟨assertion, _, presented, -, -, identified, -, -⟩ := made.credentials
  rw [AuthRequest.clientIdOf_of_given assertion given nonempty] at identified
  obtain rfl := Except.ok.inj identified
  obtain ⟨issued, -, _, verified⟩ := accepts.issued carried
  have claimed := Token.clientId_of_verify object verified issued nonempty
  refine ⟨AuthRequest.ofAssertion_eq_some_iff.mpr (made.of_alike alike fun other presented => ?_),
    accepts.authenticates⟩
  obtain rfl := Option.some.inj (carried.symm.trans presented)
  exact (AuthRequest.clientIdOf_of_absent absent).mpr claimed

/-- **With the client that it was accepted for, the same request is accepted.** -/
theorem Accepts.of_given
    (accepts : Accepts directory source provider now state parameters request accepted)
    (absent : parameters.nonEmpty? "client_id" = none) :
    Accepts directory source provider now state (parameters.insert "client_id" request.clientId)
      request accepted := by
  have made := AuthRequest.ofAssertion_eq_some_iff.mp accepts.converts
  obtain ⟨_, _, -, -, -, identified, -, -⟩ := made.credentials
  have nonempty := Token.clientId_ne_empty ((AuthRequest.clientIdOf_of_absent absent).mp identified)
  have given : (parameters.insert "client_id" request.clientId).get? "client_id" =
      some request.clientId := by rw [Table.get?_insert, if_pos rfl]
  exact ⟨AuthRequest.ofAssertion_eq_some_iff.mpr (made.of_alike (parameters.alike_insert _)
    fun assertion _ => AuthRequest.clientIdOf_of_given assertion given nonempty),
    accepts.authenticates⟩

/-- **A client identifier beside an assertion may be left out**, where clients are found by their
identifiers. For every source of keys, server, instant and state:

* by every verifier and source, a token with an object is accepted with no issuer that is not empty
  but the identifier which is read of it without a check;
* parameters with a client identifier and a token with an object that are accepted are also accepted
  without the identifier and with an empty one, as the same request and with the same result;
* parameters without an identifier, or with an empty one, are accepted for none but the issuer of
  the assertion, and with that client's identifier added they make the same request, with the same
  result. -/
theorem identifier_optional (identifies : directory.Identifies) (source : KeySource State)
    (provider : Provider) (now : Instant) (state : State) :
    (∀ (verifier : Verifier) {Other : Type} (keys : KeySource Other) (other : Other) token decoded
        issuer, Token.CarriesObject token →
        (verifier.verify keys token other).result = .ok decoded →
        decoded.claims.issuer = some issuer → issuer ≠ "" → Token.clientId token = .ok issuer) ∧
    (∀ (parameters : Parameters) request accepted clientId token,
      Accepts directory source provider now state parameters request accepted →
      parameters.get? "client_id" = some clientId → clientId ≠ "" →
      parameters.get? "client_assertion" = some token → Token.CarriesObject token →
      Accepts directory source provider now state (parameters.erase "client_id") request accepted ∧
        Accepts directory source provider now state (parameters.insert "client_id" "") request
          accepted) ∧
    ∀ (parameters : Parameters) request accepted,
      Accepts directory source provider now state parameters request accepted →
      parameters.nonEmpty? "client_id" = none →
      accepted.assertion.claims.issuer = some accepted.client.clientId ∧
        Accepts directory source provider now state
          (parameters.insert "client_id" accepted.client.clientId) request accepted := by
  refine ⟨fun _ _ _ _ _ _ _ object accepted issued nonempty =>
    Token.clientId_of_verify object accepted issued nonempty, ?_, ?_⟩
  · intro parameters request accepted clientId token accepts given nonempty carried object
    exact ⟨accepts.of_absent given nonempty carried object parameters.alike_erase
        (parameters.nonEmpty?_erase _),
      accepts.of_absent given nonempty carried object (parameters.alike_insert "")
        (parameters.nonEmpty?_insert_empty _)⟩
  · intro parameters request accepted accepts absent
    obtain ⟨_, _, carried, -⟩ := (AuthRequest.ofAssertion_eq_some_iff.mp accepts.converts).credentials
    obtain ⟨issued, found, -⟩ := accepts.issued carried
    rw [identifies _ _ found]
    exact ⟨issued, accepts.of_given absent⟩

/-- The assertion of a client is accepted with its identifier, without it and with an empty one. -/
theorem identifier_optional_client_credentials :
    let client : Client :=
      { id := "registration-1", clientId := "client-1", clientSecret := some "secret"
        methods := [.clientSecretJwt], settings := { signingAlgorithm := some .hs256 } }
    let directory := Directory.ofStores (trace ClientStore.perform [client] .empty).2 .empty .zero
    let parameters := Parameters.ofPairs [("grant_type", "client_credentials"),
      ("client_assertion", Sample.token),
      ("client_assertion_type", "urn:ietf:params:oauth:client-assertion-type:jwt-bearer"),
      ("client_id", "client-1")]
    ∃ request accepted, ∀ other ∈ [parameters, parameters.erase "client_id",
        parameters.insert "client_id" ""],
      Accepts directory KeySource.fixed Sample.provider Sample.now .empty other request accepted := by
  intro client directory parameters
  have nonempty : "client-1" ≠ "" := by decide
  have given : parameters.get? "client_id" = some "client-1" := rfl
  have carried : parameters.get? "client_assertion" = some Sample.token := rfl
  have object : Token.CarriesObject Sample.token := by
    have written : Sample.payload = Bytes.ofText Sample.claims.toJson.compact := by decide +kernel
    have read : Json.read? Sample.payload = some Sample.claims.toJson := by
      rw [written]
      exact Json.ofText?_compact (Claims.writable_toJson _)
    exact ⟨_, _, _, Token.Parts.of?_compact _ _ _, Base64Url.decodeChars?_encodeChars _, read⟩
  obtain ⟨found, isHeader, same⟩ := Sample.exists_header
  have headed : Token.header Sample.token = .ok found := by
    rw [Token.header, Sample.token, Token.Parts.of?_compact]
    exact Token.decodeHeader_eq_ok_iff.mpr ⟨Sample.header, rfl, isHeader⟩
  let request : AuthRequest :=
    ⟨"client-1", .clientSecretJwt, some Sample.token, Parameters.remaining parameters⟩
  have made : request.MadeOf parameters :=
    ⟨rfl, ⟨Sample.token, found, carried, Token.compact_ne_empty, headed,
      AuthRequest.clientIdOf_of_given _ given nonempty, same ▸ rfl, rfl⟩, rfl⟩
  have exchanged : request.parameters.get? "grant_type" ≠ some "authorization_code" := by
    rw [show request.parameters.get? "grant_type" = some "client_credentials" from rfl]
    decide
  have known : directory.findClient "client-1" = .ok (some client) := rfl
  obtain ⟨accepted, accepts⟩ := Sample.authenticates KeySource.fixed .empty known
    (by simp [client]) rfl rfl exchanged
  have whole : Accepts directory KeySource.fixed Sample.provider Sample.now .empty parameters request
      accepted := ⟨AuthRequest.ofAssertion_eq_some_iff.mpr made, accepts⟩
  have identifies : directory.Identifies := Directory.identifies_ofStores [client] .empty .zero
  obtain ⟨erased, emptied⟩ := (identifier_optional identifies KeySource.fixed _ _ _).2.1 parameters
    request accepted "client-1" Sample.token whole given nonempty carried object
  refine ⟨request, accepted, fun other member => ?_⟩
  simp only [List.mem_cons, List.not_mem_nil, or_false] at member
  rcases member with rfl | rfl | rfl
  · exact whole
  · exact erased
  · exact emptied

end Acceptance

end ClientAssertion

/-
**What becomes of a token request.**

* `TokenEndpoint.outcome`: the parameters of a request are not converted, or the client of the
  request that they make is authenticated or not;
* `GrantConverter.ForAll`: all grant types are converted alike, and `ForAll.convert_eq`: then a
  converter converts what has the name of a grant type;
* `AuthRequest.ReadAlike` and `Parameters.ReadAlike`: the same stands under every name that is read;
* `outcome_readAlike`: a client is authenticated alike by parameters that are read alike;
* `outcome_eq_none_iff`: parameters with an assertion type are converted unless their assertion is
  empty or their grant type has no name.
-/

import ClientAssertion.Proofs.Endpoint.Request

namespace ClientAssertion

/-! ### Conversion for all grant types -/

namespace GrantType

/-- The names of the grant types. -/
def names : List String := ["authorization_code", "client_credentials", "refresh_token"]

theorem name_mem_names (type : GrantType) : type.name ∈ names := by
  cases type <;> decide

theorem exists_of_mem_names {name : String} (known : name ∈ names) :
    ∃ type : GrantType, name = type.name := by
  obtain ⟨type, -, rfl⟩ := List.mem_map.mp (show name ∈ all.map GrantType.name from known)
  exact ⟨type, rfl⟩

theorem ofName?_eq_none {name : String} (unknown : name ∉ names) : ofName? name = none := by
  refine List.find?_eq_none.mpr fun type _ same => unknown ?_
  obtain rfl := beq_iff_eq.mp same
  exact type.name_mem_names

end GrantType

namespace GrantConverter

variable {converter : GrantConverter} {conversion : Conversion}

/-- All grant types are converted alike. -/
def ForAll (converter : GrantConverter) (conversion : Conversion) : Prop :=
  ∀ type : GrantType, converter.Maps type.name conversion

theorem forAll_ofGrantTypes {types : List GrantType} (all : ∀ type, type ∈ types)
    (built : ofGrantTypes types conversion = .ok converter) : converter.ForAll conversion :=
  fun type => (maps_ofGrantTypes_iff built).mpr ⟨rfl, type, all type, rfl⟩

theorem ForAll.supports_iff (forAll : converter.ForAll conversion) {name : String} :
    converter.supports name = true ↔ name ∈ GrantType.names := by
  by_cases known : name ∈ GrantType.names
  · obtain ⟨type, rfl⟩ := GrantType.exists_of_mem_names known
    obtain ⟨other, same, mapped⟩ := forAll type
    rw [supports, same, GrantType.ofName?_name, Option.any_some, mapped]
    exact iff_of_true rfl other.name_mem_names
  · rw [supports, GrantType.ofName?_eq_none known]
    exact iff_of_false Bool.false_ne_true known

/-- **Parameters are converted if they have the name of a grant type.** -/
theorem ForAll.convert_eq (forAll : converter.ForAll conversion) {name : String}
    {parameters : Parameters} (granted : parameters.get? "grant_type" = some name) :
    converter.convert parameters = if name ∈ GrantType.names then conversion parameters else .ok none := by
  split_ifs with known
  · obtain ⟨type, rfl⟩ := GrantType.exists_of_mem_names known
    exact convert_of_maps (forAll type) granted
  · have unread : parameters.nonEmpty? Parameter.grantType >>= GrantType.ofName? = none := by
      have given : parameters.get? Parameter.grantType = some name := granted
      rw [Parameters.nonEmpty?, given, Option.filter_some]
      split_ifs
      · exact GrantType.ofName?_eq_none known
      · rfl
    rw [convert, unread]
    rfl

end GrantConverter

/-! ### Endpoints -/

/-- A token endpoint at an instant. -/
structure TokenEndpoint (State : Type) where
  converter : GrantConverter
  dispatcher : Dispatcher State
  provider : Provider
  now : Instant
  state : State

/-- **What becomes of a token request**: nothing if its parameters are not converted, else its client
is authenticated. -/
def TokenEndpoint.outcome {State : Type} (endpoint : TokenEndpoint State) (parameters : Parameters) :
    Except AuthError (Option AuthenticatedClient) :=
  match endpoint.converter.convert parameters with
  | .error error => .error error
  | .ok none => .ok none
  | .ok (some request) =>
    (endpoint.dispatcher.authenticate endpoint.provider endpoint.now request
      endpoint.state).result.map some

/-! ### Parameters that are read alike -/

/-- Who was authenticated, and by which assertion. -/
def AuthenticatedClient.identity (accepted : AuthenticatedClient) : Client × AuthMethod × Assertion :=
  (accepted.client, accepted.method, accepted.assertion)

/-- The names that are read of the parameters of a request. -/
def AuthRequest.readNames : List String := ["grant_type", "code", "code_verifier"]

/-- Requests differ in parameters only that no check reads. -/
structure AuthRequest.ReadAlike (request other : AuthRequest) : Prop where
  clientId : other.clientId = request.clientId
  method : other.method = request.method
  credentials : other.credentials = request.credentials
  parameters : ∀ name ∈ readNames, other.parameters.get? name = request.parameters.get? name

namespace AuthRequest.ReadAlike

variable {State : Type} {request other : AuthRequest} (alike : request.ReadAlike other)
  (directory : Directory)

include alike

theorem preliminary_eq : preliminary directory other = preliminary directory request := by
  rw [preliminary, preliminary, alike.clientId, alike.method, alike.credentials]

theorem code?_eq : other.code? = request.code? := by
  have grantType : other.parameters.get? Parameter.grantType =
      request.parameters.get? Parameter.grantType := alike.parameters _ (by decide)
  have code : other.parameters.get? Parameter.code = request.parameters.get? Parameter.code :=
    alike.parameters _ (by decide)
  rw [AuthRequest.code?, AuthRequest.code?, Parameters.nonEmpty?, Parameters.nonEmpty?, grantType, code]

theorem checkGrant_eq (client : Client) :
    checkGrant directory client other = checkGrant directory client request := by
  have verifier : other.parameters.get? Parameter.codeVerifier =
      request.parameters.get? Parameter.codeVerifier := alike.parameters _ (by decide)
  rw [checkGrant, checkGrant, alike.code?_eq, verifier]

theorem conclude_alike (client : Client) (assertion : Assertion) :
    (conclude directory other client assertion).1.map AuthenticatedClient.identity =
      (conclude directory request client assertion).1.map AuthenticatedClient.identity := by
  have accepted : AuthenticatedClient.identity ⟨client, other.method, assertion, other.parameters⟩ =
      AuthenticatedClient.identity ⟨client, request.method, assertion, request.parameters⟩ := by
    rw [AuthenticatedClient.identity, alike.method]
    rfl
  rw [conclude, conclude, alike.checkGrant_eq directory client]
  cases checkGrant directory client request with
  | passed | unbound => exact congrArg Except.ok accepted
  | rejected rejection => rfl

/-- **Requests that are read alike are authenticated alike.** -/
theorem authenticate_alike (source : KeySource State) (provider : Provider) (now : Instant)
    (state : State) :
    (authenticate directory source provider now other state).result.map
        AuthenticatedClient.identity =
      (authenticate directory source provider now request state).result.map
        AuthenticatedClient.identity := by
  rw [authenticate, authenticate, alike.preliminary_eq directory, alike.clientId]
  cases preliminary directory request with
  | error rejection => rfl
  | ok admission =>
    dsimp only
    cases (Assertion.validate admission.verifier source
      (.ofClient request.clientId provider.tokenEndpointUrl) now admission.assertion state).result with
    | error error => rfl
    | ok assertion => exact alike.conclude_alike directory admission.client assertion

theorem dispatch_alike (source : KeySource State) (provider : Provider) (now : Instant)
    (state : State) :
    let dispatcher := Dispatcher.withAuthenticator .empty (assertionAuthenticator directory source)
    (dispatcher.authenticate provider now other state).result.map AuthenticatedClient.identity =
      (dispatcher.authenticate provider now request state).result.map
        AuthenticatedClient.identity := by
  intro dispatcher
  rw [Dispatcher.authenticate, Dispatcher.authenticate, alike.method,
    Dispatcher.get?_withAuthenticator, Table.get?_empty]
  split_ifs
  · exact alike.authenticate_alike directory source provider now state
  · rfl

end AuthRequest.ReadAlike

/-- Conversions end alike, in requests that are read alike if they end in requests. -/
inductive AuthRequest.MadeAlike :
    Except AuthError (Option AuthRequest) → Except AuthError (Option AuthRequest) → Prop
  | error (error : AuthError) : MadeAlike (.error error) (.error error)
  | nothing : MadeAlike (.ok none) (.ok none)
  | request {request other : AuthRequest} (alike : request.ReadAlike other) :
      MadeAlike (.ok (some request)) (.ok (some other))

/-- The names that are read of the parameters of a token request. -/
def Parameters.readNames : List String :=
  ["client_assertion_type", "client_assertion", "client_id"] ++ AuthRequest.readNames

/-- Parameters have the same values under all names that are read. -/
def Parameters.ReadAlike (parameters other : Parameters) : Prop :=
  ∀ name ∈ readNames, other.get? name = parameters.get? name

namespace Parameters.ReadAlike

variable {parameters other : Parameters} (alike : parameters.ReadAlike other)

include alike

theorem clientIdOf_eq (assertion : String) :
    AuthRequest.clientIdOf other assertion = AuthRequest.clientIdOf parameters assertion := by
  have clientId : other.get? Parameter.clientId = parameters.get? Parameter.clientId :=
    alike _ (by decide)
  rw [AuthRequest.clientIdOf, AuthRequest.clientIdOf, nonEmpty?, nonEmpty?, clientId]

theorem remaining_alike : ∀ name ∈ AuthRequest.readNames,
    (remaining other).get? name = (remaining parameters).get? name := by
  intro name member
  rw [get?_remaining, get?_remaining, alike name (List.mem_append_right _ member)]

theorem ofToken_alike (assertion : String) :
    AuthRequest.MadeAlike ((AuthRequest.ofToken parameters assertion).map some)
      ((AuthRequest.ofToken other assertion).map some) := by
  rw [AuthRequest.ofToken, AuthRequest.ofToken, alike.clientIdOf_eq assertion]
  cases Token.header assertion with
  | error flaw => exact .error _
  | ok header =>
    cases AuthRequest.clientIdOf parameters assertion with
    | error error => exact .error _
    | ok clientId => exact .request ⟨rfl, rfl, rfl, alike.remaining_alike⟩

/-- **Parameters that are read alike make requests that are.** -/
theorem ofAssertion_alike :
    AuthRequest.MadeAlike (AuthRequest.ofAssertion parameters) (AuthRequest.ofAssertion other) := by
  have type : other.get? Parameter.clientAssertionType =
      parameters.get? Parameter.clientAssertionType := alike _ (by decide)
  have assertion : other.get? Parameter.clientAssertion = parameters.get? Parameter.clientAssertion :=
    alike _ (by decide)
  rw [AuthRequest.ofAssertion, AuthRequest.ofAssertion, nonEmpty?, nonEmpty?, nonEmpty?, nonEmpty?,
    type, assertion]
  cases (parameters.get? Parameter.clientAssertionType).filter (· ≠ "") with
  | none => exact .nothing
  | some type =>
    dsimp only
    split_ifs
    · cases (parameters.get? Parameter.clientAssertion).filter (· ≠ "") with
      | none => exact .nothing
      | some assertion => exact alike.ofToken_alike assertion
    · exact .error _

end Parameters.ReadAlike

/-! ### Outcomes -/

section Outcome

theorem map_some_map {Error First Second : Type} (result : Except Error First)
    (of : First → Second) : (result.map some).map (Option.map of) = (result.map of).map some := by
  cases result <;> rfl

theorem map_some_ne_none {Error First : Type} (result : Except Error First) :
    result.map some ≠ .ok none := by
  cases result <;> rintro ⟨⟩

variable {State : Type} {converter : GrantConverter} {parameters : Parameters} {grantType : String}

/-- **A client is authenticated alike by parameters that are read alike**, whichever converter
converts all grant types for assertions. -/
theorem outcome_readAlike {others : GrantConverter} {other : Parameters}
    (forAll : converter.ForAll AuthRequest.ofAssertion)
    (forAllToo : others.ForAll AuthRequest.ofAssertion) (alike : parameters.ReadAlike other)
    (granted : parameters.get? "grant_type" = some grantType) (directory : Directory)
    (source : KeySource State) (provider : Provider) (now : Instant) (state : State) :
    let dispatcher := Dispatcher.withAuthenticator .empty (assertionAuthenticator directory source)
    ((TokenEndpoint.mk others dispatcher provider now state).outcome other).map
        (Option.map AuthenticatedClient.identity) =
      ((TokenEndpoint.mk converter dispatcher provider now state).outcome parameters).map
        (Option.map AuthenticatedClient.identity) := by
  intro dispatcher
  have grantedToo : other.get? "grant_type" = some grantType := (alike _ (by decide)).trans granted
  rw [TokenEndpoint.outcome, TokenEndpoint.outcome, forAll.convert_eq granted,
    forAllToo.convert_eq grantedToo]
  split_ifs
  · have made := alike.ofAssertion_alike
    generalize AuthRequest.ofAssertion parameters = result, AuthRequest.ofAssertion other = resultToo
      at made ⊢
    cases made with
    | error error => rfl
    | nothing => rfl
    | request alike =>
      have dispatched := alike.dispatch_alike directory source provider now state
      dsimp only at dispatched ⊢
      rw [map_some_map, map_some_map, dispatched]
  · rfl

/-- Parameters of the assertion type make nothing only if their assertion is empty. -/
theorem AuthRequest.ofAssertion_eq_none_iff {assertion : String}
    (type : parameters.get? "client_assertion_type" =
      some "urn:ietf:params:oauth:client-assertion-type:jwt-bearer")
    (carried : parameters.get? "client_assertion" = some assertion) :
    ofAssertion parameters = .ok none ↔ assertion = "" := by
  have typed : parameters.nonEmpty? Parameter.clientAssertionType = some Parameter.jwtBearer :=
    Parameters.nonEmpty?_eq_some_iff.mpr ⟨type, by decide⟩
  have given : parameters.get? Parameter.clientAssertion = some assertion := carried
  rw [ofAssertion, typed, Parameters.nonEmpty?, given, Option.filter_some]
  by_cases empty : assertion = ""
  · simp [empty]
  · simp only [empty, ne_eq, not_false_eq_true, decide_true, if_true, iff_false]
    cases ofToken parameters assertion with
    | error error => rintro ⟨⟩
    | ok request => rintro ⟨⟩

variable {assertion : String} (granted : parameters.get? "grant_type" = some grantType)
  (type : parameters.get? "client_assertion_type" =
    some "urn:ietf:params:oauth:client-assertion-type:jwt-bearer")
  (carried : parameters.get? "client_assertion" = some assertion)

include granted type carried

theorem GrantConverter.ForAll.convert_eq_none_iff
    (forAll : converter.ForAll AuthRequest.ofAssertion) :
    converter.convert parameters = .ok none ↔ assertion = "" ∨ grantType ∉ GrantType.names := by
  rw [forAll.convert_eq granted]
  split_ifs with known
  · rw [AuthRequest.ofAssertion_eq_none_iff type carried, or_iff_left (not_not_intro known)]
  · exact iff_of_true rfl (.inr known)

/-- **Nothing becomes of a request** exactly if its assertion is empty or its grant type unknown. -/
theorem TokenEndpoint.outcome_eq_none_iff {endpoint : TokenEndpoint State}
    (forAll : endpoint.converter.ForAll AuthRequest.ofAssertion) :
    endpoint.outcome parameters = .ok none ↔ assertion = "" ∨ grantType ∉ GrantType.names := by
  rw [← forAll.convert_eq_none_iff granted type carried, outcome]
  match endpoint.converter.convert parameters with
  | .error error => simp
  | .ok none => simp
  | .ok (some request) =>
    refine iff_of_false (map_some_ne_none _) ?_
    rintro ⟨⟩

end Outcome

end ClientAssertion

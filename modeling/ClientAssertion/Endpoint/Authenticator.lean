/-
**Authentication by an assertion.**

A request passes these checks in order, and the first that fails rejects it: the client is known,
it may use the method, there is an assertion, the registration says how to check it, the assertion
is right, and for a code the proof of its authorization.

* `preliminary` makes the checks before the assertion and `checkGrant` the one behind it;
* `Rejection` names the check that failed; `Rejection.error` is what the client is told, the part
  of the request and no more, and `Rejection.event` what is logged;
* `authenticate` runs all checks.
-/

import ClientAssertion.Assertion
import ClientAssertion.Endpoint.Request
import ClientAssertion.Pkce
import ClientAssertion.Provider
import ClientAssertion.Store.Authorizations
import ClientAssertion.Store.Clients
import ClientAssertion.Time.Span

namespace ClientAssertion

/-! ### Lookups -/

/-- What becomes of a lookup in a store. -/
inductive Lookup (α : Type) where
  | answered (record : Option α)
  | failed (error : AuthError)
  /-- The store does not answer in time. -/
  | stalled

/-- The result of a lookup that may take some time. -/
def Lookup.within {α : Type} (timeout : Span) (what : String) : Lookup α → Except AuthError (Option α)
  | .answered record => .ok record
  | .failed error => .error error
  | .stalled => .error (.storage (what ++ " lookup timed out after " ++ timeout.decimalText))

/-- The stores as an authenticator sees them. -/
structure Directory where
  client : (clientId : String) → Lookup Client
  authorization : (token : String) → TokenType → Lookup Authorization
  timeout : Span

namespace Directory

/-- The stores in memory, which always answer. -/
def ofStores (clients : ClientStore) (authorizations : AuthorizationStore) (timeout : Span) :
    Directory where
  client clientId := .answered (clients.byClientId? clientId)
  authorization token type := .answered (authorizations.byToken? token type)
  timeout := timeout

/-- The client with a client identifier. -/
def findClient (directory : Directory) (clientId : String) : Except AuthError (Option Client) :=
  (directory.client clientId).within directory.timeout "client"

/-- The authorization that a code was issued under. -/
def findCode (directory : Directory) (code : String) : Except AuthError (Option Authorization) :=
  (directory.authorization code .code).within directory.timeout "authorization"

end Directory

/-! ### Outcomes -/

/-- A client that was authenticated. -/
structure AuthenticatedClient where
  client : Client
  method : AuthMethod
  assertion : Assertion
  parameters : Parameters
deriving DecidableEq

/-- The check that rejected a request. -/
inductive Rejection where
  | clientLookup (error : AuthError)
  | unknownClient
  | methodNotPermitted (method : AuthMethod)
  | noAssertion
  | noVerifier (registrationId : String) (missing : Verifier.Missing)
  | badAssertion (error : JwtError)
  | authorizationLookup (error : AuthError)
  | proofKey (error : PkceError)
deriving DecidableEq, Repr

namespace Rejection

/-- What the client is told. -/
def error : Rejection → AuthError
  | .clientLookup _ | .unknownClient => .refused (authenticationFailed Parameter.clientId)
  | .methodNotPermitted _ => .refused (authenticationFailed "authentication_method")
  | .noAssertion => .refused (authenticationFailed "credentials")
  | .noVerifier registrationId missing => missing.error registrationId
  | .badAssertion error => .invalidClient (authenticationFailed Parameter.clientAssertion) (some error)
  | .authorizationLookup _ => .invalidGrant (Parameter.code ++ ": authorization lookup failed")
  | .proofKey error => .invalidGrant error.message

/-- What is logged as the reason. -/
def reason : Rejection → String
  | .clientLookup error | .authorizationLookup error => error.message
  | .unknownClient => "unknown client"
  | .methodNotPermitted used => used.name ++ " is not permitted"
  | .noAssertion => "empty assertion"
  | .noVerifier registrationId missing => (missing.error registrationId).message
  | .badAssertion error => error.message
  | .proofKey error => error.message

/-- The group under which a rejection is logged. -/
def category : Rejection → ErrorCategory
  | .clientLookup error | .authorizationLookup error => error.category
  | .proofKey error => error.category
  | .unknownClient | .methodNotPermitted _ | .noAssertion | .noVerifier .. | .badAssertion _ => .authentication

/-- The error code that is logged. -/
def code : Rejection → String
  | .proofKey error => error.code
  | rejection => rejection.error.code

/-- The event of a rejection. -/
def event (rejection : Rejection) (clientId : String) : Event :=
  ⟨.debug, "client assertion authentication rejected",
    [("client_id", clientId), ("reason", rejection.reason), ("error_code", rejection.code),
      ("category", rejection.category.name)]⟩

end Rejection

/-- The event of an authentication. -/
def authenticatedEvent (request : AuthRequest) : Event :=
  ⟨.info, "client authenticated", [("client_id", request.clientId), ("method", request.method.name)]⟩

/-- The event of a code that belongs to no authorization. -/
def unboundCodeEvent (client : Client) : Event :=
  ⟨.debug, "no authorization for code, skipping PKCE", [("client_id", client.clientId)]⟩

/-! ### Checks -/

/-- What the checks before the assertion find: the client, its assertion and what checks it. -/
structure Admission where
  client : Client
  assertion : String
  verifier : Verifier
deriving DecidableEq

/-- The checks before the assertion. -/
def preliminary (directory : Directory) (request : AuthRequest) : Except Rejection Admission :=
  match directory.findClient request.clientId with
  | .error error => .error (.clientLookup error)
  | .ok none => .error .unknownClient
  | .ok (some client) =>
    if request.method.usesAssertion ∧ client.supports request.method then
      match request.credentials.filter (· ≠ "") with
      | none => .error .noAssertion
      | some assertion =>
        match Verifier.resolve client request.method with
        | .error missing => .error (.noVerifier client.id missing)
        | .ok verifier => .ok ⟨client, assertion, verifier⟩
    else .error (.methodNotPermitted request.method)

/-- The code of a request that exchanges one. -/
def AuthRequest.code? (request : AuthRequest) : Option String :=
  if request.parameters.get? Parameter.grantType = some GrantType.authorizationCode.name then
    request.parameters.nonEmpty? Parameter.code
  else none

/-- What the check of a code finds. -/
inductive GrantCheck where
  | passed
  /-- The code belongs to no authorization, and there is nothing to prove. -/
  | unbound
  | rejected (rejection : Rejection)
deriving DecidableEq, Repr

/-- The check of the code that a request exchanges, if it does. -/
def checkGrant (directory : Directory) (client : Client) (request : AuthRequest) : GrantCheck :=
  match request.code? with
  | none => .passed
  | some code =>
    match directory.findCode code with
    | .error error => .rejected (.authorizationLookup error)
    | .ok none => .unbound
    | .ok (some authorization) =>
      match checkVerifier authorization client (request.parameters.get? Parameter.codeVerifier) with
      | .ok () => .passed
      | .error error => .rejected (.proofKey error)

/-! ### Authentication -/

/-- The outcome of an authentication, with the calls to the source of keys and what they leave. -/
structure Authentication (State : Type) where
  result : Except AuthError AuthenticatedClient
  /-- The events of the authenticator itself. -/
  events : List Event
  calls : List KeyCall
  /-- The events of the source of keys, which come first. -/
  sourceEvents : List Event
  state : State

/-- The result and the events of a request whose assertion is right. -/
def conclude (directory : Directory) (request : AuthRequest) (client : Client) (assertion : Assertion) :
    Except AuthError AuthenticatedClient × List Event :=
  let authenticated : AuthenticatedClient := ⟨client, request.method, assertion, request.parameters⟩
  match checkGrant directory client request with
  | .passed => (.ok authenticated, [authenticatedEvent request])
  | .unbound => (.ok authenticated, [unboundCodeEvent client, authenticatedEvent request])
  | .rejected rejection => (.error rejection.error, [rejection.event client.clientId])

/-- The authentication of a request by its assertion. -/
def authenticate {State : Type} (directory : Directory) (source : KeySource State)
    (provider : Provider) (now : Instant) (request : AuthRequest) (state : State) :
    Authentication State :=
  match preliminary directory request with
  | .error rejection =>
    ⟨.error rejection.error, [rejection.event request.clientId], [], [], state⟩
  | .ok admission =>
    let expected := ExpectedClaims.ofClient request.clientId provider.tokenEndpointUrl
    let outcome := Assertion.validate admission.verifier source expected now admission.assertion state
    let (result, events) :=
      match outcome.result with
      | .error error =>
        (.error (Rejection.badAssertion error).error, [(Rejection.badAssertion error).event request.clientId])
      | .ok assertion => conclude directory request admission.client assertion
    ⟨result, events, outcome.calls, outcome.events, outcome.state⟩

/-! ### Dispatch by method -/

/-- Something that authenticates requests with some methods. -/
structure Authenticator (State : Type) where
  methods : List AuthMethod
  run : Provider → Instant → AuthRequest → State → Authentication State

/-- The authenticator for assertions. -/
def assertionAuthenticator {State : Type} (directory : Directory) (source : KeySource State) :
    Authenticator State :=
  ⟨[.clientSecretJwt, .privateKeyJwt], authenticate directory source⟩

/-- Authenticators by method. -/
abbrev Dispatcher (State : Type) := Table AuthMethod (Authenticator State)

namespace Dispatcher

variable {State : Type}

/-- The dispatcher with an authenticator for all its methods. -/
def withAuthenticator (dispatcher : Dispatcher State) (authenticator : Authenticator State) :
    Dispatcher State :=
  authenticator.methods.foldl (fun dispatcher method => dispatcher.insert method authenticator) dispatcher

/-- There is an authenticator for a method. -/
def supports (dispatcher : Dispatcher State) (method : AuthMethod) : Bool :=
  (dispatcher.get? method).isSome

/-- The event of a method without an authenticator. -/
def unsupportedEvent (request : AuthRequest) : Event :=
  ⟨.debug, "no authentication provider for method",
    [("client_id", request.clientId), ("method", request.method.name)]⟩

/-- The authentication of a request by the authenticator for its method. -/
def authenticate (dispatcher : Dispatcher State) (provider : Provider) (now : Instant)
    (request : AuthRequest) (state : State) : Authentication State :=
  match dispatcher.get? request.method with
  | some authenticator => authenticator.run provider now request state
  | none =>
    ⟨.error (.refused (authenticationFailed "authentication_method")), [unsupportedEvent request],
      [], [], state⟩

end Dispatcher

end ClientAssertion

/-
**The commands.**

A command is a function of what it finds around it: files, environment, time, random octets and a
network.

* `verify` answers a token request with the records of files;
* `run` is the report of the program for some arguments.
-/

import ClientAssertion.CommandLine.Report
import ClientAssertion.Endpoint.Authenticator
import ClientAssertion.Keys.Remote
import ClientAssertion.Settings.Load

namespace ClientAssertion.CommandLine

/-- What a command finds around it. -/
structure Surroundings (Network : Type) where
  files : Files
  environment : List (String × String)
  /-- The orders in which the names of settings come out. -/
  orders : Settings.Orders
  now : Instant
  /-- Random octets. -/
  entropy : Bytes
  transport : Transport Network
  network : Network

variable {Network : Type}

/-- The settings that were asked for. -/
def loadSettings (surroundings : Surroundings Network) (path : Option String) : Except Failure Settings :=
  (Settings.load surroundings.orders surroundings.files surroundings.environment path).mapError
    .settings

/-! ### Proof keys -/

/-- What is written about a verifier. -/
def describeVerifier (verifier : String) : Json :=
  .ofMembers [("code_challenge", .text (ChallengeMethod.s256.derive verifier)),
    ("code_challenge_method", .text ChallengeMethod.s256.name), ("code_verifier", .text verifier)]

/-- The challenge of a verifier. -/
def challenge (verifier : String) : Except Failure Finding :=
  match CodeVerifier.of? verifier with
  | .ok _ => .ok ⟨describeVerifier verifier, none⟩
  | .error error => .error (.badVerifier error)

/-- A new verifier with its challenge. -/
def generate (surroundings : Surroundings Network) : Finding :=
  ⟨describeVerifier (CodeVerifier.generate surroundings.entropy), none⟩

/-! ### Settings -/

/-- What is written about settings. -/
def describeSettings (settings : Settings) : Json :=
  let provider := settings.provider
  .ofMembers [("issuer", .text provider.issuer),
    ("jwk_set_endpoint", .text (provider.url provider.endpoints.keySet)),
    ("jwks", .ofMembers [("max_response_size", .nat settings.keys.maxResponseSize),
      ("request_timeout", .text settings.keys.requestTimeout.decimalText),
      ("require_https", .bool settings.keys.requireHttps),
      ("ttl", .text settings.keys.timeToLive.decimalText)]),
    ("storage", .ofMembers [("lookup_timeout", .text settings.lookupTimeout.decimalText)]),
    ("token_endpoint", .text provider.tokenEndpointUrl)]

/-- The settings, checked. -/
def checkSettings (surroundings : Surroundings Network) (path : Option String) : Except Failure Finding := do
  let settings ← loadSettings surroundings path
  return ⟨describeSettings settings, some "configuration is valid"⟩

/-! ### Token requests -/

/-- The records of a file. -/
def readRecords {α : Type} (files : Files) (read : Json → Option α) (path : String) :
    Except Failure (List α) := do
  let text ← (files.text path).mapError (.unreadable path)
  match Json.ofText? text >>= Json.asList? read with
  | some records => return records
  | none => .error (.unparsable path)

namespace VerifyOptions

/-- The form of the token request. -/
def pairs (options : VerifyOptions) : List (String × String) :=
  [(Parameter.grantType, options.grantType), (Parameter.clientAssertionType, Parameter.jwtBearer),
    (Parameter.clientAssertion, options.assertion)] ++
  (options.clientId.map fun value => (Parameter.clientId, value)).toList ++
  (options.code.map fun value => (Parameter.code, value)).toList ++
  (options.codeVerifier.map fun value => (Parameter.codeVerifier, value)).toList

/-- The parameters of the token request. -/
def parameters (options : VerifyOptions) : Parameters := .ofPairs options.pairs

end VerifyOptions

/-- The conversion for all grant types. -/
def converter : Except AuthError GrantConverter :=
  GrantConverter.ofGrantTypes [.authorizationCode, .clientCredentials, .refreshToken] AuthRequest.ofAssertion

/-- The authentication request that the options make. -/
def authRequest (converter : GrantConverter) (options : VerifyOptions) : Except Failure AuthRequest :=
  match converter.convert options.parameters with
  | .ok (some request) => .ok request
  | .ok none =>
    if converter.supports options.grantType then .error (.assertionRequired options.grantType)
    else .error (.grantNotSupported options.grantType)
  | .error error => .error (.conversion error)

/-- What is written about an authenticated client. -/
def describeClient (authenticated : AuthenticatedClient) : Json :=
  let assertion := authenticated.assertion
  .ofMembers [
    ("assertion", .ofMembers [("algorithm", .text assertion.header.algorithm.name),
      ("expires_at", .int assertion.validity.expiresAt.seconds),
      ("issued_at", Json.nullable assertion.validity.issuedAt fun instant => .int instant.seconds),
      ("key_id", Json.nullable assertion.header.keyId .text)]),
    ("authentication_method", .text authenticated.method.name),
    ("client_id", .text authenticated.client.clientId),
    ("client_name", Json.nullable authenticated.client.name .text),
    ("registration_id", .text authenticated.client.id)]

/-- The stores with the records of the files that the options name. -/
def loadStores (files : Files) (options : VerifyOptions) :
    Except Failure (ClientStore × AuthorizationStore) := do
  let clients ← readRecords files Client.ofJson? options.clients
  let authorizations ←
    match options.authorizations with
    | some path => readRecords files Authorization.ofJson? path
    | none => .ok []
  let clients ← (ClientStore.ofList clients).mapError fun refusal => .refusedRecord refusal.error
  let authorizations ←
    (AuthorizationStore.ofList authorizations).mapError fun collision => .refusedRecord collision.error
  return (clients, authorizations)

/-- What authenticates clients under some settings: assertions, checked with keys that are fetched. -/
def dispatcher (surroundings : Surroundings Network) (settings : Settings) (clients : ClientStore)
    (authorizations : AuthorizationStore) : Dispatcher (RemoteKeys Network) :=
  Dispatcher.withAuthenticator .empty
    (assertionAuthenticator (.ofStores clients authorizations settings.lookupTimeout)
      (RemoteKeys.source settings.keys surroundings.transport))

/-- The token request of the options, answered. -/
def verify (surroundings : Surroundings Network) (path : Option String) (options : VerifyOptions) :
    Except Failure Finding := do
  let settings ← loadSettings surroundings path
  let (clients, authorizations) ← loadStores surroundings.files options
  let converter ← converter.mapError .refusedRecord
  let request ← authRequest converter options
  let authentication :=
    (dispatcher surroundings settings clients authorizations).authenticate settings.provider
      surroundings.now request (.new surroundings.network)
  let authenticated ← authentication.result.mapError .authentication
  return ⟨describeClient authenticated, none⟩

/-! ### The program -/

/-- The paths of the files that a command may read. -/
def Invocation.paths (invocation : Invocation) : List String :=
  let settings := invocation.settingsPath.getD Settings.defaultPath
  match invocation.command with
  | .verify options => settings :: options.clients :: options.authorizations.toList
  | .checkSettings => [settings]
  | .challenge _ | .generate => []

/-- The paths of the files that the program may read for some arguments. -/
def pathsOf (environment : List (String × String)) (arguments : List String) : List String :=
  match Invocation.ofArguments environment arguments with
  | .error _ => []
  | .ok invocation => invocation.paths

/-- What a command finds, or why it fails. -/
def execute (surroundings : Surroundings Network) (invocation : Invocation) : Except Failure Finding :=
  match invocation.command with
  | .verify options => verify surroundings invocation.settingsPath options
  | .challenge verifier => challenge verifier
  | .generate => .ok (generate surroundings)
  | .checkSettings => checkSettings surroundings invocation.settingsPath

/-- The report of the program. -/
def run (surroundings : Surroundings Network) (arguments : List String) : Report :=
  match Invocation.ofArguments surroundings.environment arguments with
  | .error stop => .ofStop stop
  | .ok invocation =>
    .ofResult (isColoured surroundings.environment) invocation.format (execute surroundings invocation)

end ClientAssertion.CommandLine

/-
**Registered clients.**

A client is registered with its identifiers, the authentication methods and grant types that it
may use, and the settings that its assertions are checked with.

* `Client.ofJson?` reads a registration and `Client.toJson` writes it;
* `Client.flaw?` is the first thing that is wrong with a registration, if any.
-/

import ClientAssertion.Jose.Algorithm
import ClientAssertion.Json.Record
import ClientAssertion.Url.Text

namespace ClientAssertion

/-! ### Grant types -/

/-- What a client may exchange for tokens. -/
inductive GrantType where
  | authorizationCode
  | clientCredentials
  | refreshToken
deriving DecidableEq, Repr

namespace GrantType

/-- All grant types. -/
def all : List GrantType := [.authorizationCode, .clientCredentials, .refreshToken]

/-- The value of the parameter `grant_type`. -/
def name : GrantType → String
  | .authorizationCode => "authorization_code"
  | .clientCredentials => "client_credentials"
  | .refreshToken => "refresh_token"

/-- The grant type that a name stands for. -/
def ofName? (name : String) : Option GrantType := all.find? fun type => type.name == name

theorem ofName?_name (type : GrantType) : ofName? type.name = some type := by
  cases type <;> rfl

end GrantType

/-! ### Authentication methods -/

/-- How a client authenticates at the token endpoint. -/
inductive AuthMethod where
  | clientSecretBasic
  | clientSecretPost
  /-- An assertion with a message authentication code under the client's secret. -/
  | clientSecretJwt
  /-- An assertion signed with a private key of the client. -/
  | privateKeyJwt
  | none
deriving DecidableEq, Repr

namespace AuthMethod

/-- All methods. -/
def all : List AuthMethod :=
  [.clientSecretBasic, .clientSecretPost, .clientSecretJwt, .privateKeyJwt, .none]

/-- The registered name. -/
def name : AuthMethod → String
  | .clientSecretBasic => "client_secret_basic"
  | .clientSecretPost => "client_secret_post"
  | .clientSecretJwt => "client_secret_jwt"
  | .privateKeyJwt => "private_key_jwt"
  | .none => "none"

/-- The method that a name stands for. -/
def ofName? (name : String) : Option AuthMethod := all.find? fun method => method.name == name

theorem ofName?_name (method : AuthMethod) : ofName? method.name = some method := by
  cases method <;> rfl

/-- The method authenticates with an assertion. -/
def usesAssertion : AuthMethod → Bool
  | .clientSecretJwt | .privateKeyJwt => true
  | _ => false

end AuthMethod

/-! ### Settings -/

/-- What a client's assertions are checked with. -/
structure ClientSettings where
  /-- The algorithm that the client signs its assertions with. -/
  signingAlgorithm : Option Algorithm := .none
  /-- Where the client publishes its keys. -/
  keySetUrl : Option String := .none
  /-- A code has to be bound to a challenge. -/
  requireProofKey : Bool := false
deriving DecidableEq, Repr

namespace ClientSettings

/-- The names of the settings, in order. -/
def names : List String :=
  ["tokenEndpointAuthenticationSigningAlgorithm", "jwkSetUrl", "requireProofKey"]

/-- The settings that a document denotes. -/
def ofJson? (document : Json) : Option ClientSettings := do
  let fields ← Json.fields? names document
  return {
    signingAlgorithm := ← Json.optional? fields "tokenEndpointAuthenticationSigningAlgorithm"
      (Json.choice? Algorithm.ofName?)
    keySetUrl := ← Json.optional? fields "jwkSetUrl" Json.asText?
    requireProofKey := ← Json.defaulted? fields "requireProofKey" false Json.asBool? }

/-- The document of settings. -/
def toJson (settings : ClientSettings) : Json :=
  .ofMembers
    (Json.optional "tokenEndpointAuthenticationSigningAlgorithm" settings.signingAlgorithm
        (fun algorithm => .text algorithm.name) ++
      Json.optional "jwkSetUrl" settings.keySetUrl .text ++
      [("requireProofKey", .bool settings.requireProofKey)])

end ClientSettings

/-! ### Registrations -/

/-- A registered client. -/
structure Client where
  /-- The identifier of the registration. -/
  id : String
  /-- The identifier that the client presents. -/
  clientId : String
  clientSecret : Option String := .none
  name : Option String := .none
  methods : List AuthMethod := []
  grantTypes : List GrantType := []
  settings : ClientSettings := {}
deriving DecidableEq, Repr

namespace Client

/-- The names of the members of a registration, in order. -/
def names : List String :=
  ["id", "clientId", "clientSecret", "clientName", "clientAuthenticationMethods",
    "authorizationGrantTypes", "clientSettings"]

/-- The registration that a document denotes. -/
def ofJson? (document : Json) : Option Client := do
  let fields ← Json.fields? names document
  return {
    id := ← Json.required? fields "id" Json.asText?
    clientId := ← Json.required? fields "clientId" Json.asText?
    clientSecret := ← Json.optional? fields "clientSecret" Json.asText?
    name := ← Json.optional? fields "clientName" Json.asText?
    methods := ← Json.required? fields "clientAuthenticationMethods"
      (Json.asList? (Json.choice? AuthMethod.ofName?))
    grantTypes := ← Json.defaulted? fields "authorizationGrantTypes" []
      (Json.asList? (Json.choice? GrantType.ofName?))
    settings := ← Json.defaulted? fields "clientSettings" {} ClientSettings.ofJson? }

/-- The document of a registration. -/
def toJson (client : Client) : Json :=
  .ofMembers
    ([("id", .text client.id), ("clientId", .text client.clientId)] ++
      Json.optional "clientSecret" client.clientSecret .text ++
      Json.optional "clientName" client.name .text ++
      [("clientAuthenticationMethods", .texts (client.methods.map AuthMethod.name)),
        ("authorizationGrantTypes", .texts (client.grantTypes.map GrantType.name)),
        ("clientSettings", client.settings.toJson)])

/-- The secret, unless it is empty. -/
def secret? (client : Client) : Option String := client.clientSecret.filter (· ≠ "")

/-- The client may use a method. -/
def supports (client : Client) (method : AuthMethod) : Bool := client.methods.contains method

/-! ### Validity -/

/-- What can be wrong with a registration. -/
inductive Flaw where
  | emptyId
  | emptyClientId
  | noMethods
  | invalidKeySetUrl (url : String)
deriving DecidableEq, Repr

/-- The text of a flaw. -/
def Flaw.message : Flaw → String
  | .emptyId => "Client registration id cannot be empty"
  | .emptyClientId => "Client ID cannot be empty"
  | .noMethods => "At least one client authentication method is required"
  | .invalidKeySetUrl url => "Invalid JWK Set URL: " ++ url

/-- A text is an absolute URL. -/
def isUrl (text : String) : Bool := (Url.ofText? text).toBool

/-- The first flaw of a registration. -/
def flaw? (client : Client) : Option Flaw :=
  if client.id = "" then some .emptyId
  else if client.clientId = "" then some .emptyClientId
  else if client.methods = [] then some .noMethods
  else (client.settings.keySetUrl.filter (!isUrl ·)).map .invalidKeySetUrl

/-! ### Building -/

/-- A registration without any methods, grant types or settings. -/
def new (id clientId : String) : Client := { id, clientId }

/-- The registration with another identifier. -/
def withId (client : Client) (id : String) : Client := { client with id }

/-- The registration with a secret. -/
def withSecret (client : Client) (secret : String) : Client :=
  { client with clientSecret := some secret }

/-- The registration with a name. -/
def withName (client : Client) (name : String) : Client := { client with name := some name }

/-- The registration with a method, which is not listed twice. -/
def withMethod (client : Client) (method : AuthMethod) : Client :=
  if method ∈ client.methods then client else { client with methods := client.methods ++ [method] }

/-- The registration with a grant type, which is not listed twice. -/
def withGrantType (client : Client) (type : GrantType) : Client :=
  if type ∈ client.grantTypes then client
  else { client with grantTypes := client.grantTypes ++ [type] }

/-- The registration with a signing algorithm. -/
def withSigningAlgorithm (client : Client) (algorithm : Algorithm) : Client :=
  { client with settings := { client.settings with signingAlgorithm := some algorithm } }

/-- The registration with a URL where the keys are published. -/
def withKeySetUrl (client : Client) (url : String) : Client :=
  { client with settings := { client.settings with keySetUrl := some url } }

/-- The registration that requires a challenge, or does not. -/
def withProofKey (client : Client) (required : Bool) : Client :=
  { client with settings := { client.settings with requireProofKey := required } }

end Client

end ClientAssertion

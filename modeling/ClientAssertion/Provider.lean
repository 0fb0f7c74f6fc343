/-
**The authorization server.**

* `Provider.url` joins a path to the issuer with exactly one slash;
* `Provider.tokenEndpointUrl` is the audience that assertions have to name.
-/

import ClientAssertion.Json.Record

namespace ClientAssertion

/-- The paths of the endpoints, relative to the issuer. -/
structure Endpoints where
  authorization : String := "/oauth2/authorize"
  token : String := "/oauth2/token"
  keySet : String := "/oauth2/jwks"
  revocation : String := "/oauth2/revoke"
  introspection : String := "/oauth2/introspect"
deriving DecidableEq, Repr

namespace Endpoints

/-- The names of the settings, in order. -/
def names : List String :=
  ["authorization_endpoint", "token_endpoint", "jwk_set_endpoint", "token_revocation_endpoint",
    "token_introspection_endpoint"]

/-- The names of the settings with their paths. -/
def toList (endpoints : Endpoints) : List (String × String) :=
  names.zip [endpoints.authorization, endpoints.token, endpoints.keySet, endpoints.revocation,
    endpoints.introspection]

/-- The endpoints whose paths a reader of settings yields, each with its default. -/
def ofSettings? {m : Type → Type} [Monad m] (text : (name default : String) → m String) :
    m Endpoints := do
  return {
    authorization := ← text "authorization_endpoint" ({} : Endpoints).authorization
    token := ← text "token_endpoint" ({} : Endpoints).token
    keySet := ← text "jwk_set_endpoint" ({} : Endpoints).keySet
    revocation := ← text "token_revocation_endpoint" ({} : Endpoints).revocation
    introspection := ← text "token_introspection_endpoint" ({} : Endpoints).introspection }

/-- The endpoints that a document denotes. -/
def ofJson? (document : Json) : Option Endpoints := do
  let fields ← Json.fields? names document
  ofSettings? fun name default => Json.defaulted? fields name default Json.asText?

/-- The document of endpoints. -/
def toJson (endpoints : Endpoints) : Json :=
  .ofMembers (endpoints.toList.map fun entry => (entry.1, .text entry.2))

end Endpoints

/-- An authorization server with the layout of its endpoints. -/
structure Provider where
  issuer : String
  endpoints : Endpoints := {}
deriving DecidableEq, Repr

namespace Provider

/-- A text without the slashes at its end. -/
def trimSlashes (text : List Char) : List Char := (text.reverse.dropWhile (· == '/')).reverse

/-- The URL of a path. -/
def url (provider : Provider) (path : String) : String :=
  String.ofList (trimSlashes provider.issuer.toList ++ '/' :: path.toList.dropWhile (· == '/'))

/-- The URL of the token endpoint. -/
def tokenEndpointUrl (provider : Provider) : String := provider.url provider.endpoints.token

end Provider

end ClientAssertion

/-
**Settings of the authorization server.**

* `Settings.ofJson?` reads settings from a document and `Settings.toJson` writes them;
* `Settings.flaw?` is the first thing that is wrong with settings: an issuer that is no web URL,
  an endpoint that is no absolute path, or a limit of zero;
* `ConfigError.message` is the text of an error.
-/

import ClientAssertion.Keys.Remote
import ClientAssertion.Provider
import ClientAssertion.Url.Text

namespace ClientAssertion

/-! ### Errors -/

/-- Why there are no settings. -/
inductive ConfigError where
  | missing (name : String)
  | invalidIssuer (issuer : String) (error : Url.Error)
  | unsupportedScheme (scheme : String)
  | relativeEndpoint (name path : String)
  | notPositive (name : String)
  | fileNotFound (path : String)
  /-- A source of settings cannot be read. -/
  | unreadableSource
  /-- The settings that the sources make have a wrong form. -/
  | unreadableSettings
deriving DecidableEq, Repr

namespace ConfigError

/-- The kinds of errors. -/
inductive Kind where
  | invalidValue
  | missing
  | load
deriving DecidableEq, Repr

/-- The kind of an error. -/
def kind : ConfigError → Kind
  | .missing _ => .missing
  | .invalidIssuer .. | .unsupportedScheme _ | .relativeEndpoint .. | .notPositive _ => .invalidValue
  | .fileNotFound _ | .unreadableSource | .unreadableSettings => .load

/-- What stands before the detail in the text of an error. -/
def Kind.heading : Kind → String
  | .invalidValue => "Invalid configuration value"
  | .missing => "Missing required configuration"
  | .load => "Failed to load configuration"

/-- The detail of an error.  What the reader of the sources adds is left out. -/
def detail : ConfigError → String
  | .missing name => name
  | .invalidIssuer issuer error => "issuer '" ++ issuer ++ "': " ++ error.message
  | .unsupportedScheme scheme => "issuer must use http or https, got '" ++ scheme ++ "'"
  | .relativeEndpoint name path => "endpoints." ++ name ++ " must start with '/', got '" ++ path ++ "'"
  | .notPositive name => name ++ " must be greater than 0"
  | .fileNotFound path => "config file not found: " ++ path
  | .unreadableSource => "config build error"
  | .unreadableSettings => "config deserialize error"

/-- The text of an error. -/
def message (error : ConfigError) : String := error.kind.heading ++ ": " ++ error.detail

end ConfigError

/-! ### Settings -/

/-- The issuer where nothing else is set. -/
def Settings.defaultIssuer : String := "http://localhost:9000"

/-- How long a lookup may take where nothing else is set. -/
def Settings.defaultLookupTimeout : Span := .ofSeconds 5

/-- Settings of the authorization server. -/
structure Settings where
  issuer : String := Settings.defaultIssuer
  endpoints : Endpoints := {}
  keys : RemoteSettings := {}
  /-- How long a lookup in a store may take. -/
  lookupTimeout : Span := Settings.defaultLookupTimeout
deriving DecidableEq, Repr

/-- A span that a document denotes. -/
def Span.ofJson? (document : Json) : Option Span := document.asText? >>= Span.ofText?

namespace RemoteSettings

/-- The names of the settings, in order. -/
def names : List String := ["ttl", "request_timeout", "max_response_size", "require_https"]

/-- The settings that a document denotes. -/
def ofJson? (document : Json) : Option RemoteSettings := do
  let fields ← Json.fields? names document
  return {
    timeToLive := ← Json.defaulted? fields "ttl" defaultTimeToLive Span.ofJson?
    requestTimeout := ← Json.defaulted? fields "request_timeout" defaultRequestTimeout Span.ofJson?
    maxResponseSize :=
      ← Json.defaulted? fields "max_response_size" defaultMaxResponseSize Json.asNat64?
    requireHttps := ← Json.defaulted? fields "require_https" true Json.asBool? }

/-- The document of settings. -/
def toJson (settings : RemoteSettings) : Json :=
  .ofMembers [("ttl", .text settings.timeToLive.text),
    ("request_timeout", .text settings.requestTimeout.text),
    ("max_response_size", .nat settings.maxResponseSize),
    ("require_https", .bool settings.requireHttps)]

end RemoteSettings

namespace Settings

/-- The lookup timeout that a document with settings of the stores denotes. -/
def lookupTimeoutOfJson? (document : Json) : Option Span := do
  let fields ← Json.fields? ["lookup_timeout"] document
  Json.defaulted? fields "lookup_timeout" defaultLookupTimeout Span.ofJson?

/-- The names of the sections, in order. -/
def names : List String := ["issuer", "endpoints", "jwks", "storage"]

/-- The settings that a document denotes. -/
def ofJson? (document : Json) : Option Settings := do
  let fields ← Json.fields? names document
  return {
    issuer := ← Json.defaulted? fields "issuer" defaultIssuer Json.asText?
    endpoints := ← Json.defaulted? fields "endpoints" {} Endpoints.ofJson?
    keys := ← Json.defaulted? fields "jwks" {} RemoteSettings.ofJson?
    lookupTimeout := ← Json.defaulted? fields "storage" defaultLookupTimeout lookupTimeoutOfJson? }

/-- The document of settings. -/
def toJson (settings : Settings) : Json :=
  .ofMembers [("issuer", .text settings.issuer), ("endpoints", settings.endpoints.toJson),
    ("jwks", settings.keys.toJson),
    ("storage", .ofMembers [("lookup_timeout", .text settings.lookupTimeout.text)])]

/-- The server that the settings describe. -/
def provider (settings : Settings) : Provider := ⟨settings.issuer, settings.endpoints⟩

/-! ### Validity -/

/-- What is wrong with an issuer. -/
def issuerFlaw? (issuer : String) : Option ConfigError :=
  if issuer = "" then some (.missing "issuer")
  else
    match Url.ofText? issuer with
    | .error error => some (.invalidIssuer issuer error)
    | .ok url => if url.scheme ∈ ["http", "https"] then none else some (.unsupportedScheme url.scheme)

/-- The first endpoint that is no absolute path. -/
def endpointFlaw? (endpoints : Endpoints) : Option ConfigError :=
  (endpoints.toList.find? fun entry => entry.2.toList.head? ≠ some '/').map fun entry =>
    .relativeEndpoint entry.1 entry.2

/-- The limits with their names. -/
def limits (settings : Settings) : List (String × Nat) :=
  [("jwks.ttl", settings.keys.timeToLive.nanoseconds),
    ("jwks.request_timeout", settings.keys.requestTimeout.nanoseconds),
    ("jwks.max_response_size", settings.keys.maxResponseSize),
    ("storage.lookup_timeout", settings.lookupTimeout.nanoseconds)]

/-- The first limit of zero. -/
def limitFlaw? (settings : Settings) : Option ConfigError :=
  (settings.limits.find? fun limit => limit.2 = 0).map fun limit => .notPositive limit.1

/-- The first flaw of settings. -/
def flaw? (settings : Settings) : Option ConfigError :=
  (issuerFlaw? settings.issuer).or
    ((endpointFlaw? settings.endpoints).or settings.limitFlaw?)

/-- The settings, if they have no flaw. -/
def validate (settings : Settings) : Except ConfigError Settings :=
  match settings.flaw? with
  | some flaw => .error flaw
  | none => .ok settings

end Settings

end ClientAssertion

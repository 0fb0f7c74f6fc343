/-
**Settings from their sources.**

Settings come from a file, over which the environment goes, and from their defaults where neither
gives them.

* `Settings.ofValue?` reads settings from the value of the sources, `Settings.load` from the
  sources, whose names come out in some `Orders`.
-/

import ClientAssertion.Files
import ClientAssertion.Settings.Basic
import ClientAssertion.Settings.Format
import ClientAssertion.Text.Utf8

namespace ClientAssertion

/-! ### From a value -/

/-- The span that a value stands for. -/
def Span.ofValue? (value : Settings.Value) : Option Span := value.text? >>= Span.ofText?

/-- The endpoints that a value gives. -/
def Endpoints.ofValue? (value : Settings.Value) : Option Endpoints := do
  let fields ← value.fields? names
  ofSettings? fun name default => Settings.Value.defaulted? fields name default Settings.Value.text?

/-- The settings of key sets that a value gives. -/
def RemoteSettings.ofValue? (value : Settings.Value) : Option RemoteSettings := do
  let fields ← value.fields? names
  return {
    timeToLive := ← Settings.Value.defaulted? fields "ttl" defaultTimeToLive Span.ofValue?
    requestTimeout :=
      ← Settings.Value.defaulted? fields "request_timeout" defaultRequestTimeout Span.ofValue?
    maxResponseSize :=
      ← Settings.Value.defaulted? fields "max_response_size" defaultMaxResponseSize
        Settings.Value.nat64?
    requireHttps := ← Settings.Value.defaulted? fields "require_https" true Settings.Value.bool? }

namespace Settings

/-- The lookup timeout that a value with settings of the stores gives. -/
def lookupTimeoutOfValue? (value : Value) : Option Span := do
  let fields ← value.fields? ["lookup_timeout"]
  Value.defaulted? fields "lookup_timeout" defaultLookupTimeout Span.ofValue?

/-- The settings that a value gives. -/
def ofValue? (value : Value) : Option Settings := do
  let fields ← value.fields? names
  return {
    issuer := ← Value.defaulted? fields "issuer" defaultIssuer Value.text?
    endpoints := ← Value.defaulted? fields "endpoints" {} Endpoints.ofValue?
    keys := ← Value.defaulted? fields "jwks" {} RemoteSettings.ofValue?
    lookupTimeout := ← Value.defaulted? fields "storage" defaultLookupTimeout lookupTimeoutOfValue? }

/-! ### From a file -/

/-- Octets without the byte order mark at their start. -/
def dropByteOrderMark : Bytes → Bytes
  | 0xef :: 0xbb :: 0xbf :: octets => octets
  | octets => octets

/-- The layer that the octets at a path give. -/
def fileLayer? (path : String) (octets : Bytes) : Option Layer := do
  let format ← Format.ofPath? path
  format.layer? (Bytes.lossyText (dropByteOrderMark octets))

/-- The layer of the file at a path. -/
def readLayer (files : Files) (path : String) : Except ConfigError Layer :=
  match files path with
  | .ok (.file octets) =>
    match fileLayer? path octets with
    | some layer => .ok layer
    | none => .error .unreadableSource
  | _ => .error .unreadableSource

/-- The paths with the ending of a format beside a folder. -/
def pathsBeside (path : String) : List String :=
  let names := Files.steps path
  let root := if path.startsWith "/" then "/" else ""
  if names = [] ∨ names.getLast? = some ".." then []
  else Format.endings.map fun ending => root ++ "/".intercalate names ++ "." ++ ending.1

/-- There is a file at a path. -/
def isFile (files : Files) (path : String) : Bool :=
  match files path with
  | .ok (.file _) => true
  | _ => false

/-- The layer of the file at a path.  In place of a folder a file beside it is taken that has the
name of the folder and the ending of a format. -/
def fileLayer (files : Files) (path : String) : Except ConfigError Layer :=
  match files path with
  | .error _ => .error (.fileNotFound path)
  | .ok (.file _) => readLayer files path
  | .ok _ => readLayer files (((pathsBeside path).find? (isFile files)).getD path)

/-! ### From all sources -/

/-- The file that is read if no other one is asked for. -/
def defaultPath : String := "tokengate.toml"

/-- The layer of the file that is asked for, or else of the default one if it is there. -/
def chosenLayer (files : Files) (path : Option String) : Except ConfigError Layer :=
  match path with
  | some path => fileLayer files path
  | none =>
    match files defaultPath with
    | .error _ => .ok []
    | .ok _ => fileLayer files defaultPath

/-- The settings of the sources. -/
def load (orders : Orders) (files : Files) (environment : List (String × String))
    (path : Option String) : Except ConfigError Settings := do
  let layer ← chosenLayer files path
  match ofValue? (orders.laid layer environment) with
  | some settings => settings.validate
  | none => .error .unreadableSettings

end Settings

end ClientAssertion

/-
**Key sets that are fetched and cached.**

A set that was fetched is answered from the cache until its time to live is over.  Then it is
fetched again, and if that fails the old set still serves.  A refresh always fetches.

* `fetch` is one request: the URL has to be secure if that is required, and the reply has to be a
  success, short enough, complete and a key set;
* `RemoteKeys.source` answers calls, `invalidate` and `clear` forget sets.
-/

import ClientAssertion.Keys.Source
import ClientAssertion.Keys.Status
import ClientAssertion.Time.Span

namespace ClientAssertion

namespace RemoteSettings

/-- How long a set is answered from the cache where nothing else is set. -/
def defaultTimeToLive : Span := .ofSeconds 3600

/-- How long a request may take where nothing else is set. -/
def defaultRequestTimeout : Span := .ofSeconds 10

/-- The most octets of a reply where nothing else is set. -/
def defaultMaxResponseSize : Nat := 1048576

end RemoteSettings

/-- How key sets are fetched and cached. -/
structure RemoteSettings where
  /-- How long a set is answered from the cache. -/
  timeToLive : Span := RemoteSettings.defaultTimeToLive
  requestTimeout : Span := RemoteSettings.defaultRequestTimeout
  /-- The most octets of a reply. -/
  maxResponseSize : Nat := RemoteSettings.defaultMaxResponseSize
  requireHttps : Bool := true
deriving DecidableEq, Repr

/-- What comes back from a request. -/
inductive Reply where
  | unreachable
  /-- A response with its status, the length that it declares and its body, if that arrives in
  full. -/
  | response (status : Nat) (declaredLength : Option Nat) (body : Option Bytes)
deriving DecidableEq, Repr

/-- A way to send requests over a network with a state. -/
abbrev Transport (Network : Type) := (url : String) → Network → Reply × Network

/-- A set in the cache with the time when it was fetched, in nanoseconds. -/
structure CachedKeys where
  keys : KeySet
  fetchedAt : Nat
deriving DecidableEq

/-- The cache at a moment, and the network that it fetches from. -/
structure RemoteKeys (Network : Type) where
  cache : Table String CachedKeys
  /-- The time on a clock that is never set back, in nanoseconds. -/
  clock : Nat
  network : Network

namespace RemoteKeys

variable {Network : Type}

/-- The empty cache. -/
def new (network : Network) : RemoteKeys Network := ⟨.empty, 0, network⟩

/-! ### Fetching -/

/-- What is said of a reply with too many octets. -/
def tooLong : AuthError := .storage "JWK Set response exceeds maximum size"

/-- The key set that a reply carries.  The texts of the errors leave out what the network or the
reader of JSON adds behind a colon. -/
def keysOfReply (settings : RemoteSettings) : Reply → Except AuthError KeySet
  | .unreachable => .error (.storage "Failed to fetch JWK Set")
  | .response status declaredLength body =>
    if ¬Status.isSuccess status then
      .error (.storage ("JWK Set fetch failed with status: " ++ Status.text status))
    else if declaredLength.any (settings.maxResponseSize < ·) then .error tooLong
    else
      match body with
      | none => .error (.storage "Failed to read JWK Set")
      | some body =>
        if settings.maxResponseSize < body.length then .error tooLong
        else
          match KeySet.read? body with
          | some keys => .ok keys
          | none => .error (.refused "Invalid JWK Set JSON")

/-- A URL may be requested. -/
def isAllowed (settings : RemoteSettings) (url : String) : Bool :=
  !settings.requireHttps || "https://".toList.isPrefixOf url.toList

/-- The key set at a URL, by a request if the URL may be requested. -/
def fetch (settings : RemoteSettings) (transport : Transport Network) (url : String)
    (network : Network) : Except AuthError KeySet × Network :=
  if isAllowed settings url then
    let (reply, network) := transport url network
    (keysOfReply settings reply, network)
  else (.error (.refused "JWK Set URL must use HTTPS"), network)

/-- The key set at a URL, and the cache with that set if there is one. -/
def fetchAndStore (settings : RemoteSettings) (transport : Transport Network) (url : String)
    (remote : RemoteKeys Network) : Except AuthError KeySet × RemoteKeys Network :=
  let (result, network) := fetch settings transport url remote.network
  match result with
  | .ok keys =>
    (.ok keys, { remote with cache := remote.cache.insert url ⟨keys, remote.clock⟩, network })
  | .error error => (.error error, { remote with network })

/-! ### Answers -/

/-- The event of a failed request. -/
def failure (message url : String) (error : AuthError) : Event :=
  ⟨.warn, message, [("jwk_set_url", url), ("error", error.message)]⟩

/-- The set of a URL in the cache, unless its time to live is over. -/
def fresh? (settings : RemoteSettings) (remote : RemoteKeys Network) (url : String) : Option KeySet :=
  match remote.cache.get? url with
  | some cached =>
    if remote.clock - cached.fetchedAt < settings.timeToLive.nanoseconds then some cached.keys else none
  | none => none

/-- The answer to a call for the set as it is known. -/
def current (settings : RemoteSettings) (transport : Transport Network) (url : String)
    (remote : RemoteKeys Network) : KeyAnswer (RemoteKeys Network) :=
  match remote.fresh? settings url with
  | some keys => ⟨.ok keys, [], remote⟩
  | none =>
    match fetchAndStore settings transport url remote with
    | (.ok keys, remote) => ⟨.ok keys, [], remote⟩
    | (.error error, remote) =>
      match remote.cache.get? url with
      | some cached =>
        ⟨.ok cached.keys, [failure "JWK Set refresh failed, serving cached copy" url error], remote⟩
      | none => ⟨.error error, [failure "JWK Set fetch failed" url error], remote⟩

/-- The answer to a call for a fresh set. -/
def refresh (settings : RemoteSettings) (transport : Transport Network) (url : String)
    (remote : RemoteKeys Network) : KeyAnswer (RemoteKeys Network) :=
  let start : Event := ⟨.debug, "refetching JWK Set for an unknown key", [("jwk_set_url", url)]⟩
  match fetchAndStore settings transport url remote with
  | (.ok keys, remote) => ⟨.ok keys, [start], remote⟩
  | (.error error, remote) =>
    ⟨.error error, [start, failure "JWK Set refetch failed" url error], remote⟩

/-- The source that fetches and caches. -/
def source (settings : RemoteSettings) (transport : Transport Network) :
    KeySource (RemoteKeys Network) := fun call remote =>
  match call with
  | .current url => current settings transport url remote
  | .refresh url => refresh settings transport url remote

/-! ### Forgetting -/

/-- The cache without the set of a URL. -/
def invalidate (remote : RemoteKeys Network) (url : String) : RemoteKeys Network :=
  { remote with cache := remote.cache.erase url }

/-- The cache without any set. -/
def clear (remote : RemoteKeys Network) : RemoteKeys Network := { remote with cache := .empty }

/-- The cache some nanoseconds later. -/
def advance (remote : RemoteKeys Network) (nanoseconds : Nat) : RemoteKeys Network :=
  { remote with clock := remote.clock + nanoseconds }

end RemoteKeys

end ClientAssertion

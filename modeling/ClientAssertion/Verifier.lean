/-
**Which key checks a client's assertions.**

* `Verifier.resolve` finds out from a registration and the method that the client uses what checks
  its assertions: its secret, or a key from the set that it publishes;
* `Verifier.verify` checks an assertion.  A set that lacks the key is fetched once more, so that a
  client which has changed its keys is not locked out;
* `KeySet.find?` is the first key that fits the key identifier, the algorithm and the use.
-/

import ClientAssertion.Client
import ClientAssertion.Jose.Token
import ClientAssertion.Keys.Source
import ClientAssertion.Text.Quoted

namespace ClientAssertion

/-- What checks the assertions of a client. -/
inductive Verifier where
  /-- A message authentication code under the client's secret. -/
  | mac (algorithm : Algorithm) (secret : String)
  /-- A signature under a key from the set at a URL. -/
  | keySet (algorithm : Algorithm) (url : String)
deriving DecidableEq, Repr

/-! ### Finding a key -/

namespace Jwk

/-- A key may have made a signature: it has the key identifier if there is one, and is registered
for the algorithm and for signatures as far as it says. -/
def fits (jwk : Jwk) (keyId : Option String) (algorithm : Algorithm) : Bool :=
  keyId.all (jwk.keyId = some ·) && jwk.algorithm.all (·.name = algorithm.name) &&
    jwk.publicKeyUse.all (· = "sig")

end Jwk

/-- The first key of a set that may have made a signature. -/
def KeySet.find? (set : KeySet) (keyId : Option String) (algorithm : Algorithm) : Option Jwk :=
  set.keys.find? fun jwk => jwk.fits keyId algorithm

namespace Verifier

/-! ### The registration -/

/-- What a registration lacks. -/
inductive Missing where
  | keySetUrl
  | clientSecret
  /-- An algorithm of the kind that the method needs; another one may be registered. -/
  | algorithm (registered : Option Algorithm)
deriving DecidableEq, Repr

/-- The name of what a registration lacks. -/
def Missing.name : Missing → String
  | .keySetUrl => "the JWK Set URL"
  | .clientSecret => "the client secret"
  | .algorithm registered =>
    "a valid JWS Algorithm: '" ++ ((registered.map Algorithm.name).getD "null") ++ "'"

/-- The error that a lacking registration is reported as. -/
def Missing.error (missing : Missing) (registrationId : String) : AuthError :=
  .refused ("Failed to find a Signature Verifier for Client: '" ++ registrationId ++
    "'. Check to ensure you have configured " ++ missing.name ++ ".")

/-- What checks the assertions that a client makes by a method. -/
def resolve (client : Client) (method : AuthMethod) : Except Missing Verifier :=
  match method, client.settings.signingAlgorithm with
  | .privateKeyJwt, some algorithm =>
    if algorithm.isMac then .error (.algorithm (some algorithm))
    else
      match client.settings.keySetUrl.filter (· ≠ "") with
      | some url => .ok (.keySet algorithm url)
      | none => .error .keySetUrl
  | .clientSecretJwt, some algorithm =>
    if algorithm.isMac then
      match client.secret? with
      | some secret => .ok (.mac algorithm secret)
      | none => .error .clientSecret
    else .error (.algorithm (some algorithm))
  | _, registered => .error (.algorithm registered)

/-- The only algorithm that a verifier accepts. -/
def algorithm : Verifier → Algorithm
  | .mac algorithm _ | .keySet algorithm _ => algorithm

/-- A description that leaves the secret out. -/
def description : Verifier → String
  | .mac algorithm _ => "Mac \x7b algorithm: " ++ algorithm.name ++ ", .. \x7d"
  | .keySet algorithm url =>
    "JwkSet \x7b algorithm: " ++ algorithm.name ++ ", jwk_set_url: " ++ quotedText url ++ ", .. \x7d"

/-! ### Checking a signature -/

/-- The outcome of a check, with the calls to the source of keys and what they leave. -/
structure Outcome (State : Type) where
  result : Except JwtError Decoded
  calls : List KeyCall
  events : List Event
  state : State

/-- What is said of a set without the key. -/
def keyMissing (keyId : Option String) (algorithm : Algorithm) (url : String) : JwtError :=
  match keyId with
  | some keyId => .keyNotFound ("Key '" ++ keyId ++ "' not found in JWK Set at " ++ url)
  | none => .keyNotFound ("No " ++ algorithm.name ++ " signing key in JWK Set at " ++ url)

/-- The check of a token under a given key. -/
def verifyKey (algorithm : Algorithm) (key : Key) (token : String) : Except JwtError Decoded :=
  (Token.verify algorithm key token).mapError JwtError.ofFlaw

/-- The check of a token under a key as it is published. -/
def verifyJwk (algorithm : Algorithm) (jwk : Jwk) (token : String) : Except JwtError Decoded :=
  match jwk.numbers.key? with
  | some key => verifyKey algorithm key token
  | none => .error (.invalidKey ("Invalid JWK: " ++ TokenFlaw.base64.message))

variable {State : Type}

/-- The check of a token under a key from a refreshed set. -/
def verifyRefreshed (source : KeySource State) (algorithm : Algorithm) (url : String)
    (keyId : Option String) (token : String) (first : KeyAnswer State) : Outcome State :=
  let answer := source (.refresh url) first.state
  let result :=
    match answer.result with
    | .error error => .error (.keyNotFound error.description)
    | .ok set =>
      match set.find? keyId algorithm with
      | some jwk => verifyJwk algorithm jwk token
      | none => .error (keyMissing keyId algorithm url)
  ⟨result, [.current url, .refresh url], first.events ++ answer.events, answer.state⟩

/-- The check of a token under a key from the set at a URL. -/
def verifyPublished (source : KeySource State) (algorithm : Algorithm) (url : String)
    (keyId : Option String) (token : String) (state : State) : Outcome State :=
  let answer := source (.current url) state
  match answer.result with
  | .error error => ⟨.error (.keyNotFound error.description), [.current url], answer.events, answer.state⟩
  | .ok set =>
    match set.find? keyId algorithm with
    | some jwk => ⟨verifyJwk algorithm jwk token, [.current url], answer.events, answer.state⟩
    | none => verifyRefreshed source algorithm url keyId token answer

/-- The check of a token's signature.  What the token claims is not looked at. -/
def verify (verifier : Verifier) (source : KeySource State) (token : String) (state : State) :
    Outcome State :=
  match verifier with
  | .mac algorithm secret =>
    ⟨verifyKey algorithm (.secret (Bytes.ofText secret)) token, [], [], state⟩
  | .keySet algorithm url =>
    match Token.header token with
    | .error flaw => ⟨.error (.ofFlaw flaw), [], [], state⟩
    | .ok header => verifyPublished source algorithm url header.keyId token state

end Verifier

end ClientAssertion

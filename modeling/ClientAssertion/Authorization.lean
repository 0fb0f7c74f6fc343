/-
**Authorizations.**

An authorization records what was granted to a client: the request, with the challenge that its
code is bound to, and the tokens that were issued, at most one of each type.  The tokens and the
further parameters of the request are hash maps, which are written in the order in which their
entries happen to come out.

* `Authorization.ofJson?` reads an authorization and `Authorization.toJson` writes it, with its maps in
  some order;
* `IssuedToken.isActive`: a token is neither invalidated nor expired.
-/

import ClientAssertion.Client
import ClientAssertion.Dictionary
import ClientAssertion.Time.Timestamp

namespace ClientAssertion

/-! ### Token types -/

/-- The types of tokens that an authorization is found by. -/
inductive TokenType where
  | code
  | accessToken
  | refreshToken
deriving DecidableEq, Repr

namespace TokenType

/-- All types. -/
def all : List TokenType := [.code, .accessToken, .refreshToken]

/-- The name of a type. -/
def name : TokenType → String
  | .code => "code"
  | .accessToken => "access_token"
  | .refreshToken => "refresh_token"

/-- The type that a name stands for. -/
def ofName? (name : String) : Option TokenType := all.find? fun type => type.name == name

theorem ofName?_name (type : TokenType) : ofName? type.name = some type := by
  cases type <;> rfl

end TokenType

/-! ### Tokens -/

/-- A token that was issued. -/
structure IssuedToken where
  value : String
  issuedAt : Timestamp
  expiresAt : Option Timestamp := none
  invalidated : Bool := false
deriving DecidableEq, Repr

namespace IssuedToken

/-- A token without an expiry that is issued at an instant. -/
def new (value : String) (now : Instant) : IssuedToken := { value, issuedAt := .ofInstant now }

/-- A token may still be used. -/
def isActive (token : IssuedToken) (now : Instant) : Bool :=
  !token.invalidated && token.expiresAt.all fun expiry => now < expiry.instant

/-- The names of the members of a token, in order. -/
def names : List String := ["value", "issuedAt", "expiresAt", "invalidated"]

/-- The time that a document denotes. -/
def time? (document : Json) : Option Timestamp := document.asText? >>= Timestamp.ofText?

/-- The token that a document denotes. -/
def ofJson? (document : Json) : Option IssuedToken := do
  let fields ← Json.fields? names document
  return {
    value := ← Json.required? fields "value" Json.asText?
    issuedAt := ← Json.required? fields "issuedAt" time?
    expiresAt := ← Json.optional? fields "expiresAt" time?
    invalidated := ← Json.defaulted? fields "invalidated" false Json.asBool? }

/-- The document of a token. -/
def toJson (token : IssuedToken) : Json :=
  .ofMembers
    ([("value", .text token.value), ("issuedAt", .text token.issuedAt.text)] ++
      Json.optional "expiresAt" token.expiresAt (fun expiry => .text expiry.text) ++
      [("invalidated", .bool token.invalidated)])

end IssuedToken

/-- The tokens of an authorization by their type. -/
structure IssuedTokens where
  code : Option IssuedToken := none
  accessToken : Option IssuedToken := none
  refreshToken : Option IssuedToken := none
deriving DecidableEq, Repr

namespace IssuedTokens

/-- The token of a type. -/
def get? (tokens : IssuedTokens) : TokenType → Option IssuedToken
  | .code => tokens.code
  | .accessToken => tokens.accessToken
  | .refreshToken => tokens.refreshToken

/-- The tokens with the one of a type set. -/
def insert (tokens : IssuedTokens) (type : TokenType) (token : IssuedToken) : IssuedTokens :=
  match type with
  | .code => { tokens with code := some token }
  | .accessToken => { tokens with accessToken := some token }
  | .refreshToken => { tokens with refreshToken := some token }

@[simp] theorem get?_insert (tokens : IssuedTokens) (type other : TokenType) (token : IssuedToken) :
    (tokens.insert type token).get? other = if type = other then some token else tokens.get? other := by
  cases type <;> cases other <;> rfl

/-- The tokens with their types, in the order of the types. -/
def toList (tokens : IssuedTokens) : List (TokenType × IssuedToken) :=
  TokenType.all.filterMap fun type => (tokens.get? type).map fun token => (type, token)

/-- The tokens of pairs, of which the last of a type counts. -/
def ofPairs (pairs : List (TokenType × IssuedToken)) : IssuedTokens :=
  pairs.foldl (fun tokens pair => tokens.insert pair.1 pair.2) {}

/-- The type that the name of a member stands for. -/
def ofJson? (document : Json) : Option IssuedTokens :=
  (document.asPairs? TokenType.ofName? IssuedToken.ofJson?).map ofPairs

/-- The members of the document of tokens, in the order of the types. -/
def members (tokens : IssuedTokens) : List (String × Json) :=
  tokens.toList.map fun pair => (pair.1.name, pair.2.toJson)

/-- The document of tokens, which are a hash map. -/
def toJson (arrangement : Arrangement Json) (tokens : IssuedTokens) : Json :=
  .ofMembers (arrangement.arrange tokens.members)

end IssuedTokens

/-! ### Requests -/

/-- The request that an authorization was granted for. -/
structure AuthorizationRequest where
  clientId : String := ""
  redirectUri : Option String := none
  scopes : List String := []
  state : Option String := none
  codeChallenge : Option String := none
  codeChallengeMethod : Option String := none
  further : Dictionary String := .empty
deriving DecidableEq

namespace AuthorizationRequest

/-- The names of the members of a request, in order. -/
def names : List String :=
  ["clientId", "redirectUri", "scopes", "state", "codeChallenge", "codeChallengeMethod",
    "additionalParameters"]

/-- The parameters that a document denotes; the last value of a name counts. -/
def parameters? (document : Json) : Option (Dictionary String) :=
  (document.asPairs? some Json.asText?).map Dictionary.ofPairs

/-- The document of further parameters, which are a hash map. -/
def furtherJson (arrangement : Arrangement Json) (further : Dictionary String) : Json :=
  .ofMembers (arrangement.arrange (further.entries.map fun entry => (entry.1, .text entry.2)))

/-- The request that a document denotes. -/
def ofJson? (document : Json) : Option AuthorizationRequest := do
  let fields ← Json.fields? names document
  return {
    clientId := ← Json.defaulted? fields "clientId" "" Json.asText?
    redirectUri := ← Json.optional? fields "redirectUri" Json.asText?
    scopes := ← Json.defaulted? fields "scopes" [] (Json.asList? Json.asText?)
    state := ← Json.optional? fields "state" Json.asText?
    codeChallenge := ← Json.optional? fields "codeChallenge" Json.asText?
    codeChallengeMethod := ← Json.optional? fields "codeChallengeMethod" Json.asText?
    further := ← Json.defaulted? fields "additionalParameters" .empty parameters? }

/-- The document of a request. -/
def toJson (arrangement : Arrangement Json) (request : AuthorizationRequest) : Json :=
  .ofMembers
    (("clientId", .text request.clientId) ::
      Json.optional "redirectUri" request.redirectUri .text ++
      ("scopes", .texts request.scopes) ::
      Json.optional "state" request.state .text ++
      Json.optional "codeChallenge" request.codeChallenge .text ++
      Json.optional "codeChallengeMethod" request.codeChallengeMethod .text ++
      if request.further.entries = [] then []
      else [("additionalParameters", furtherJson arrangement request.further)])

end AuthorizationRequest

/-! ### Authorizations -/

/-- What was granted to a client. -/
structure Authorization where
  id : String
  /-- The identifier of the client's registration. -/
  registeredClientId : String
  principalName : String
  grantType : GrantType
  request : Option AuthorizationRequest := none
  tokens : IssuedTokens := {}
deriving DecidableEq

namespace Authorization

/-- The names of the members of an authorization, in order. -/
def names : List String :=
  ["id", "registeredClientId", "principalName", "authorizationGrantType", "authorizationRequest",
    "tokens"]

/-- The authorization that a document denotes. -/
def ofJson? (document : Json) : Option Authorization := do
  let fields ← Json.fields? names document
  return {
    id := ← Json.required? fields "id" Json.asText?
    registeredClientId := ← Json.required? fields "registeredClientId" Json.asText?
    principalName := ← Json.required? fields "principalName" Json.asText?
    grantType := ← Json.required? fields "authorizationGrantType" (Json.choice? GrantType.ofName?)
    request := ← Json.optional? fields "authorizationRequest" AuthorizationRequest.ofJson?
    tokens := ← Json.defaulted? fields "tokens" {} IssuedTokens.ofJson? }

/-- The document of an authorization. -/
def toJson (arrangement : Arrangement Json) (authorization : Authorization) : Json :=
  .ofMembers
    ([("id", .text authorization.id), ("registeredClientId", .text authorization.registeredClientId),
        ("principalName", .text authorization.principalName),
        ("authorizationGrantType", .text authorization.grantType.name)] ++
      Json.optional "authorizationRequest" authorization.request
        (AuthorizationRequest.toJson arrangement) ++
      [("tokens", authorization.tokens.toJson arrangement)])

/-- An authorization without a request and tokens. -/
def new (id registeredClientId principalName : String) (grantType : GrantType) : Authorization :=
  { id, registeredClientId, principalName, grantType }

/-- The authorization with its request. -/
def withRequest (authorization : Authorization) (request : AuthorizationRequest) : Authorization :=
  { authorization with request := some request }

/-- The authorization with a token. -/
def withToken (authorization : Authorization) (type : TokenType) (token : IssuedToken) :
    Authorization :=
  { authorization with tokens := authorization.tokens.insert type token }

/-- The challenge that the code is bound to, unless it is empty. -/
def codeChallenge? (authorization : Authorization) : Option String :=
  (authorization.request.bind (·.codeChallenge)).filter (· ≠ "")

/-- The method of the challenge, unless it is empty. -/
def codeChallengeMethod? (authorization : Authorization) : Option String :=
  (authorization.request.bind (·.codeChallengeMethod)).filter (· ≠ "")

end Authorization

end ClientAssertion

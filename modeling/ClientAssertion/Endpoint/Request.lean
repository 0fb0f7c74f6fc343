/-
**Token requests.**

* `Parameters` are the parameters of a token request; of a repeated one the first value counts;
* `AuthRequest.ofAssertion` makes an authentication request of the parameters that carry a client
  assertion: the method follows from the algorithm in the assertion's header, and the client
  identifier from the assertion where no parameter gives it;
* `GrantConverter.convert` chooses the conversion by the grant type.
-/

import ClientAssertion.AuthError
import ClientAssertion.Client
import ClientAssertion.Jose.Token
import ClientAssertion.Url.Form

namespace ClientAssertion

/-! ### Parameters -/

/-- The parameters of a token request. -/
abbrev Parameters := Table String String

namespace Parameters

/-- The parameters of pairs, of which the first of a name counts. -/
def ofPairs (pairs : List (String × String)) : Parameters := Table.ofFirstPairs pairs

/-- The parameters of a form. -/
def ofForm (body : String) : Parameters := ofPairs (Form.decode body)

/-- The value of a parameter, unless it is empty. -/
def nonEmpty? (parameters : Parameters) (name : String) : Option String :=
  (parameters.get? name).filter (· ≠ "")

end Parameters

/-! ### Names of parameters (RFC 6749, RFC 7521, RFC 7636) -/

namespace Parameter

/-- What is exchanged for tokens. -/
def grantType : String := "grant_type"

/-- The code of an authorization. -/
def code : String := "code"

/-- The verifier behind the challenge of a code. -/
def codeVerifier : String := "code_verifier"

/-- The identifier of the client. -/
def clientId : String := "client_id"

/-- The assertion of the client. -/
def clientAssertion : String := "client_assertion"

/-- The kind of the assertion. -/
def clientAssertionType : String := "client_assertion_type"

/-- The kind of assertions that are signed tokens (RFC 7523). -/
def jwtBearer : String := "urn:ietf:params:oauth:client-assertion-type:jwt-bearer"

end Parameter

/-! ### Requests -/

/-- A client that presents credentials and is not yet authenticated. -/
structure AuthRequest where
  clientId : String
  method : AuthMethod
  /-- The assertion. -/
  credentials : Option String
  /-- The other parameters of the token request. -/
  parameters : Parameters
deriving DecidableEq

/-- What is said of a part of the request that the client is not authenticated by. -/
def authenticationFailed (part : String) : String := "Client authentication failed: " ++ part

namespace AuthRequest

/-- The method of a client whose assertions are signed with an algorithm. -/
def methodOf (algorithm : Algorithm) : AuthMethod :=
  if algorithm.isMac then .clientSecretJwt else .privateKeyJwt

/-- A parameter goes into the conversion and does not remain. -/
def isConsumed (name : String) : Bool :=
  name ∈ [Parameter.clientAssertion, Parameter.clientAssertionType, Parameter.clientId]

/-- The client identifier of the parameters, or else of the assertion. -/
def clientIdOf (parameters : Parameters) (assertion : String) : Except AuthError String :=
  match parameters.nonEmpty? Parameter.clientId with
  | some clientId => .ok clientId
  | none =>
    (Token.clientId assertion).mapError fun error =>
      .invalidClient (authenticationFailed Parameter.clientId) (some error)

/-- The request that an assertion among the parameters makes. -/
def ofToken (parameters : Parameters) (assertion : String) : Except AuthError AuthRequest := do
  let header ← (Token.header assertion).mapError fun flaw =>
    .invalidClient (authenticationFailed Parameter.clientAssertion) (some (.ofFlaw flaw))
  let clientId ← clientIdOf parameters assertion
  return {
    clientId
    method := methodOf header.algorithm
    credentials := some assertion
    parameters := parameters.filterKeys (!isConsumed ·) }

/-- The request that the parameters make, if they carry an assertion. -/
def ofAssertion (parameters : Parameters) : Except AuthError (Option AuthRequest) :=
  match parameters.nonEmpty? Parameter.clientAssertionType with
  | none => .ok none
  | some type =>
    if type = Parameter.jwtBearer then
      match parameters.nonEmpty? Parameter.clientAssertion with
      | none => .ok none
      | some assertion => (ofToken parameters assertion).map some
    else .error (.invalidRequest ("Unsupported " ++ Parameter.clientAssertionType ++ ": " ++ type))

end AuthRequest

/-! ### Conversion by grant type -/

/-- A conversion of parameters into a request, unless they are not meant for it. -/
abbrev Conversion := Parameters → Except AuthError (Option AuthRequest)

/-- Conversions by grant type, at least one. -/
structure GrantConverter where
  conversions : Table GrantType Conversion
  nonempty : conversions.entries ≠ []

namespace GrantConverter

/-- The converter with some conversions. -/
def of (conversions : Table GrantType Conversion) : Except AuthError GrantConverter :=
  if nonempty : conversions.entries ≠ [] then .ok ⟨conversions, nonempty⟩
  else .error (.configuration "converters cannot be empty")

/-- The converter that treats some grant types alike. -/
def ofGrantTypes (types : List GrantType) (conversion : Conversion) : Except AuthError GrantConverter :=
  of (.ofPairs (types.map fun type => (type, conversion)))

/-- The converter has a conversion for the grant type of a name. -/
def supports (converter : GrantConverter) (name : String) : Bool :=
  (GrantType.ofName? name).any fun type => (converter.conversions.get? type).isSome

/-- The request that the parameters make under the conversion of their grant type. -/
def convert (converter : GrantConverter) (parameters : Parameters) :
    Except AuthError (Option AuthRequest) :=
  match parameters.nonEmpty? Parameter.grantType >>= GrantType.ofName? >>= converter.conversions.get? with
  | some conversion => conversion parameters
  | none => .ok none

end GrantConverter

end ClientAssertion

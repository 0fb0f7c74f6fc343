/-
**Errors of the token endpoint (RFC 6749, section 5.2).**

* `AuthError.code` is the error code of a response and `AuthError.response` its body;
* `AuthError.category` groups errors for those who watch the server;
* an error is the client's (`isClientError`) or the server's, never both.
-/

import ClientAssertion.Jose.Error
import ClientAssertion.Json.Basic

namespace ClientAssertion

/-- The groups of errors. -/
inductive ErrorCategory where
  | authentication
  | validation
  | infrastructure
  | configuration
  | internal
deriving DecidableEq, Repr

/-- The name of a group. -/
def ErrorCategory.name : ErrorCategory → String
  | .authentication => "authentication"
  | .validation => "validation"
  | .infrastructure => "infrastructure"
  | .configuration => "configuration"
  | .internal => "internal"

/-- Why a client was not authenticated. -/
inductive AuthError where
  /-- The client could not be authenticated, because of its assertion if there is a source. -/
  | invalidClient (message : String) (source : Option JwtError)
  | invalidGrant (message : String)
  | invalidRequest (message : String)
  /-- A store or a source of keys could not be reached or refused a record. -/
  | storage (message : String)
  | configuration (message : String)
  | internal (message : String)
deriving DecidableEq, Repr

namespace AuthError

/-- An error of the client without a source. -/
abbrev refused (message : String) : AuthError := .invalidClient message none

/-- What is said about an error. -/
def description : AuthError → String
  | .invalidClient message _ | .invalidGrant message | .invalidRequest message | .storage message
  | .configuration message | .internal message => message

/-- What stands before the description in the text of an error. -/
def heading : AuthError → String
  | .invalidClient .. => "Invalid client"
  | .invalidGrant _ => "Invalid grant"
  | .invalidRequest _ => "Invalid request"
  | .storage _ => "Storage error"
  | .configuration _ => "Configuration error"
  | .internal _ => "Internal error"

/-- The text of an error. -/
def message (error : AuthError) : String := error.heading ++ ": " ++ error.description

/-- The error of the assertion. -/
def source? : AuthError → Option JwtError
  | .invalidClient _ source => source
  | _ => none

/-- The client is to blame. -/
def isClientError : AuthError → Bool
  | .invalidClient .. | .invalidGrant _ | .invalidRequest _ => true
  | .storage _ | .configuration _ | .internal _ => false

/-- The server is to blame. -/
def isServerError : AuthError → Bool
  | .storage _ | .configuration _ | .internal _ => true
  | .invalidClient .. | .invalidGrant _ | .invalidRequest _ => false

/-- The group of an error. -/
def category : AuthError → ErrorCategory
  | .invalidClient .. | .invalidGrant _ => .authentication
  | .invalidRequest _ => .validation
  | .storage _ => .infrastructure
  | .configuration _ => .configuration
  | .internal _ => .internal

/-- The error code of a response. -/
def code : AuthError → String
  | .invalidClient .. => "invalid_client"
  | .invalidGrant _ => "invalid_grant"
  | .invalidRequest _ => "invalid_request"
  | .storage _ | .configuration _ | .internal _ => "server_error"

/-- The body of the response. -/
def response (error : AuthError) : Json :=
  .ofMembers [("error", .text error.code), ("error_description", .text error.description)]

end AuthError

end ClientAssertion

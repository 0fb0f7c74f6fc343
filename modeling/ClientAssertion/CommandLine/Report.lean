/-
**What the command line writes.**

* `written` is a document as indented JSON or as one line for each of its fields;
* `isColoured`: marks and names have colours only where the environment forces them, since nobody
  may be looking;
* `Failure.message` is the text of what went wrong, from the outermost cause to the innermost, and
  `Failure.response?` what the client would be told;
* `Report` is what is written and the exit code.  The lines that are logged to the standard error while
  a command runs, from the level on that was chosen, are no part of it.
-/

import ClientAssertion.AuthError
import ClientAssertion.CommandLine.Arguments
import ClientAssertion.Files
import ClientAssertion.Json.Print
import ClientAssertion.Pkce
import ClientAssertion.Settings.Basic

namespace ClientAssertion.CommandLine

/-! ### Colours -/

/-- A colour. -/
inductive Colour where
  | red
  | green
  | cyan
deriving DecidableEq, Repr

/-- The code of a colour on a terminal. -/
def Colour.code : Colour → String
  | .red => "31"
  | .green => "32"
  | .cyan => "36"

/-- A text in a colour, if there are colours. -/
def Colour.paint (colour : Colour) (coloured : Bool) (text : String) : String :=
  if coloured then "\x1b[" ++ colour.code ++ "m" ++ text ++ "\x1b[0m" else text

/-- The environment forces colours. -/
def isColoured (environment : List (String × String)) : Bool :=
  (environment.lookup "CLICOLOR_FORCE").any (· ≠ "0")

/-! ### Documents -/

mutual

/-- The text of a value on one line. -/
def fieldText : Json → String
  | .null => "-"
  | .string text => text.getD ""
  | .array items => ", ".intercalate (fieldTexts items)
  | value => value.compact

/-- The texts of values, each on one line. -/
def fieldTexts : List Json → List String
  | [] => []
  | item :: items => fieldText item :: fieldTexts items

end

/-- The path of a field inside the one with a path. -/
def fieldPath (path name : String) : String := if path = "" then name else path ++ "." ++ name

mutual

/-- The lines of a value that stands at a path. -/
def linesAt (coloured : Bool) (path : String) : Json → List String
  | .object members => memberLines coloured path members
  | value =>
    [(if path = "" then "" else Colour.cyan.paint coloured path ++ ": ") ++ fieldText value]

/-- The lines of the members of an object. -/
def memberLines (coloured : Bool) (path : String) : List (Option String × Json) → List String
  | [] => []
  | (name, value) :: members =>
    linesAt coloured (fieldPath path (name.getD "")) value ++ memberLines coloured path members

end

/-- A document in a format. -/
def written (coloured : Bool) (format : OutputFormat) (document : Json) : String :=
  match format with
  | .json => document.pretty ++ "\n"
  | .text => String.join ((linesAt coloured "" document).map (· ++ "\n"))

/-! ### Failures -/

/-- Why a command failed. -/
inductive Failure where
  | settings (error : ConfigError)
  | unreadable (path : String) (error : ReadError)
  /-- A file does not hold the records that it should. -/
  | unparsable (path : String)
  | refusedRecord (error : AuthError)
  | conversion (error : AuthError)
  | authentication (error : AuthError)
  | assertionRequired (grantType : String)
  | grantNotSupported (grantType : String)
  | badVerifier (error : PkceError)
deriving DecidableEq, Repr

namespace Failure

/-- An error with its source. -/
def chain (error : AuthError) : List String := error.message :: (error.source?.map JwtError.message).toList

/-- The texts of a failure and its causes.  In place of the detail that a reader of JSON gives, a
document that cannot be parsed has a text of its own, and the settings have the texts of their errors
without such details. -/
def causes : Failure → List String
  | .settings error => ["failed to load configuration", error.message]
  | .unreadable path error => ["failed to read " ++ path, error.message]
  | .unparsable path => ["failed to parse " ++ path, "unexpected document"]
  | .refusedRecord error => chain error
  | .conversion error => chain error
  | .authentication error => "client authentication failed" :: chain error
  | .assertionRequired grantType => ["client_assertion is required for grant_type '" ++ grantType ++ "'"]
  | .grantNotSupported grantType => ["grant_type '" ++ grantType ++ "' is not supported"]
  | .badVerifier error => ["invalid code_verifier", error.message]

/-- The text of a failure. -/
def message (failure : Failure) : String := ": ".intercalate failure.causes

/-- What a client is told about a failure that is its own. -/
def response? : Failure → Option Json
  | .conversion error | .authentication error => some error.response
  | _ => none

end Failure

/-! ### Reports -/

/-- What a command leaves behind. -/
structure Report where
  exitCode : UInt8
  stdout : String
  /-- What is written to the standard error, without the lines that are logged. -/
  stderr : String
deriving DecidableEq, Repr

/-- What a command found. -/
structure Finding where
  document : Json
  /-- What is said first to a reader of text. -/
  notice : Option String

namespace Report

/-- The report of a finding. -/
def ofFinding (coloured : Bool) (format : OutputFormat) (finding : Finding) : Report :=
  let notice :=
    match format, finding.notice with
    | .text, some notice => Colour.green.paint coloured "✓" ++ " " ++ notice ++ "\n"
    | _, _ => ""
  ⟨0, notice ++ written coloured format finding.document, ""⟩

/-- The report of a failure. -/
def ofFailure (coloured : Bool) (format : OutputFormat) (failure : Failure) : Report :=
  ⟨1, (failure.response?.map (written coloured format)).getD "",
    Colour.red.paint coloured "✗" ++ " " ++ failure.message ++ "\n"⟩

/-- The report of what a command found or why it failed. -/
def ofResult (coloured : Bool) (format : OutputFormat) : Except Failure Finding → Report
  | .ok finding => ofFinding coloured format finding
  | .error failure => ofFailure coloured format failure

/-- How the program is used.  The text stands in place of the help that a reader of arguments makes
of the options. -/
def usage : String :=
  "Usage: tokengate [OPTIONS] <COMMAND>\n\n" ++
  "Commands:\n" ++
  "  verify --clients <FILE> --assertion <JWT>  Authenticate a client assertion\n" ++
  "  pkce challenge <VERIFIER>                  Print the S256 challenge for a verifier\n" ++
  "  pkce generate                              Generate a verifier and its S256 challenge\n" ++
  "  config check                               Load and validate configuration\n\n" ++
  "Options for verify:\n" ++
  "  --authorizations <FILE>  --client-id <ID>  --grant-type <NAME>  --code <CODE>\n" ++
  "  --code-verifier <VERIFIER>\n\n" ++
  "Options:\n" ++
  "  -c, --config <FILE>  --log-level <LEVEL>  -f, --format <json|text>  -h, --help  -V, --version\n"

/-- The report where no command runs.  Which argument was wrong is left out. -/
def ofStop : Stop → Report
  | .help => ⟨0, usage, ""⟩
  | .version => ⟨0, "tokengate 0.0.1\n", ""⟩
  | .misuse => ⟨2, "", "error: unexpected arguments\n\n" ++ usage⟩

end Report

end ClientAssertion.CommandLine

/-
**Reading URLs.**

White space around a URL, and tabs and line breaks anywhere in it, do not count.  A scheme ends at
the first colon; a web scheme is followed by its authority behind any number of slashes, another
one only behind two.  Of the authority, what stands before the last `@` are credentials and what
follows a colon outside of brackets is a port.

* `Url.ofText?` reads an absolute URL; path, query and fragment never make it fail.
-/

import ClientAssertion.Url.Address
import ClientAssertion.Url.Basic
import ClientAssertion.Url.Domain

namespace ClientAssertion.Url

/-! ### The text -/

/-- A control character or a space. -/
def isC0OrSpace (char : Char) : Bool := char.toNat ≤ 0x20

/-- A character that does not count anywhere in a URL. -/
def isSkipped (char : Char) : Bool := char == '\t' || char == '\n' || char == '\r'

/-- The characters of a text that count. -/
def significant (text : String) : List Char :=
  (((text.toList.dropWhile isC0OrSpace).reverse.dropWhile isC0OrSpace).reverse).filter
    fun char => !isSkipped char

/-- A character of a scheme behind its first letter. -/
def isSchemeChar (char : Char) : Bool :=
  char.isAlphanum || char == '+' || char == '-' || char == '.'

/-- The scheme of a URL in lower case, and what follows its colon. -/
def scheme? (chars : List Char) : Option (String × List Char) :=
  match chars.dropWhile isSchemeChar, (chars.head?.map Char.isAlpha).getD false with
  | ':' :: rest, true => some (String.ofList ((chars.takeWhile isSchemeChar).map Domain.lower), rest)
  | _, _ => none

/-! ### The authority -/

/-- A character that ends the authority. -/
def endsAuthority (kind : Kind) (char : Char) : Bool :=
  char == '/' || char == '?' || char == '#' || (kind.isSpecial && char == '\\')

/-- What precedes the last occurrence of a character, and what follows it. -/
def splitLast (separator : Char) : List Char → Option (List Char × List Char)
  | [] => none
  | char :: chars =>
    match splitLast separator chars with
    | some (before, after) => some (char :: before, after)
    | none => if char = separator then some ([], chars) else none

/-- Credentials that say anything: a name or a password. -/
def isSignificantCredential (chars : List Char) : Bool := chars ≠ [] && chars ≠ [':']

/-- The host part of an authority, and what follows it from a colon outside of brackets on. -/
def splitPort : (inBrackets : Bool) → List Char → List Char × List Char
  | _, [] => ([], [])
  | inBrackets, char :: chars =>
    if char = ':' ∧ ¬inBrackets then ([], char :: chars)
    else
      let (host, rest) := splitPort (if char = '[' then true else if char = ']' then false else inBrackets) chars
      (char :: host, rest)

/-- The port that digits denote; no digits denote none. -/
def port? (chars : List Char) : Except Error (Option Nat) :=
  if chars.isEmpty then .ok none
  else
    match Numeral.value? chars with
    | some port => if port < 65536 then .ok (some port) else .error .invalidPort
    | none => .error .invalidPort

/-- The address between brackets. -/
def bracketed? (chars : List Char) : Except Error Host :=
  match chars.drop 1 |>.reverse with
  | ']' :: reversed =>
    match Ipv6.address? reversed.reverse with
    | some pieces => .ok (.ipv6 pieces)
    | none => .error .invalidIpv6
  | _ => .error .invalidIpv6

/-- The host of a special URL. -/
def specialHost? (chars : List Char) : Except Error Host :=
  if chars.head? = some '[' then bracketed? chars
  else
    match Domain.ofOctets? (Bytes.ofText (String.ofList chars)) with
    | none => .error .invalidDomain
    | some [] => .error .emptyHost
    | some domain =>
      if Ipv4.endsInNumber domain then
        match Ipv4.address? domain with
        | some address => .ok (.ipv4 address)
        | none => .error .invalidIpv4
      else .ok (.domain (String.ofList domain))

/-- A character that no opaque host may hold. -/
def isForbiddenInOpaque (char : Char) : Bool :=
  char.toNat = 0 || char ∈ " #/:<>?@[\\]^|".toList

/-- The host of a URL that is not special; it may be empty. -/
def opaqueHost? (chars : List Char) : Except Error Host :=
  if chars.head? = some '[' then bracketed? chars
  else if chars.any isForbiddenInOpaque then .error .invalidDomainCharacter
  else .ok (.domain (String.ofList chars))

/-- The host and port of an authority without its credentials.  A backslash ends a port also where
it does not end the authority. -/
def hostAndPort? (kind : Kind) (chars : List Char) : Except Error (Host × Option Nat) := do
  let (hostChars, rest) := splitPort false chars
  if hostChars.isEmpty ∧ (kind.isSpecial ∨ rest ≠ []) then .error .emptyHost
  else
    let host ← if kind.isSpecial then specialHost? hostChars else opaqueHost? hostChars
    let port ← port? ((rest.drop 1).takeWhile (· ≠ '\\'))
    return (host, port)

/-- The host and port of an authority, which is the last part of the URL or not.  Behind
credentials there has to be a host; behind an empty one only if more of the URL follows. -/
def authority? (kind : Kind) (chars : List Char) (isLast : Bool) :
    Except Error (Option Host × Option Nat) := do
  let (credentials, remaining) := (splitLast '@' chars).getD ([], chars)
  if '@' ∈ chars ∧ credentials.isEmpty ∧ remaining.isEmpty ∧ ¬isLast then .error .emptyHost
  else
    let (host, port) ← hostAndPort? kind remaining
    if host = .domain "" then
      if isSignificantCredential credentials then .error .emptyHost else return (none, port)
    else return (some host, port)

/-! ### The whole -/

/-- Two characters that start the path of a local file instead of a host. -/
def isDriveLetter : List Char → Bool
  | [letter, mark] => letter.isAlpha && (mark == ':' || mark == '|')
  | _ => false

/-- The host of a file URL. -/
def fileHost? (chars : List Char) : Except Error (Option Host) :=
  match chars with
  | first :: second :: rest =>
    if (first = '/' ∨ first = '\\') ∧ (second = '/' ∨ second = '\\') then do
      let hostChars := rest.takeWhile fun char => !endsAuthority .file char
      if hostChars.isEmpty ∨ isDriveLetter hostChars then return none
      else
        let host ← specialHost? hostChars
        return if host = .domain "localhost" then none else some host
    else .ok none
  | _ => .ok none

/-- A character of a run of slashes before the authority of a web URL. -/
def isSlash (char : Char) : Bool := char == '/' || char == '\\'

/-- The host and port of the authority at the start of the characters. -/
def leadingAuthority? (kind : Kind) (chars : List Char) : Except Error (Option Host × Option Nat) :=
  let authority := chars.takeWhile fun char => !endsAuthority kind char
  authority? kind authority (authority.length == chars.length)

/-- The absolute URL that a text spells. -/
def ofText? (text : String) : Except Error Url :=
  match scheme? (significant text) with
  | none => .error .noScheme
  | some (scheme, rest) =>
    match kindOf scheme with
    | .file => do return ⟨scheme, ← fileHost? rest, none⟩
    | .web => do
      let (host, port) ← leadingAuthority? .web (rest.dropWhile isSlash)
      return ⟨scheme, host, port⟩
    | .opaqueHost =>
      match rest with
      | '/' :: '/' :: rest => do
        let (host, port) ← leadingAuthority? .opaqueHost rest
        return ⟨scheme, host, port⟩
      | _ => .ok ⟨scheme, none, none⟩

end ClientAssertion.Url

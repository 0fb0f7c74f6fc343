/-
**Absolute URLs.**

What a URL says about where it leads: its scheme, its host and its port.  The schemes of the web
are *special*: they always name a host, and that host is a domain name or an address.
-/

namespace ClientAssertion

/-- The host of a URL. -/
inductive Host where
  /-- A domain name, or the opaque host of a scheme that is not special. -/
  | domain (name : String)
  | ipv4 (address : Nat)
  | ipv6 (pieces : List Nat)
deriving DecidableEq, Repr

/-- What a URL says about where it leads. -/
structure Url where
  scheme : String
  host : Option Host
  port : Option Nat
deriving DecidableEq, Repr

namespace Url

/-- Why a text is not a URL. -/
inductive Error where
  | emptyHost
  | invalidDomain
  | invalidDomainCharacter
  | invalidPort
  | invalidIpv4
  | invalidIpv6
  | noScheme
deriving DecidableEq, Repr

/-- The text of an error. -/
def Error.message : Error → String
  | .emptyHost => "empty host"
  | .invalidDomain => "invalid international domain name"
  | .invalidDomainCharacter => "invalid domain character"
  | .invalidPort => "invalid port number"
  | .invalidIpv4 => "invalid IPv4 address"
  | .invalidIpv6 => "invalid IPv6 address"
  | .noScheme => "relative URL without a base"

/-- How a scheme treats its hosts. -/
inductive Kind where
  | web
  | file
  | opaqueHost
deriving DecidableEq, Repr

/-- How a scheme treats its hosts. -/
def kindOf (scheme : String) : Kind :=
  match scheme with
  | "http" | "https" | "ws" | "wss" | "ftp" => .web
  | "file" => .file
  | _ => .opaqueHost

/-- A scheme is special. -/
def Kind.isSpecial (kind : Kind) : Bool := kind != .opaqueHost

end Url

end ClientAssertion

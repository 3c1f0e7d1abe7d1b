/-!
Addresses of documents: a URL in normal form, and why a text is none.
-/

namespace SyntaxServer

/-- A URL, kept as its normal form; two are equal if their normal forms are. -/
structure Url where
  text : String
  deriving DecidableEq, Repr

/-- Why a text is no URL. -/
inductive UrlError where
  | emptyHost
  | hostName
  | hostCharacter
  | port
  | ipv4
  | ipv6
  | noScheme
  deriving DecidableEq, Repr

def UrlError.message : UrlError → String
  | .emptyHost => "empty host"
  | .hostName => "invalid international domain name"
  | .hostCharacter => "invalid domain character"
  | .port => "invalid port number"
  | .ipv4 => "invalid IPv4 address"
  | .ipv6 => "invalid IPv6 address"
  | .noScheme => "relative URL without a base"

namespace Url

/-- How a scheme treats what follows it: a file, a scheme of the web with a host, any other. -/
inductive SchemeKind where
  | file
  | web
  | other
  deriving DecidableEq, Repr

def SchemeKind.of (scheme : List Char) : SchemeKind :=
  let s := String.ofList scheme
  if s = "file" then .file
  else if s = "http" ∨ s = "https" ∨ s = "ws" ∨ s = "wss" ∨ s = "ftp" then .web
  else .other

/-- A scheme in which a backslash is a slash and the path is never empty. -/
def SchemeKind.isSpecial (k : SchemeKind) : Bool := k ≠ .other

/-- The port that is not written. -/
def defaultPort? (scheme : List Char) : Option Nat :=
  let s := String.ofList scheme
  if s = "http" ∨ s = "ws" then some 80
  else if s = "https" ∨ s = "wss" then some 443
  else if s = "ftp" then some 21
  else none

end Url

end SyntaxServer

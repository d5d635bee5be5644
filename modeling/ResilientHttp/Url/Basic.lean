import ResilientHttp.Url.Address
import ResilientHttp.Url.Percent

/-!
Absolute URLs. A `Url` holds the parts that a reader found, each already in its written form;
`text` puts them together again, and `hostText` and `effectivePort` are what connections are told
apart by.
-/

namespace ResilientHttp

namespace Url

/-- A host. -/
inductive Host where
  | domain (name : String)
  | ipv4 (address : Nat)
  | ipv6 (groups : List Nat)
  deriving DecidableEq, Repr

/-- A host as it is written. -/
def Host.text : Host → String
  | .domain name => name
  | .ipv4 address => ipv4Text address
  | .ipv6 groups => "[" ++ ipv6Text groups ++ "]"

/-- A path: segments, each behind a slash, or a text that no host or slash comes before. -/
inductive Path where
  | segments (parts : List String)
  | bare (text : String)
  deriving DecidableEq, Repr

/-- A path as it is written. -/
def Path.text : Path → String
  | .segments parts => String.join (parts.map ("/" ++ ·))
  | .bare text => text

/-- Why a text is no absolute URL. -/
inductive ParseError where
  | emptyHost
  | invalidDomain
  | invalidPort
  | invalidIpv4
  | invalidIpv6
  | invalidHostCharacter
  | relativeWithoutBase
  deriving DecidableEq, Repr

/-- The wording of a refusal. -/
def ParseError.message : ParseError → String
  | .emptyHost => "empty host"
  | .invalidDomain => "invalid international domain name"
  | .invalidPort => "invalid port number"
  | .invalidIpv4 => "invalid IPv4 address"
  | .invalidIpv6 => "invalid IPv6 address"
  | .invalidHostCharacter => "invalid domain character"
  | .relativeWithoutBase => "relative URL without a base"

/-- How the parts behind a scheme are read: files, other schemes with hosts of the common kind, and
all the rest. -/
inductive SchemeKind where
  | file
  | special
  | plain
  deriving DecidableEq, Repr

/-- The kind of a scheme. -/
def schemeKind (scheme : String) : SchemeKind :=
  if scheme = "file" then .file
  else if scheme ∈ ["http", "https", "ws", "wss", "ftp"] then .special
  else .plain

/-- The port that a scheme uses if none is given. -/
def defaultPort? (scheme : String) : Option Nat :=
  if scheme = "http" ∨ scheme = "ws" then some 80
  else if scheme = "https" ∨ scheme = "wss" then some 443
  else if scheme = "ftp" then some 21
  else none

end Url

/-- An absolute URL. -/
structure Url where
  scheme : String
  username : String
  password : Option String
  host : Option Url.Host
  port : Option Nat
  path : Url.Path
  query : Option String
  fragment : Option String
  deriving DecidableEq, Repr

namespace Url

/-- The user name and password in front of a host. -/
def userText (url : Url) : String :=
  match url.password with
  | some password => url.username ++ ":" ++ password ++ "@"
  | none => if url.username = "" then "" else url.username ++ "@"

/-- The part between the scheme and the path. A path that begins with two slashes is kept apart
from a missing host. -/
def authorityText (url : Url) : String :=
  match url.host with
  | some host =>
    "//" ++ url.userText ++ host.text ++
      (match url.port with | some port => ":" ++ toString port | none => "")
  | none => if url.path.text.startsWith "//" then "/." else ""

/-- A part behind its mark, if it is there. -/
def marked (mark : String) : Option String → String
  | some part => mark ++ part
  | none => ""

/-- The URL as it is written. -/
def text (url : Url) : String :=
  url.scheme ++ ":" ++ url.authorityText ++ url.path.text ++ marked "?" url.query ++
    marked "#" url.fragment

/-- The host as it is written, empty if there is none. -/
def hostText (url : Url) : String :=
  match url.host with
  | some host => host.text
  | none => ""

/-- The port that a connection uses, zero if neither the URL nor its scheme names one. -/
def effectivePort (url : Url) : Nat :=
  match url.port with
  | some port => port
  | none => (defaultPort? url.scheme).getD 0

/-- Whether a part stands for a text once its percent signs are read. -/
def isText (part : String) : Bool :=
  (Utf8.decode? (percentDecode (Utf8.encode part))).isSome

/-- The URL as a request names it. User name and password are sent apart from it; only a user name
that stands for no text keeps both where they are, and so does such a password that has no user
name. -/
def withoutUser (url : Url) : Url :=
  let known := url.username ≠ "" || (url.password.filter isText).isSome
  if isText url.username && known then { url with username := "", password := none } else url

end Url
end ResilientHttp

import ResilientHttp.Url.Basic
import ResilientHttp.Url.Domain
import ResilientHttp.Url.Route

/-!
Reading absolute URLs. Blanks and controls around the text and breaks inside it are dropped. The
scheme decides how the rest is read: special schemes have a host whatever slashes stand before it
and take a backslash for a slash; for other schemes a host stands only behind two slashes. A file
may have a host, unless its path begins at a drive, and has no empty segments in front.
-/

namespace ResilientHttp.Url

/-- The text without blanks and controls around it. -/
def strip (text : String) : List Char :=
  let isEdge (char : Char) : Bool := char.toNat ≤ 0x20
  ((text.toList.dropWhile isEdge).reverse.dropWhile isEdge).reverse

/-- A scheme in lower case and what stands behind its colon. -/
def readScheme (text : List Char) : Option (String × List Char) :=
  let isSchemeChar (char : Char) : Bool :=
    char.isAlphanum || char = '+' || char = '-' || char = '.'
  match text.dropWhile isSchemeChar with
  | ':' :: rest =>
    if text.head?.any Char.isAlpha then
      some (String.ofList ((text.takeWhile isSchemeChar).map Char.toLower), rest)
    else none
  | _ => none

/-- Whether a character ends the part of a URL that holds the host. -/
def endsAuthority (special : Bool) (char : Char) : Bool :=
  char = '/' || char = '?' || char = '#' || (special && char = '\\')

/-- A user name and password, in written form, and what stands behind the last `@`. -/
structure UserPart where
  username : String
  password : Option String
  present : Bool
  rest : List Char

/-- Characters written for user names and passwords. -/
def userChars (chars : List Char) : String := String.ofList (chars.flatMap (percentChar userSet))

/-- Reads the user name and password in front of a host. -/
def readUser (special : Bool) (text : List Char) : Except ParseError UserPart :=
  let authority := text.takeWhile (!endsAuthority special ·)
  if !authority.contains '@' then .ok ⟨"", none, false, text⟩
  else
    let host := (authority.reverse.takeWhile (· ≠ '@')).reverse
    let user := authority.take (authority.length - host.length - 1)
    let rest := text.drop (authority.length - host.length)
    if user = [] then
      match rest with
      | char :: _ =>
        if endsAuthority special char then .error .emptyHost else .ok ⟨"", none, false, rest⟩
      | [] => .ok ⟨"", none, false, rest⟩
    else
      let name := user.takeWhile (· ≠ ':')
      let password := user.drop (name.length + 1)
      .ok ⟨userChars name, if password = [] then none else some (userChars password),
        name ≠ [] || password ≠ [], rest⟩

/-- Where the host ends: a colon outside brackets, or the end of the part that holds it. -/
def splitHost (special inBrackets : Bool) : List Char → List Char × List Char
  | [] => ([], [])
  | char :: rest =>
    if (char = ':' && !inBrackets) || endsAuthority special char then ([], char :: rest)
    else
      let inBrackets := if char = '[' then true else if char = ']' then false else inBrackets
      let (host, behind) := splitHost special inBrackets rest
      (char :: host, behind)

/-- The address between the brackets of a host. -/
def bracketed (host : List Char) : Except ParseError Host :=
  if host.getLast? ≠ some ']' ∨ host.length < 2 then .error .invalidIpv6
  else
    match ipv6? (host.drop 1).dropLast with
    | some groups => .ok (.ipv6 groups)
    | none => .error .invalidIpv6

/-- The host of a special scheme: an address, or a domain. -/
def specialHost (host : List Char) : Except ParseError Host :=
  if host.head? = some '[' then bracketed host
  else
    match domain? host with
    | none => .error .invalidDomain
    | some [] => .error .emptyHost
    | some domain =>
      if endsInNumber domain then
        match ipv4? domain with
        | some address => .ok (.ipv4 address)
        | none => .error .invalidIpv4
      else .ok (.domain (String.ofList domain))

/-- The host of any other scheme, taken as it is but for controls. -/
def plainHost (host : List Char) : Except ParseError Host :=
  if host.head? = some '[' then bracketed host
  else if host.any fun char => char.toNat = 0 || " #/:<>?@[\\]^|".contains char then
    .error .invalidHostCharacter
  else .ok (.domain (String.ofList (host.flatMap (percentChar controlSet))))

/-- The digits behind the colon of a host: the port, unless it is the default, and the rest. -/
def readPort (default? : Option Nat) (text : List Char) :
    Except ParseError (Option Nat × List Char) :=
  let digits := text.takeWhile Char.isDigit
  let rest := text.dropWhile Char.isDigit
  let port := digits.foldl (fun total digit => total * 10 + (digit.toNat - 0x30)) 0
  let ended := match rest with
    | [] => true
    | char :: _ => char = '/' || char = '\\' || char = '?' || char = '#'
  if port > 65535 ∨ !ended then .error .invalidPort
  else if digits = [] ∨ some port = default? then .ok (none, rest)
  else .ok (some port, rest)

/-- A path in front of the query and fragment. A special scheme's path is never empty. -/
def readPath (special : Bool) (text : List Char) : Path :=
  match text with
  | [] => .segments (if special then [""] else [])
  | char :: rest =>
    let behind := if isSlash special char then rest else char :: rest
    .segments (readSegments false special behind).segments

/-- The part before the query and fragment, the query and the fragment. -/
def splitTail (special : Bool) (text : List Char) :
    List Char × Option String × Option String :=
  let isTail (char : Char) : Bool := char = '?' || char = '#'
  let before := text.takeWhile (!isTail ·)
  let fragmentOf (rest : List Char) : String :=
    String.ofList (rest.flatMap (percentChar fragmentSet))
  match text.dropWhile (!isTail ·) with
  | '?' :: rest =>
    let set := if special then specialQuerySet else querySet
    let query := String.ofList ((rest.takeWhile (· ≠ '#')).flatMap (percentChar set))
    match rest.dropWhile (· ≠ '#') with
    | _ :: fragment => (before, some query, some (fragmentOf fragment))
    | [] => (before, some query, none)
  | _ :: rest => (before, none, some (fragmentOf rest))
  | [] => (before, none, none)

/-- Reads the host and everything behind it. -/
def readAuthority (scheme : String) (text : List Char) : Except ParseError Url := do
  let special := schemeKind scheme ≠ .plain
  let user ← readUser special text
  let (hostChars, rest) := splitHost special false user.rest
  if special ∧ hostChars = [] then throw .emptyHost
  let host ← if special then specialHost hostChars else plainHost hostChars
  if hostChars = [] ∧ rest.head? = some ':' then throw .emptyHost
  let (port, rest) ← match rest with
    | ':' :: digits => readPort (defaultPort? scheme) digits
    | _ => pure (none, rest)
  if hostChars = [] ∧ user.present then throw .emptyHost
  let (path, query, fragment) := splitTail special rest
  pure { scheme, username := user.username, password := user.password, host := some host, port,
         path := readPath special path, query, fragment }

/-- Segments without empty ones in front, one of which stays if there is nothing else. -/
def withoutBlankStart (segments : List String) : List String :=
  match segments.dropWhile (· = "") with
  | [] => [""]
  | rest => rest

/-- What stands behind a slash and the breaks in front of it. -/
def behindSlash? (text : List Char) : Option (List Char) :=
  match text.dropWhile isBreak with
  | char :: rest => if isSlash true char then some rest else none
  | [] => none

/-- A file's host and the way to it, from what stands behind two slashes. A drive is no host, this
computer's name means none, and a way that begins at a drive drops the host. -/
def readFileHost (text : List Char) : Except ParseError (Host × Route) := do
  let name := unbroken (text.takeWhile (!isSlash true ·))
  let behind := text.dropWhile (!isSlash true ·)
  if name = [] ∨ isDrive name then pure (.domain "", readSegments true true text)
  else
    let host ← specialHost name
    if host = .domain "localhost" then pure (.domain "", readSegments true true behind)
    else
      let route := readSegments true true (behind.drop 1)
      pure (if route.startsAtDrive then .domain "" else host, route)

/-- Reads what stands behind the scheme of a file, which may hold breaks. -/
def readFile (text : List Char) : Except ParseError Url := do
  let (_, query, fragment) := splitTail true (unbroken text)
  let path := text.takeWhile fun char => char ≠ '?' && char ≠ '#'
  let (host, route) ←
    match behindSlash? path with
    | none => pure (.domain "", readSegments true true path)
    | some rest =>
      match behindSlash? rest with
      | none => pure (.domain "", readSegments true true rest)
      | some rest => readFileHost rest
  pure { scheme := "file", username := "", password := none, host := some host, port := none,
         path := .segments (withoutBlankStart route.segments), query, fragment }

/-- Reads what stands behind a scheme that needs no host. -/
def readPlain (scheme : String) (text : List Char) : Except ParseError Url :=
  match text with
  | '/' :: '/' :: rest => readAuthority scheme rest
  | _ =>
    let (before, query, fragment) := splitTail false text
    let path := match before with
      | '/' :: _ => readPath false before
      | _ => .bare (String.ofList (before.flatMap (percentChar controlSet)))
    .ok { scheme, username := "", password := none, host := none, port := none, path, query,
          fragment }

/-- Reads an absolute URL. -/
def parse (text : String) : Except ParseError Url :=
  let inner := strip text
  match readScheme (unbroken inner) with
  | none => .error .relativeWithoutBase
  | some (scheme, rest) =>
    match schemeKind scheme with
    | .file => readFile ((inner.dropWhile (· ≠ ':')).drop 1)
    | .special => readAuthority scheme (rest.dropWhile (isSlash true))
    | .plain => readPlain scheme rest

end ResilientHttp.Url

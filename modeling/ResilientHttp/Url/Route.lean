import ResilientHttp.Url.Percent

/-!
Ways through paths. A path is read character by character; each slash closes a segment. Segments
that mean "here" are left out, and those that mean "up" take the one before them away, but never
leave a drive. Only a file's path may begin at a drive, which is then written with a colon.
-/

namespace ResilientHttp.Url

/-- Whether a character separates path segments. -/
def isSlash (special : Bool) (char : Char) : Bool := char = '/' || (special && char = '\\')

/-- Tabs and line ends. -/
def isBreak (char : Char) : Bool := char = '\t' || char = '\n' || char = '\r'

/-- A text without its breaks. -/
def unbroken (text : List Char) : List Char := text.filter (!isBreak ·)

/-- Segments that mean "up". -/
def isUp (segment : String) : Bool :=
  segment.map Char.toLower ∈ ["..", "%2e%2e", "%2e.", ".%2e"]

/-- Segments that mean "here". -/
def isHere (segment : String) : Bool := segment.map Char.toLower ∈ [".", "%2e"]

/-- A drive letter and a colon, or a bar in its place. -/
def isDrive (segment : List Char) : Bool :=
  match segment with
  | [letter, mark] => letter.isAlpha && (mark = ':' || mark = '|')
  | _ => false

/-- Whether "up" stops at a segment: a drive, even one with more behind a backslash. -/
def isRoot (segment : String) : Bool :=
  isDrive (segment.toList.takeWhile (· ≠ '\\'))

/-- Segments, the last one first, without that one, unless "up" stops there. -/
def shorten : List String → List String
  | [] => []
  | last :: before => if isRoot last then last :: before else before

/-- A segment as it is written. -/
def writtenSegment (segment : List Char) : String :=
  String.ofList (segment.flatMap (percentChar pathSet))

/-- How far a path has been read: the closed segments, the last one first, whether they start at a
drive, and the open segment, its last character first. An open segment is literal if it stands for
itself whatever it is, and broken if a break was read last. -/
structure Route where
  closed : List String
  startsAtDrive : Bool
  current : List Char
  literal : Bool
  broken : Bool
  deriving DecidableEq, Repr

namespace Route

/-- Nothing has been read. -/
def start : Route := ⟨[], false, [], false, false⟩

/-- The route with an empty segment opened behind some closed ones. -/
def opened (route : Route) (closed : List String) : Route :=
  { route with closed, current := [], literal := false, broken := false }

/-- Closes the open segment; `more` says that another one follows. -/
def close (isFile more : Bool) (route : Route) : Route :=
  let segment := writtenSegment route.current.reverse
  let closing := if more then [] else [""]
  if route.literal then route.opened (segment :: route.closed)
  else if isUp segment then route.opened (closing ++ shorten route.closed)
  else if isHere segment then route.opened (closing ++ route.closed)
  else if isFile && route.closed.isEmpty && isDrive segment.toList then
    { route.opened [String.ofList (segment.toList.take 1 ++ [':'])] with startsAtDrive := true }
  else route.opened (segment :: route.closed)

/-- Whether the open segment of a file is a drive in front of a break, with nothing before it. -/
def endsBrokenDrive (route : Route) : Bool :=
  route.broken && route.closed.isEmpty && route.current.head? = some ':' &&
    isDrive route.current.reverse

/-- Reads one character. A file's drive in front of a break is a segment of its own, and what
follows in its place stands for itself. -/
def step (isFile special : Bool) (route : Route) (char : Char) : Route :=
  if isSlash special char then route.close isFile true
  else if isBreak char then { route with broken := true }
  else if isFile && route.endsBrokenDrive then
    { route.opened [writtenSegment route.current.reverse] with current := [char], literal := true }
  else { route with current := char :: route.current, broken := false }

/-- The closed segments, in order. -/
def segments (route : Route) : List String := route.closed.reverse

end Route

/-- The way through a path behind its first slash. -/
def readSegments (isFile special : Bool) (text : List Char) : Route :=
  (text.foldl (Route.step isFile special) .start).close isFile false

end ResilientHttp.Url

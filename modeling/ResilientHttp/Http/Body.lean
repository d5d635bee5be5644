import ResilientHttp.Error
import ResilientHttp.Task.Basic

/-!
Bodies. A body is either held in memory, and can then be sent any number of times, or it is a
stream of chunks that is read once. Reading a stream takes the time of its pauses. `Body.collect`
stops at the first fault, and `Body.content` is what it gives; `Body.read` goes on after faults,
and `Body.items` is what that gives.
-/

namespace ResilientHttp

/-- What a stream of octets consists of. -/
inductive Chunk where
  | data (octets : Octets)
  | fault (error : IoError)
  | pause (span : Duration)
  deriving DecidableEq, Repr

/-- What is sent with a request or comes back with a response. -/
inductive Body where
  | full (octets : Octets)
  | stream (chunks : List Chunk)
  deriving DecidableEq, Repr

/-- What one item of a stream gives its reader. -/
abbrev ChunkResult := Except IoError Octets

namespace Body

/-- A body without octets. -/
def empty : Body := .full []

/-- The octets of a text. -/
def ofText (text : String) : Body := .full (Utf8.encode text)

/-- The most octets that are taken from a source at once. -/
def readSize : Nat := 4096

/-- Octets in pieces of at most `readSize`, none of them empty. -/
def pieces : Octets → List Octets
  | [] => []
  | octet :: later =>
    (octet :: later).take readSize :: pieces (later.drop (readSize - 1))
termination_by octets => octets.length
decreasing_by simp only [List.length_drop, List.length_cons]; omega

/-- A stream that reads octets from a source. -/
def ofReader (octets : Octets) : Body := .stream ((pieces octets).map .data)

/-- Whether the body can be sent more than once. -/
def isReplayable : Body → Bool
  | .full _ => true
  | .stream _ => false

/-- The octets of a body in memory. -/
def octets? : Body → Option Octets
  | .full octets => some octets
  | .stream _ => none

/-- A second body with the same octets, unless the body is a stream. -/
def tryClone : Body → Option Body
  | .full octets => some (.full octets)
  | .stream _ => none

/-- The chunks of a body; one in memory is a single chunk. -/
def chunks : Body → List Chunk
  | .full octets => [.data octets]
  | .stream chunks => chunks

/-- The body as a stream that is read once. -/
def rewrap (body : Body) : Body := .stream body.chunks

/-- What the chunks before the first fault amount to, or that fault. -/
def contentOf : List Chunk → ChunkResult
  | [] => .ok []
  | .data octets :: later => (contentOf later).map (octets ++ ·)
  | .fault error :: _ => .error error
  | .pause _ :: later => contentOf later

/-- All octets of a body, or its first fault. -/
def content : Body → ChunkResult
  | .full octets => .ok octets
  | .stream chunks => contentOf chunks

/-- What the items of a stream give to a reader who goes on after faults. -/
def itemsOf : List Chunk → List ChunkResult
  | [] => []
  | .data octets :: later => .ok octets :: itemsOf later
  | .fault error :: later => .error error :: itemsOf later
  | .pause _ :: later => itemsOf later

/-- The items of a body. -/
def items (body : Body) : List ChunkResult := itemsOf body.chunks

variable {σ ε : Type}

/-- Reads chunks up to the end or the first fault; `read` is what was read before them. -/
def collectChunks (held : Cleanup σ ε) (read : Octets) : List Chunk → Task σ ε ChunkResult
  | [] => .done (.ok read)
  | .data octets :: later => collectChunks held (read ++ octets) later
  | .fault error :: _ => .done (.error error)
  | .pause span :: later => do
    Task.sleep held span
    collectChunks held read later

/-- Reads a body up to its end or its first fault, holding something meanwhile. -/
def collect (held : Cleanup σ ε) : Body → Task σ ε ChunkResult
  | .full octets => .done (.ok octets)
  | .stream chunks => collectChunks held [] chunks

/-- Reads chunks up to the end and goes on after faults. -/
def readChunks : List Chunk → Task σ ε (List ChunkResult)
  | [] => .done []
  | .data octets :: later => (.ok octets :: ·) <$> readChunks later
  | .fault error :: later => (.error error :: ·) <$> readChunks later
  | .pause span :: later => do
    Task.sleep .none span
    readChunks later

/-- Reads all items of a body. -/
def read (body : Body) : Task σ ε (List ChunkResult) := readChunks body.chunks

/-- A body as it is shown in descriptions. -/
def describe : Body → String
  | .full octets => "Body(" ++ toString octets.length ++ ")"
  | .stream _ => "Body(<stream>)"

end Body
end ResilientHttp

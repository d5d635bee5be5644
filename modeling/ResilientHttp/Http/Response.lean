import ResilientHttp.Http.Body
import ResilientHttp.Http.Header
import ResilientHttp.Json.Decoder

/-!
Responses and replies. A `Response` has a body that is not read yet and holds what stands behind
it; that is given up once, when the body has been read or the response is dropped. A `Reply` is a
response that was read to its end.
-/

namespace ResilientHttp

/-- A response whose body is not read yet. -/
structure Response (σ ε : Type) where
  status : Status
  headers : HeaderMap
  url : Option Url
  body : Body
  held : Cleanup σ ε

namespace Response

variable {σ ε : Type}

/-- A response with nothing but a status and a body. -/
def new (status : Status) (body : Body) : Response σ ε :=
  { status, headers := .empty, url := none, body, held := .none }

/-- Gives up a response without reading it. -/
def drop (response : Response σ ε) : Task σ ε Unit := Task.release response.held

/-- Reads the body and gives up what stands behind it. -/
def bytes (response : Response σ ε) : Task σ ε (Except ClientError Octets) := do
  let read ← response.body.collect response.held
  Task.release response.held
  pure (read.mapError .responseBody)

end Response

/-- A response that was read to its end. -/
structure Reply where
  status : Status
  body : Octets
  deriving DecidableEq, Repr

namespace Reply

/-- Whether the status says that the request succeeded. -/
def isSuccess (reply : Reply) : Bool := reply.status.isSuccess

/-- The body as a text, malformed runs replaced. -/
def text (reply : Reply) : String := Utf8.decodeLossy reply.body

/-- The body read as JSON of some type. -/
def json (reply : Reply) (decoder : Json.Decoder α) : Except ClientError α :=
  (decoder.decodeText reply.body).mapError .decode

end Reply
end ResilientHttp

import ResilientHttp.Http.Request
import ResilientHttp.Http.Response
import ResilientHttp.Log

/-!
What can be seen of calls from outside: requests as they reach a site, responses given up, records
in sinks and traces, and the moment at which an unread response is handed out. An `Executor`
carries out one exchange and may emit such events meanwhile.
-/

namespace ResilientHttp

/-- A request as it reached a site: with its body read. -/
structure Arrival where
  method : Method
  url : Url
  headers : HeaderMap
  body : Option Octets
  replayable : Bool
  deriving DecidableEq, Repr

/-- What can be seen of calls. -/
inductive Event where
  | request (site : String) (arrival : Arrival)
  | release (site : String) (status : Status)
  | log (sink : String) (record : LogRecord)
  | trace (trace : Trace)
  | returned
  deriving DecidableEq, Repr

/-- The event of a record in a sink. -/
def Sink.write (record : LogRecord) : Sink → Event
  | .named name => .log name record
  | .tracing => .trace record.trace

/-- What carries out one exchange. -/
abbrev Executor (σ : Type) := Request → Task σ Event (Except ClientError (Response σ Event))

end ResilientHttp

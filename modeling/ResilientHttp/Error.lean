import ResilientHttp.Http.Status
import ResilientHttp.Json.Error
import ResilientHttp.Url.Basic

/-!
What can go wrong with a request. `ClientError` has one constructor for each cause; the wording is
in `ClientError.message` alone. Exhausted retries keep the error of the last attempt, to any
depth, and `isTimeout` looks through them, while `status?` tells what the outermost layer saw.
-/

namespace ResilientHttp

/-- The kinds of failing input and output that are told apart. -/
inductive IoKind where
  | brokenPipe
  | connectionReset
  | unexpectedEof
  | timedOut
  | invalidData
  | other
  deriving DecidableEq, Repr

namespace IoKind

/-- The kinds by name, except the one that stands for all others. -/
def names : List (String × IoKind) :=
  [("BrokenPipe", .brokenPipe), ("ConnectionReset", .connectionReset),
   ("UnexpectedEof", .unexpectedEof), ("TimedOut", .timedOut), ("InvalidData", .invalidData)]

/-- The kind of a name. -/
def ofName (name : String) : IoKind :=
  ((names.find? (·.1 = name)).map Prod.snd).getD .other

/-- The name of a kind. -/
def name (kind : IoKind) : String :=
  ((names.find? (·.2 = kind)).map Prod.fst).getD "Other"

end IoKind

/-- A failure while a body was read. -/
structure IoError where
  kind : IoKind
  message : String
  deriving DecidableEq, Repr

/-- A failure of the exchange below the client. -/
inductive TransportFault where
  /-- A response whose status was taken for an error. -/
  | refusedStatus (status : Status)
  /-- A request that could not be put together for its URL. -/
  | unsupported (url : Url)
  /-- A request that was not answered. -/
  | unanswered (url : Url) (timedOut : Bool)
  deriving DecidableEq, Repr

/-- The URL that stands for a missing one. -/
def TransportFault.noUrl : String := "http://no.url.provided.local/"

/-- A URL behind a text. -/
def TransportFault.forUrl (text url : String) : String := text ++ " for url (" ++ url ++ ")"

/-- The wording of a failure of the exchange. -/
def TransportFault.message : TransportFault → String
  | .refusedStatus status =>
    let side := if status.isClientError then "client" else "server"
    forUrl ("HTTP status " ++ side ++ " error (" ++ status.text ++ ")") noUrl
  | .unsupported url => forUrl "builder error" url.text
  | .unanswered url _ => forUrl "error sending request" url.text

/-- Whether the exchange failed because it took too long. -/
def TransportFault.isTimeout : TransportFault → Bool
  | .unanswered _ timedOut => timedOut
  | _ => false

/-- The status that the exchange failed with. -/
def TransportFault.status? : TransportFault → Option Status
  | .refusedStatus status => some status
  | _ => none

/-- Why a call gave no reply. -/
inductive ClientError where
  /-- The target is no URL. -/
  | invalidUrl (cause : Url.ParseError)
  /-- The request cannot be put together. -/
  | invalidRequest (text : String)
  /-- The body cannot be written as JSON. -/
  | encode (cause : Json.Error)
  /-- The form cannot be written. -/
  | form (text : String)
  /-- The reply is not the JSON that was asked for. -/
  | decode (cause : Json.Error)
  /-- The request body failed while it was read. -/
  | requestBody (cause : IoError)
  /-- The exchange failed. -/
  | transport (fault : TransportFault)
  /-- There is no connection. -/
  | connection (text : String)
  /-- The response body failed while it was read. -/
  | responseBody (cause : IoError)
  /-- The context was cancelled. -/
  | cancelled
  /-- The context's deadline passed. -/
  | deadlineExceeded
  /-- The configuration contradicts itself or cannot be used. -/
  | config (text : String)
  /-- All attempts failed; the last one with a status, or with an error. -/
  | retriesExhausted (attempts : UInt32) (lastStatus : Option Status)
      (source : Option ClientError)
  deriving Repr

namespace ClientError

/-- The name of the kind of an error. -/
def kind : ClientError → String
  | .invalidUrl _ => "InvalidUrl"
  | .invalidRequest _ => "InvalidRequest"
  | .encode _ => "Encode"
  | .form _ => "Form"
  | .decode _ => "Decode"
  | .requestBody _ => "RequestBody"
  | .transport _ => "Transport"
  | .connection _ => "Connection"
  | .responseBody _ => "ResponseBody"
  | .cancelled => "Cancelled"
  | .deadlineExceeded => "DeadlineExceeded"
  | .config _ => "Config"
  | .retriesExhausted _ _ _ => "RetriesExhausted"

/-- The wording of an error. -/
def message : ClientError → String
  | .invalidUrl cause => "invalid url: " ++ cause.message
  | .invalidRequest text => "invalid request: " ++ text
  | .encode cause => "body encoding error: " ++ cause.message
  | .form text => "form encoding error: " ++ text
  | .decode cause => "decode error: " ++ cause.message
  | .requestBody cause => "request body error: " ++ cause.message
  | .transport fault => "transport error: " ++ fault.message
  | .connection text => "connection error: " ++ text
  | .responseBody cause => "response body error: " ++ cause.message
  | .cancelled => "request cancelled"
  | .deadlineExceeded => "deadline exceeded"
  | .config text => "configuration error: " ++ text
  | .retriesExhausted attempts lastStatus source =>
    "retries exhausted after " ++ toString attempts.toNat ++ " attempts: " ++
      match source, lastStatus with
      | some error, _ => error.message
      | none, some status => "last status " ++ status.text
      | none, none => "no attempt was sent"

/-- Whether the error says that the context has ended. -/
def isContextError : ClientError → Bool
  | .cancelled => true
  | .deadlineExceeded => true
  | _ => false

/-- Whether the failure was a timeout, of an attempt or of the whole call. -/
def isTimeout : ClientError → Bool
  | .deadlineExceeded => true
  | .transport fault => fault.isTimeout
  | .retriesExhausted _ _ (some source) => source.isTimeout
  | _ => false

/-- The status that the failure ended with. -/
def status? : ClientError → Option Status
  | .retriesExhausted _ lastStatus _ => lastStatus
  | .transport fault => fault.status?
  | _ => none

/-- The error of the last attempt, if retries were exhausted on one. -/
def cause? : ClientError → Option ClientError
  | .retriesExhausted _ _ source => source
  | _ => none

/-- The wording of what lies behind an error, where there is something. -/
def sourceMessage? : ClientError → Option String
  | .invalidUrl cause => some cause.message
  | .encode cause => some cause.message
  | .form text => some text
  | .decode cause => some cause.message
  | .requestBody cause => some cause.message
  | .transport fault => some fault.message
  | .responseBody cause => some cause.message
  | .retriesExhausted _ _ source => source.map message
  | _ => none

/-- An error as it is shown in descriptions of those that keep one. -/
def describe : ClientError → String
  | .invalidRequest text => "InvalidRequest(" ++ Text.quoted text ++ ")"
  | .config text => "Config(" ++ Text.quoted text ++ ")"
  | other => other.message

end ClientError
end ResilientHttp

import ResilientHttp.Http.Body
import ResilientHttp.Json.Printer

/-!
What can be handed over to be sent. `Payload.encode` makes a body of it: nothing gives no body,
texts and octets are sent as they are, what is to be JSON is written in compact form, and a body
passes unchanged. Only JSON can be refused.
-/

namespace ResilientHttp

/-- What is handed over to be sent. -/
inductive Payload where
  | nothing
  | optional (inner : Option Payload)
  | text (text : String)
  | octets (octets : Octets)
  | json (source : Json.Source)
  | body (body : Body)

namespace Payload

/-- The body of a payload, if it has one. -/
def encode : Payload → Except ClientError (Option Body)
  | .nothing => .ok none
  | .optional none => .ok none
  | .optional (some inner) => inner.encode
  | .text written => .ok (some (Body.ofText written))
  | .octets given => .ok (some (.full given))
  | .json source =>
    match source.encode with
    | .ok written => .ok (some (.full written))
    | .error cause => .error (.encode cause)
  | .body given => .ok (some given)

end Payload
end ResilientHttp

import ResilientHttp.Context.Run
import ResilientHttp.Event
import ResilientHttp.Http.Form
import ResilientHttp.Http.Payload
import ResilientHttp.Url.Reading

/-!
The client. A call first makes a request: the payload is encoded, then the target is read, and the
default headers are taken as they are at that moment. Then the request is dispatched under the
client's context, and the response is read to its end under the same context. What goes wrong
before the dispatch reaches no executor.
-/

namespace ResilientHttp

/-- A context and the executor that carries out exchanges. The default headers belong to the
world, since all copies of a client share them. -/
structure Client (σ : Type) where
  context : Context
  execute : Executor σ

namespace Client

variable {σ : Type}

/-- The request of a call, with header fields given. -/
def request (context : Context) (headers : HeaderMap) (method : Method) (target : String)
    (payload : Payload) : Except ClientError Request := do
  let body ← payload.encode
  let url ← (Url.parse target).mapError .invalidUrl
  pure { method, url, headers, body, context }

/-- The name of the field that tells what a body is. -/
def contentType : HeaderName := ⟨"content-type"⟩

/-- What a body is that holds a form. -/
def formType : HeaderValue := ⟨Utf8.encode "application/x-www-form-urlencoded"⟩

/-- The request of a call that submits a form. -/
def formRequest (context : Context) (headers : HeaderMap) (target : String) (form : Form) :
    Except ClientError Request := do
  let made ← request context headers .post target (.text form.encode)
  pure { made with headers := made.headers.insert contentType formType }

/-- The trace of a response that was read to its end. -/
def drainTrace (reply : Reply) : Trace where
  level := .trace
  target := Trace.part "client"
  message := "response drained"
  fields := [("status", reply.status.number), ("bytes", toString reply.body.length)]

/-- Sends a request and reads the response, both under the request's context. -/
def dispatch (execute : Executor σ) (request : Request) :
    Task σ Event (Except ClientError Reply) := do
  match ← request.context.run .none (execute request) with
  | .error ending => pure (.error ending.error)
  | .ok (.error error) => pure (.error error)
  | .ok (.ok response) =>
    match ← request.context.run response.held response.bytes with
    | .error ending => pure (.error ending.error)
    | .ok (.error error) => pure (.error error)
    | .ok (.ok octets) =>
      let reply : Reply := ⟨response.status, octets⟩
      Task.emitAll [.trace (drainTrace reply)]
      pure (.ok reply)

/-- A call: what to do with the default headers as they are now gives the request. -/
def call (client : Client σ) (make : HeaderMap → Except ClientError Request) :
    Task σ Event (Except ClientError Reply) := do
  match make (← Task.world).defaults with
  | .error error => pure (.error error)
  | .ok request => dispatch client.execute request

/-- Sends a payload with any method. -/
def send (client : Client σ) (method : Method) (target : String) (payload : Payload) :
    Task σ Event (Except ClientError Reply) :=
  client.call fun headers => request client.context headers method target payload

/-- Retrieves a target. -/
def get (client : Client σ) (target : String) : Task σ Event (Except ClientError Reply) :=
  client.send .get target .nothing

/-- Submits a payload to a target. -/
def post (client : Client σ) (target : String) (payload : Payload) :
    Task σ Event (Except ClientError Reply) :=
  client.send .post target payload

/-- Replaces a target by a payload. -/
def put (client : Client σ) (target : String) (payload : Payload) :
    Task σ Event (Except ClientError Reply) :=
  client.send .put target payload

/-- Removes a target. -/
def delete (client : Client σ) (target : String) : Task σ Event (Except ClientError Reply) :=
  client.send .delete target .nothing

/-- Submits a form to a target. -/
def postForm (client : Client σ) (target : String) (form : Form) :
    Task σ Event (Except ClientError Reply) :=
  client.call fun headers => formRequest client.context headers target form

/-- The default headers as they are now. -/
def headers : Task σ Event HeaderMap := do
  pure (← Task.world).defaults

/-- Merges header fields into the defaults; names that are there already are replaced. -/
def mergeHeaders (headers : HeaderMap) : Task σ Event Unit :=
  Task.modify fun world => { world with defaults := world.defaults.extend headers }

/-- A client in descriptions. -/
def describe (client : Client σ) (world : World σ) : String :=
  Text.openRecord "Client"
    [("context", client.context.describe world.tokens),
     ("headers", toString world.defaults.size)]

end Client
end ResilientHttp

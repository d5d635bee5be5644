import ResilientHttp.Event
import ResilientHttp.Task.Part

/-!
Scripted sites: executors that answer as they were told. Each request takes the next step of the
script, and the fallback once there are none. A step may cancel a context, then waits, and then
fails or answers with a response whose body is a stream that is given up with an event.
-/

namespace ResilientHttp

/-- A response as a script gives it. -/
structure Answer where
  status : Status
  headers : HeaderMap
  chunks : List Chunk
  tellsUrl : Bool

/-- What happens to one request. -/
structure Step where
  cancels : Option Token
  delay : Duration
  result : Except ClientError Answer

/-- The steps to come and what happens after them. -/
structure Script where
  steps : List Step
  fallback : Step

namespace Script

/-- The step that the next request takes. -/
def current (script : Script) : Step := script.steps.head?.getD script.fallback

/-- The script after a request has taken its step. -/
def advance (script : Script) : Script := { script with steps := script.steps.tail }

variable {σ : Type}

/-- The body of a request read to its end. -/
def readBody (request : Request) : Task σ Event (Except ClientError (Option Octets)) :=
  match request.body with
  | none => pure (.ok none)
  | some body => do
    match ← body.collect .none with
    | .ok octets => pure (.ok (some octets))
    | .error fault => pure (.error (.requestBody fault))

/-- A request as it reaches a site. -/
def arrival (request : Request) (octets : Option Octets) : Arrival where
  method := request.method
  url := request.url
  headers := request.headers
  body := octets
  replayable := request.body.any Body.isReplayable

/-- The world after a step has cancelled what it cancels. -/
def cancelToken (token : Option Token) (world : World σ) : World σ :=
  match token with
  | some token => { world with tokens := world.tokens.cancel token }
  | none => world

/-- The response of an answer to a request. -/
def respond (name : String) (request : Request) (answer : Answer) : Response σ Event where
  status := answer.status
  headers := answer.headers
  url := if answer.tellsUrl then some request.url else none
  body := .stream answer.chunks
  held := ⟨id, [.release name answer.status]⟩

/-- The executor of a script under a name. -/
def executor (name : String) (part : Part σ Script) : Executor σ := fun request => do
  match ← readBody request with
  | .error error => pure (.error error)
  | .ok octets =>
    Task.emitAll [.request name (arrival request octets)]
    let step := (part.read (← Task.world)).current
    Task.modify (part.write advance)
    Task.modify (cancelToken step.cancels)
    Task.sleep .none step.delay
    pure (step.result.map (respond name request))

end Script
end ResilientHttp

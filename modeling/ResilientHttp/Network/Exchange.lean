import ResilientHttp.Context.Run
import ResilientHttp.Event
import ResilientHttp.Network.Limiter
import ResilientHttp.Task.Part

/-!
The built-in executor. It fetches the gate of the target's host, asks for a permit there, reads the
body of the request, hands the request to the network, and keeps its permit until the response has
been read or given up. At each of the last three steps the end of the context ends the exchange, and
every way out leaves the gate. A gate that cannot be set up makes the executor panic.
-/

namespace ResilientHttp

/-- What carries a request whose body was read, and brings back a response. -/
abbrev Network (σ : Type) :=
  Method → Url → HeaderMap → Option Octets →
    Task σ Event (Except TransportFault (Response σ Event))

namespace Network

variable {σ : Type}

/-- The greatest length of a URL that is tried, in octets. -/
def longestUrl : Nat := 65534

/-- Whether a host is written with a mark that no request can hold. -/
def hasUnsentMark (host : String) : Bool :=
  host.toList.any fun char => "\"\x60\x7b\x7d".contains char

/-- Whether a request for a URL can be written at all: it is a plain or secure web address, not too
long, and its host has no unsent mark. -/
def canAsk (url : Url) : Bool :=
  (url.scheme = "http" || url.scheme = "https") && url.text.utf8ByteSize ≤ longestUrl &&
    !hasUnsentMark url.hostText

/-- A network on which nobody answers. -/
def unreachable : Network σ := fun _ url _ _ =>
  let shown := url.withoutUser
  if canAsk shown then pure (.error (.unanswered shown false))
  else pure (.error (.unsupported shown))

/-- Reads the body of a request, if it has one. -/
def readBody (request : Request) (held : Cleanup σ Event) :
    Task σ Event (Except ClientError (Option Octets)) :=
  match request.body with
  | none => pure (.ok none)
  | some body => do
    match ← request.context.run held (body.collect held) with
    | .error ending => pure (.error ending.error)
    | .ok (.error fault) =>
      Task.release held
      pure (.error (.requestBody fault))
    | .ok (.ok octets) => pure (.ok (some octets))

/-- One exchange over the network while a place at a gate is held. -/
def exchange (network : Network σ) (request : Request) (held : Cleanup σ Event) :
    Task σ Event (Except ClientError (Response σ Event)) := do
  match ← readBody request held with
  | .error error => pure (.error error)
  | .ok octets =>
    let sending := network request.method request.url request.headers octets
    match ← request.context.run held (sending.holding held) with
    | .error ending => pure (.error ending.error)
    | .ok (.error fault) =>
      Task.release held
      pure (.error (.transport fault))
    | .ok (.ok response) => pure (.ok { response with held := response.held.both held })

/-- A ticket that has not asked for its permit. -/
def fetched (gates : Part σ Limiter) (ticket : Ticket) : Cleanup σ Event :=
  ⟨gates.write (·.drop ticket), []⟩

/-- A ticket that has asked: a place in line, or a permit. -/
def leaving (gates : Part σ Limiter) (ticket : Ticket) : Cleanup σ Event :=
  ⟨gates.write (·.leave ticket), []⟩

/-- Asks for a permit and waits for it. -/
def acquire (gates : Part σ Limiter) (ticket : Ticket) : Task σ Event Unit :=
  .change (gates.write (·.ask ticket)) fun _ =>
    .await (leaving gates ticket) fun world => (gates.read world).admits ticket

/-- The executor over a network and the gates in front of it. -/
def executor (network : Network σ) (gates : Part σ Limiter) : Executor σ := fun request =>
  let key := Limiter.keyOf request.url
  .change (gates.write fun limiter => (limiter.fetch key).2) fun before =>
    match ((gates.read before).fetch key).1 with
    | .error reason => .panic reason
    | .ok none => network.exchange request .none
    | .ok (some ticket) => do
      match ← request.context.run (fetched gates ticket) (acquire gates ticket) with
      | .error ending => pure (.error ending.error)
      | .ok () => network.exchange request (leaving gates ticket)

/-- The executor in descriptions. -/
def describe (limit : Nat) : String :=
  Text.record "ReqwestExecutor" [("per_host_limit", toString limit)]

end Network
end ResilientHttp

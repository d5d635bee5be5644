import ResilientHttp.Context.Run
import ResilientHttp.Event
import ResilientHttp.Retry.Policy

/-!
Retrying. `RetryPolicy.retrying` makes an executor of another one: it reads the body of the
request once, and then sends copies of the request through the rotation of the policy until one
is answered with a status that is no failure, or the attempts are used up. Responses with a
failing status are given up before the wait for the next attempt. An endpoint that is no URL uses
up an attempt without a request and without a wait. Whatever says that the context has ended
ends the call at once. A `Transport` is a stack of policies on top of something that sends.
-/

namespace ResilientHttp

/-- Why an attempt failed: it was answered with a failing status, or not at all. -/
inductive Failure where
  | answered (status : Status)
  | failed (error : ClientError)
  deriving Repr

/-- The cause of a retry as it is logged. -/
def Failure.text : Failure → String
  | .answered status => "status " ++ status.number
  | .failed error => error.message

/-- The error of a call whose attempts are used up. -/
def Failure.exhausted (sent : UInt32) : Option Failure → ClientError
  | none => .retriesExhausted sent none none
  | some (.answered status) => .retriesExhausted sent (some status) none
  | some (.failed error) => .retriesExhausted sent none (some error)

namespace RetryPolicy

variable {σ : Type}

/-- The record of a retry: of the attempt that failed, where it was sent, and why it failed. -/
def retryRecord (policy : RetryPolicy) (method : Method) (url : Url) (attempt : Nat)
    (slot : Fin policy.slotCount) (failure : Failure) : LogRecord where
  level := .warn
  message := "retrying request"
  fields :=
    [("url", url.text), ("method", method.name), ("attempt", toString (attempt + 1)),
     ("failover_index", toString (slot.val + 1)), ("cause", failure.text)]

/-- The trace of an endpoint that is no URL. -/
def skipTrace (slot : Nat) (cause : Url.ParseError) : Trace where
  level := .debug
  target := Trace.part "retry"
  message := "skipping unparsable failover endpoint"
  fields := [("slot", toString slot), ("error", cause.message)]

/-- The log event of a retry, if the policy logs. -/
def logRetry (policy : RetryPolicy) (sink : Sink) (record : LogRecord) : Task σ Event Unit :=
  if policy.logging then .emit (sink.write record) (.done ()) else .done ()

/-- What follows a failed attempt: the next attempt, after the record of the retry and the wait,
unless no attempt is left. -/
def afterFailure (policy : RetryPolicy) (sink : Sink) (request : Request) (left attempt : Nat)
    (url : Url) (failure : Failure)
    (again : Task σ Event (Except ClientError (Response σ Event))) :
    Task σ Event (Except ClientError (Response σ Event)) :=
  if left = 0 then again
  else do
    policy.logRetry sink
      (policy.retryRecord request.method url attempt (policy.slot attempt) failure)
    match ← request.context.run .none (Task.sleep .none (policy.delayAfter attempt)) with
    | .error ending => pure (.error ending.error)
    | .ok () => again

/-- The attempts of a call. The count of those that are left comes first, then the number of the
next one, the count of requests sent, and what the last of these came to. -/
def attempts (policy : RetryPolicy) (sink : Sink) (base : Executor σ) (request : Request)
    (octets : Option Octets) :
    Nat → Nat → UInt32 → Option Failure → Task σ Event (Except ClientError (Response σ Event))
  | 0, _, sent, last => pure (.error (Failure.exhausted sent last))
  | left + 1, attempt, sent, last => do
    match ← request.context.check with
    | .error ending => pure (.error ending.error)
    | .ok () =>
      match policy.target request.url (policy.slot attempt) with
      | .error cause =>
        Task.emitAll [.trace (skipTrace (policy.slot attempt).val cause)]
        policy.attempts sink base request octets left (attempt + 1) sent last
      | .ok url =>
        let goOn (failure : Failure) : Task σ Event (Except ClientError (Response σ Event)) :=
          policy.afterFailure sink request left attempt url failure
            (policy.attempts sink base request octets left (attempt + 1) (sent + 1)
              (some failure))
        match ← request.context.run .none (base (request.rebind url octets)) with
        | .error ending => pure (.error ending.error)
        | .ok (.error error) =>
          if error.isContextError then pure (.error error) else goOn (.failed error)
        | .ok (.ok response) =>
          if policy.isRetryable response.status then
            response.drop
            goOn (.answered response.status)
          else pure (.ok response)

/-- An executor on top of another one that sends a request again while it fails. -/
def retrying (policy : RetryPolicy) (sink : Sink) (base : Executor σ) : Executor σ :=
  fun request => do
    let total := policy.maxAttempts.toNat + 1
    match request.takeBody with
    | (none, bare) => policy.attempts sink base bare none total 0 0 none
    | (some body, bare) =>
      match ← bare.context.run .none (body.collect .none) with
      | .error ending => pure (.error ending.error)
      | .ok (.error fault) => pure (.error (.requestBody fault))
      | .ok (.ok octets) => policy.attempts sink base bare (some octets) total 0 0 none

end RetryPolicy

/-- Policies on top of something that sends. -/
inductive Transport (τ : Type) where
  | base (sender : τ)
  | retrying (policy : RetryPolicy) (sink : Sink) (inner : Transport τ)
  deriving Repr

namespace Transport

variable {τ σ : Type}

/-- The executor of a stack, given that of what it stands on. -/
def execute (run : τ → Executor σ) : Transport τ → Executor σ
  | .base sender => run sender
  | .retrying policy sink inner => policy.retrying sink (inner.execute run)

/-- What the stack stands on. -/
def sender : Transport τ → τ
  | .base sender => sender
  | .retrying _ _ inner => inner.sender

/-- A stack in descriptions: its outermost policy, or the text of what it stands on. -/
def describe (text : τ → String) : Transport τ → String
  | .base sender => text sender
  | .retrying policy _ _ => Text.openRecord "RetryTransport" [("policy", policy.describe)]

end Transport
end ResilientHttp

import ResilientHttp.Proofs.Journal
import ResilientHttp.Retry.Transport

/-!
The loop of a retrying call, in equations. An attempt is three things one after the other: a look at
the context, an exchange bound to it, and `RetryPolicy.settle`, which either ends the call with the
outcome of the exchange or discards the outcome and goes on. `isTerminal` says which of the two it
is; `settle_of_isTerminal` and `settle_of_not_isTerminal` are the equations that the laws of calls
are proved from.
-/

namespace ResilientHttp

variable {σ ε α β : Type}

/-- Why an attempt with an outcome has failed, if it has. -/
def Failure.of : Except ClientError (Response σ ε) → Failure
  | .ok response => .answered response.status
  | .error error => .failed error

@[simp] theorem Failure.of_map_noted (outcome : ExchangeResult σ) :
    Failure.of (outcome.map Response.noted) = Failure.of outcome := by
  cases outcome <;> rfl

/-- Gives up what an outcome holds. -/
def ExchangeResult.discard : ExchangeResult σ → Task σ Event Unit
  | .ok response => response.drop
  | .error _ => .done ()

namespace RetryPolicy

/-- Whether an outcome ends a call: a response whose status is no failure, or an error that says
that the context has ended. -/
def isTerminal (policy : RetryPolicy) : Except ClientError (Response σ ε) → Bool
  | .ok response => !policy.isRetryable response.status
  | .error error => error.isContextError

@[simp] theorem isTerminal_map_noted (policy : RetryPolicy) (outcome : ExchangeResult σ) :
    policy.isTerminal (outcome.map Response.noted) = policy.isTerminal outcome := by
  cases outcome <;> rfl

/-- The record of a retry, if the policy logs, and the wait for the next attempt. -/
def pause (policy : RetryPolicy) (sink : Sink) (request : Request) (attempt : Nat) (url : Url)
    (failure : Failure) : Task σ Event (Except ContextEnd Unit) :=
  (policy.logRetry sink
    (policy.retryRecord request.method url attempt (policy.slot attempt) failure)).bind fun _ =>
      request.context.run .none (Task.sleep .none (policy.delayAfter attempt))

/-- What follows the exchange of an attempt. -/
def settle (policy : RetryPolicy) (sink : Sink) (request : Request) (left attempt : Nat) (url : Url)
    (again : Failure → Task σ Event (ExchangeResult σ)) :
    ExchangeResult σ → Task σ Event (ExchangeResult σ)
  | .error error =>
      if error.isContextError then .done (.error error)
      else policy.afterFailure sink request left attempt url (.failed error) (again (.failed error))
  | .ok response =>
      if policy.isRetryable response.status then
        response.drop.bind fun _ =>
          policy.afterFailure sink request left attempt url (.answered response.status)
            (again (.answered response.status))
      else .done (.ok response)

section Equations

variable {policy : RetryPolicy} {sink : Sink} {base : Executor σ} {request : Request}
  {octets : Option Octets} {left attempt : Nat} {sent : UInt32} {last : Option Failure} {url : Url}
  {failure : Failure} {again : Task σ Event (ExchangeResult σ)}

theorem attempts_zero :
    policy.attempts sink base request octets 0 attempt sent last =
      .done (.error (Failure.exhausted sent last)) :=
  rfl

theorem attempts_succ :
    policy.attempts sink base request octets (left + 1) attempt sent last =
      request.context.check.proceed fun _ =>
        match policy.target request.url (policy.slot attempt) with
        | .error cause =>
            .emit (.trace (skipTrace (policy.slot attempt).val cause))
              (policy.attempts sink base request octets left (attempt + 1) sent last)
        | .ok url =>
            (request.context.run .none (base (request.rebind url octets))).proceed <|
              policy.settle sink request left attempt url fun failure =>
                policy.attempts sink base request octets left (attempt + 1) (sent + 1)
                  (some failure) := by
  rw [attempts]
  refine congrArg (Task.bind _) (funext fun checked => ?_)
  cases checked with
  | error ending => rfl
  | ok _ =>
      dsimp only
      cases policy.target request.url (policy.slot attempt) with
      | error cause => rfl
      | ok url =>
          refine congrArg (Task.bind _) (funext fun result => ?_)
          rcases result with ending | error | response <;> rfl

theorem afterFailure_zero : policy.afterFailure sink request 0 attempt url failure again = again :=
  rfl

theorem afterFailure_succ :
    policy.afterFailure sink request (left + 1) attempt url failure again =
      (policy.pause sink request attempt url failure).proceed fun _ => again := by
  rw [afterFailure, if_neg (Nat.succ_ne_zero left), pause, Task.proceed, Task.bind_assoc]
  refine congrArg (Task.bind _) (funext fun _ => congrArg (Task.bind _) (funext fun waited => ?_))
  cases waited <;> rfl

theorem settle_of_isTerminal {again : Failure → Task σ Event (ExchangeResult σ)}
    {outcome : ExchangeResult σ} (h : policy.isTerminal outcome = true) :
    policy.settle sink request left attempt url again outcome = .done outcome := by
  cases outcome with
  | error error => exact if_pos h
  | ok response =>
      have answers : policy.isRetryable response.status = false := by simpa [isTerminal] using h
      simp [settle, answers]

theorem settle_of_not_isTerminal {again : Failure → Task σ Event (ExchangeResult σ)}
    {outcome : ExchangeResult σ} (h : policy.isTerminal outcome = false) :
    policy.settle sink request left attempt url again outcome =
      outcome.discard.bind fun _ =>
        policy.afterFailure sink request left attempt url (Failure.of outcome)
          (again (Failure.of outcome)) := by
  cases outcome with
  | error error => exact if_neg (by simpa [isTerminal] using h)
  | ok response =>
      have retries : policy.isRetryable response.status = true := by simpa [isTerminal] using h
      simp [settle, retries, ExchangeResult.discard, Failure.of]

theorem retrying_of_none (h : request.body = none) :
    policy.retrying sink base request =
      policy.attempts sink base (request.withBody none) none (policy.maxAttempts.toNat + 1) 0 0
        none := by
  rw [retrying, Request.takeBody, h]
  rfl

theorem retrying_of_some {body : Body} (h : request.body = some body) :
    policy.retrying sink base request =
      (request.context.run .none (body.collect .none)).proceed fun
        | .error fault => .done (.error (.requestBody fault))
        | .ok octets =>
            policy.attempts sink base (request.withBody none) (some octets)
              (policy.maxAttempts.toNat + 1) 0 0 none := by
  rw [retrying, Request.takeBody, h]
  refine congrArg (Task.bind _) (funext fun result => ?_)
  rcases result with ending | fault | octets <;> rfl

end Equations

end RetryPolicy
end ResilientHttp

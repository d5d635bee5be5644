import ResilientHttp.Proofs.Context.Deadline
import ResilientHttp.Proofs.Retry.Keeping
import ResilientHttp.Proofs.Site

/-!
Retrying under a deadline. An executor is detached if it neither asks for the context of a request nor
sets the clock. Whatever policies stand on such executors treats a request alike under a context with
a deadline and under one without, up to the deadline (`Transport.mirrors_execute`), and a retrying
call yields there (`yields_retrying`).
-/

namespace ResilientHttp

variable {σ τ : Type}

/-- What an outcome holds leaves the clock alone. -/
def ExchangeResult.Timeless (outcome : ExchangeResult σ) : Prop :=
  ∀ response, outcome = .ok response → response.held.Keeps World.SameTime

namespace Executor

/-- An executor leaves the clock alone. -/
def Timeless (base : Executor σ) : Prop :=
  ∀ request, (base request).Keeps World.SameTime ExchangeResult.Timeless

theorem timeless_iff_movesOn {base : Executor σ} :
    base.Timeless ↔ base.MovesOn (fun _ => True) World.SameTime :=
  ⟨fun timeless request _ => timeless request, fun moves request => moves request trivial⟩

/-- Up to a deadline an executor treats a request under it as it does without it. -/
def Mirrors (first second : Token) (limit : Instant) (base : Executor σ) : Prop :=
  ∀ request : Request,
    Task.Agrees (World.Calm first second) limit (base (request.withContext ⟨first, none⟩))
      (base (request.withContext ⟨second, some limit⟩))

/-- An executor that does not ask for the context of a request and leaves the clock alone. -/
structure Detached (base : Executor σ) : Prop where
  blind : ∀ (request : Request) (context : Context), base (request.withContext context) = base request
  timeless : base.Timeless

theorem Detached.mirrors {base : Executor σ} (h : base.Detached) (first second : Token)
    (limit : Instant) : base.Mirrors first second limit := by
  intro request
  rw [h.blind, h.blind]
  exact .refl _

/-- An executor that tells of every request as it is handed over. -/
def announced (base : Executor σ) (site : String) : Executor σ := fun request =>
  .emit (.request site (Script.arrival request (request.body.bind Body.octets?))) (base request)

theorem Detached.announced {base : Executor σ} (h : base.Detached) (site : String) :
    (base.announced site).Detached where
  blind request context := congrArg (Task.emit _) (h.blind request context)
  timeless := h.timeless

end Executor

namespace Script

/-- A scripted site is detached: it answers as it was told, to whoever asks. -/
theorem detached_executor (name : String) (part : Part σ Script) :
    (executor name part).Detached where
  blind _ _ := rfl
  timeless := by
    refine moves_executor name (fun _ => rfl) (fun _ => rfl) fun token world => ?_
    cases token <;> rfl

end Script

namespace RetryPolicy

variable {policy : RetryPolicy} {sink : Sink} {base : Executor σ} {request : Request}
  {octets : Option Octets} {left attempt : Nat} {sent : UInt32} {last : Option Failure} {url : Url}
  {failure : Failure}

/-- A retrying executor leaves the clock alone if the one that it stands on does. -/
theorem timeless_retrying (policy : RetryPolicy) (sink : Sink) (timeless : base.Timeless) :
    (policy.retrying sink base).Timeless :=
  Executor.timeless_iff_movesOn.mpr <| policy.movesOn_retrying sink (fun _ => rfl)
    (fun _ _ _ => id) (Executor.timeless_iff_movesOn.mp timeless)

/-! ### Up to the deadline -/

section Agrees

variable {first second : Token} {limit : Instant}

theorem agrees_afterFailure {again again' : Task σ Event (ExchangeResult σ)}
    (h : Task.Agrees (World.Calm first second) limit again again') :
    Task.Agrees (World.Calm first second) limit
      (policy.afterFailure sink (request.withContext ⟨first, none⟩) left attempt url failure again)
      (policy.afterFailure sink (request.withContext ⟨second, some limit⟩) left attempt url failure
        again') := by
  cases left with
  | zero =>
      rw [afterFailure_zero, afterFailure_zero]
      exact h
  | succ left =>
      rw [afterFailure_succ, afterFailure_succ]
      refine .proceed ((Task.Agrees.refl _).bind fun _ => ?_) fun _ => h
      exact Context.agrees_run (.refl _)

theorem agrees_settle {again again' : Failure → Task σ Event (ExchangeResult σ)}
    (outcome : ExchangeResult σ)
    (h : ∀ failure, Task.Agrees (World.Calm first second) limit (again failure) (again' failure)) :
    Task.Agrees (World.Calm first second) limit
      (policy.settle sink (request.withContext ⟨first, none⟩) left attempt url again outcome)
      (policy.settle sink (request.withContext ⟨second, some limit⟩) left attempt url again'
        outcome) := by
  cases terminal : policy.isTerminal outcome with
  | true =>
      rw [settle_of_isTerminal terminal, settle_of_isTerminal terminal]
      exact .done
  | false =>
      rw [settle_of_not_isTerminal terminal, settle_of_not_isTerminal terminal]
      exact (Task.Agrees.refl _).bind fun _ => agrees_afterFailure (h _)

theorem agrees_attempts (request : Request) (mirrors : base.Mirrors first second limit) :
    Task.Agrees (World.Calm first second) limit
      (policy.attempts sink base (request.withContext ⟨first, none⟩) octets left attempt sent last)
      (policy.attempts sink base (request.withContext ⟨second, some limit⟩) octets left attempt sent
        last) := by
  have sameUrl : ∀ context, (request.withContext context).url = request.url := fun _ => rfl
  induction left generalizing attempt sent last with
  | zero =>
      rw [attempts_zero, attempts_zero]
      exact .done
  | succ left ih =>
      rw [attempts_succ, attempts_succ]
      refine .proceed Context.agrees_check fun _ => ?_
      simp only [sameUrl]
      cases policy.target request.url (policy.slot attempt) with
      | error cause => exact .emit ih
      | ok url =>
          have exchange := mirrors (request.rebind url octets)
          exact .proceed (Context.agrees_run exchange) fun outcome => agrees_settle outcome fun _ => ih

/-- A retrying executor mirrors requests if the one that it stands on does. -/
theorem mirrors_retrying (policy : RetryPolicy) (sink : Sink)
    (mirrors : base.Mirrors first second limit) :
    (policy.retrying sink base).Mirrors first second limit := by
  intro request
  cases hbody : request.body with
  | none =>
      have sameBody : ∀ context, (request.withContext context).body = none := fun _ => hbody
      rw [retrying_of_none (sameBody _), retrying_of_none (sameBody _)]
      exact agrees_attempts (request.withBody none) mirrors
  | some body =>
      have sameBody : ∀ context, (request.withContext context).body = some body := fun _ => hbody
      rw [retrying_of_some (sameBody _), retrying_of_some (sameBody _)]
      refine .proceed (Context.agrees_run (.refl _)) ?_
      intro read
      cases read with
      | error fault => exact .done
      | ok octets => exact agrees_attempts (request.withBody none) mirrors

end Agrees

/-! ### At the deadline -/

section Yields

variable {first second : Token} {limit : Instant}

theorem yields_afterFailure {again : Task σ Event (ExchangeResult σ)}
    (h : again.Yields (World.Calm first second) limit (.error .deadlineExceeded)) :
    (policy.afterFailure sink (request.withContext ⟨second, some limit⟩) left attempt url failure
      again).Yields (World.Calm first second) limit (.error .deadlineExceeded) := by
  cases left with
  | zero =>
      rw [afterFailure_zero]
      exact h
  | succ left =>
      rw [afterFailure_succ]
      refine .proceed ?_ fun _ => h
      unfold pause logRetry
      split <;> exact Context.yields_run .none _

theorem yields_attempts (request : Request) :
    (policy.attempts sink base (request.withContext ⟨second, some limit⟩) octets left attempt sent
      last).Yields (World.Calm first second) limit (.error .deadlineExceeded) := by
  induction left generalizing attempt sent last with
  | zero =>
      rw [attempts_zero]
      trivial
  | succ left ih =>
      rw [attempts_succ]
      refine .proceed (Context.yields_check _) fun _ => ?_
      cases policy.target (request.withContext ⟨second, some limit⟩).url (policy.slot attempt) with
      | error cause => exact ih
      | ok url =>
          refine .proceed (Context.yields_run .none _) ?_
          intro outcome
          cases terminal : policy.isTerminal outcome with
          | true =>
              rw [settle_of_isTerminal terminal]
              trivial
          | false =>
              rw [settle_of_not_isTerminal terminal]
              cases outcome with
              | error error => exact yields_afterFailure ih
              | ok response => exact Task.yields_release (yields_afterFailure ih)

/-- A call under a deadline yields there. -/
theorem yields_retrying (policy : RetryPolicy) (sink : Sink) (base : Executor σ) (request : Request) :
    (policy.retrying sink base (request.withContext ⟨second, some limit⟩)).Yields
      (World.Calm first second) limit (.error .deadlineExceeded) := by
  cases hbody : (request.withContext ⟨second, some limit⟩).body with
  | none =>
      rw [retrying_of_none hbody]
      exact yields_attempts (request.withBody none)
  | some body =>
      rw [retrying_of_some hbody]
      refine .proceed (Context.yields_run .none _) ?_
      intro read
      cases read with
      | error fault => trivial
      | ok octets => exact yields_attempts (request.withBody none)

end Yields
end RetryPolicy

namespace Transport

variable {run : τ → Executor σ}

/-- A stack leaves the clock alone if what it stands on does. -/
theorem timeless_execute (timeless : ∀ sender, (run sender).Timeless) (stack : Transport τ) :
    (stack.execute run).Timeless := by
  induction stack with
  | base sender => exact timeless sender
  | retrying policy sink inner ih => exact policy.timeless_retrying sink ih

/-- A stack mirrors requests if what it stands on does. -/
theorem mirrors_execute {first second : Token} {limit : Instant}
    (mirrors : ∀ sender, (run sender).Mirrors first second limit) (stack : Transport τ) :
    (stack.execute run).Mirrors first second limit := by
  induction stack with
  | base sender => exact mirrors sender
  | retrying policy sink inner ih => exact policy.mirrors_retrying sink ih

end Transport
end ResilientHttp

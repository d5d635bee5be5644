import ResilientHttp.Proofs.Retry.Keeping
import ResilientHttp.Proofs.Task.Looking

/-!
A retrying call looks at its context right before each request. Nothing that the policy does comes between
the look and the request: a skipped endpoint, a record and a wait, also one of no length, are all followed by
another look. So a stack looks first whenever what it stands on is handed something.
-/

namespace ResilientHttp

variable {σ τ : Type}

/-- With requests of a kind, an executor does certain things only right after a look at a world that is live,
and may count on such a look right before it begins. -/
def Executor.LooksFirst (these : Request → Prop) (live : World σ → Prop)
    (kept does : World σ → World σ → Prop) (base : Executor σ) : Prop :=
  ∀ request, these request →
    (base request).LooksFirst live kept does (ExchangeResult.Keeps kept) True

namespace RetryPolicy

variable {policy : RetryPolicy} {sink : Sink} {base : Executor σ} {request : Request}
  {octets : Option Octets} {left attempt : Nat} {sent : UInt32} {last : Option Failure} {url : Url}
  {failure : Failure} {these : Request → Prop} {live : World σ → Prop}
  {kept does : World σ → World σ → Prop}

theorem looksFirst_afterFailure {again : Task σ Event (ExchangeResult σ)}
    (same : ∀ world, kept world world)
    (h : again.LooksFirst live kept does (ExchangeResult.Keeps kept) False) :
    (policy.afterFailure sink request left attempt url failure again).LooksFirst live kept does
      (ExchangeResult.Keeps kept) False := by
  cases left with
  | zero =>
      rw [afterFailure_zero]
      exact h
  | succ left =>
      rw [afterFailure_succ]
      exact ((keeps_pause same).looksFirst _).proceed (fun ending => .error ending.error) fun _ _ => h

theorem looksFirst_settle {again : Failure → Task σ Event (ExchangeResult σ)}
    {outcome : ExchangeResult σ} (same : ∀ world, kept world world) (keeps : outcome.Keeps kept)
    (h : ∀ failure, (again failure).LooksFirst live kept does (ExchangeResult.Keeps kept) False) :
    (policy.settle sink request left attempt url again outcome).LooksFirst live kept does
      (ExchangeResult.Keeps kept) False := by
  cases terminal : policy.isTerminal outcome with
  | true =>
      rw [settle_of_isTerminal terminal]
      exact keeps
  | false =>
      rw [settle_of_not_isTerminal terminal]
      exact ((keeps_discard keeps).looksFirst _).bind fun _ _ => looksFirst_afterFailure same (h _)

theorem looksFirst_attempts (same : ∀ world, kept world world)
    (sees : ∀ world, request.context.endedIn? world = none → live world)
    (looks : base.LooksFirst these live kept does) (sends : ∀ url, these (request.rebind url octets)) :
    (policy.attempts sink base request octets left attempt sent last).LooksFirst live kept does
      (ExchangeResult.Keeps kept) False := by
  induction left generalizing attempt sent last with
  | zero =>
      rw [attempts_zero]
      exact ExchangeResult.Keeps.error _
  | succ left ih =>
      rw [attempts_succ]
      refine (request.context.keeps_check.looksFirst _).proceed (fun ending => .error ending.error)
        fun _ _ => ?_
      cases policy.target request.url (policy.slot attempt) with
      | error cause => exact ih
      | ok url =>
          refine (request.context.looksFirst_run (Cleanup.keeps_none same) sees
            (looks _ (sends url))).proceed (fun ending => .error ending.error) ?_
          exact fun outcome keeps => looksFirst_settle same keeps fun _ => ih

/-- A retrying executor looks first if the one does that it stands on. -/
theorem looksFirst_retrying (policy : RetryPolicy) (sink : Sink) (same : ∀ world, kept world world)
    (sees : ∀ request, these request → ∀ world, request.context.endedIn? world = none → live world)
    (rebinds : Request.Rebinds these) (looks : base.LooksFirst these live kept does) :
    (policy.retrying sink base).LooksFirst these live kept does := by
  intro request kind
  cases hbody : request.body with
  | none =>
      rw [retrying_of_none hbody]
      refine Task.LooksFirst.mono ?_ False.elim
      exact looksFirst_attempts same (sees request kind) looks fun url => rebinds request url none kind
  | some body =>
      rw [retrying_of_some hbody]
      have reads : (body.collect .none : Task σ Event ChunkResult).Keeps kept
          fun result => result = body.content :=
        body.keeps_collect (Cleanup.keeps_none same)
      refine ((request.context.keeps_run (Cleanup.keeps_none same) reads).looksFirst _).proceed
        (fun ending => .error ending.error) ?_
      intro read _
      cases read with
      | error fault => exact ExchangeResult.Keeps.error _
      | ok octets =>
          exact looksFirst_attempts same (sees request kind) looks
            fun url => rebinds request url (some octets) kind

end RetryPolicy

/-- A stack looks first if what it stands on does. -/
theorem Transport.looksFirst_execute {run : τ → Executor σ} {these : Request → Prop}
    {live : World σ → Prop} {kept does : World σ → World σ → Prop} (same : ∀ world, kept world world)
    (sees : ∀ request, these request → ∀ world, request.context.endedIn? world = none → live world)
    (rebinds : Request.Rebinds these) (looks : ∀ sender, (run sender).LooksFirst these live kept does)
    (stack : Transport τ) : (stack.execute run).LooksFirst these live kept does := by
  induction stack with
  | base sender => exact looks sender
  | retrying policy sink inner ih => exact policy.looksFirst_retrying sink same sees rebinds ih

end ResilientHttp

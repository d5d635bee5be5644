import ResilientHttp.Proofs.Retry.Loop

/-!
What retrying leaves alone. All that a policy does to the world itself is nothing: it waits, tells, and
gives up the responses that it does not pass on. So a stack moves the world along whatever relation
what it stands on does (`Transport.movesOn_execute`), also if that is only so of requests of some kind,
since the requests of all attempts differ in no more than the target and the body.
-/

namespace ResilientHttp

variable {σ τ : Type}

/-- What an outcome holds is given up along a relation. -/
def ExchangeResult.Keeps (kept : World σ → World σ → Prop) (outcome : ExchangeResult σ) : Prop :=
  ∀ response, outcome = .ok response → response.held.Keeps kept

theorem ExchangeResult.Keeps.error {kept : World σ → World σ → Prop} (error : ClientError) :
    Keeps kept (.error error : ExchangeResult σ) := by
  rintro response ⟨⟩

/-- With requests of a kind, whatever an executor does, and whatever it does to give up one of its
responses, moves the world along a relation. -/
def Executor.MovesOn (these : Request → Prop) (kept : World σ → World σ → Prop)
    (base : Executor σ) : Prop :=
  ∀ request, these request → (base request).Keeps kept (ExchangeResult.Keeps kept)

/-- A recorded executor moves the world along a relation if it does so without its journal and what it
writes there is along the relation too. -/
theorem Executor.MovesOn.recording {base : Executor σ} {these : Request → Prop}
    {plain : World σ → World σ → Prop} {kept : World (Noted σ) → World (Noted σ) → Prop}
    (moves : base.MovesOn these plain)
    (hands : ∀ world request, these request →
      kept world (world.plain.noted (world.journal.hand world.plain request)))
    (answers : ∀ world outcome,
      kept world (world.plain.noted (world.journal.answer world.plain outcome)))
    (quiet : ∀ world after, plain world.plain after.plain → after.journal = world.journal →
      kept world after) :
    base.recording.MovesOn these kept := by
  intro request kind
  have exchange := (moves request kind).noted.mono (fun world after both => quiet world after both.1 both.2)
    fun _ => id
  refine ⟨fun world => hands world request kind, fun _ => exchange.bind fun outcome held => ?_⟩
  refine ⟨fun world => answers world outcome, fun _ response answered world => ?_⟩
  cases outcome with
  | error error => cases answered
  | ok own =>
      cases answered
      exact quiet _ _ (held own rfl world.plain) rfl

/-- The requests of all attempts of a call are of a kind if its own is. -/
def Request.Rebinds (these : Request → Prop) : Prop :=
  ∀ request url octets, these request → these (request.rebind url octets)

namespace RetryPolicy

variable {policy : RetryPolicy} {sink : Sink} {base : Executor σ} {request : Request}
  {octets : Option Octets} {left attempt : Nat} {sent : UInt32} {last : Option Failure} {url : Url}
  {failure : Failure} {these : Request → Prop} {kept : World σ → World σ → Prop}

theorem keeps_logRetry (record : LogRecord) :
    (policy.logRetry sink record).Keeps kept fun _ => True := by
  unfold logRetry
  split <;> trivial

theorem keeps_pause (same : ∀ world, kept world world) :
    (policy.pause sink request attempt url failure : Task σ Event (Except ContextEnd Unit)).Keeps
      kept fun result => ∀ value, result = .ok value → True :=
  (keeps_logRetry _).bind fun _ _ =>
    request.context.keeps_run (Cleanup.keeps_none same)
      (Task.keeps_sleep (Cleanup.keeps_none same) _)

theorem keeps_afterFailure {again : Task σ Event (ExchangeResult σ)}
    (same : ∀ world, kept world world) (h : again.Keeps kept (ExchangeResult.Keeps kept)) :
    (policy.afterFailure sink request left attempt url failure again).Keeps kept
      (ExchangeResult.Keeps kept) := by
  cases left with
  | zero =>
      rw [afterFailure_zero]
      exact h
  | succ left =>
      rw [afterFailure_succ]
      exact Task.keeps_proceed (keeps_pause same) (fun ending => .error ending.error)
        fun _ _ => h

theorem keeps_discard {outcome : ExchangeResult σ} (keeps : outcome.Keeps kept) :
    outcome.discard.Keeps kept fun _ => True := by
  cases outcome with
  | error error => trivial
  | ok response => exact Task.keeps_release (keeps response rfl)

theorem keeps_settle {again : Failure → Task σ Event (ExchangeResult σ)} {outcome : ExchangeResult σ}
    (same : ∀ world, kept world world) (keeps : outcome.Keeps kept)
    (h : ∀ failure, (again failure).Keeps kept (ExchangeResult.Keeps kept)) :
    (policy.settle sink request left attempt url again outcome).Keeps kept
      (ExchangeResult.Keeps kept) := by
  cases terminal : policy.isTerminal outcome with
  | true =>
      rw [settle_of_isTerminal terminal]
      exact keeps
  | false =>
      rw [settle_of_not_isTerminal terminal]
      exact (keeps_discard keeps).bind fun _ _ => keeps_afterFailure same (h _)

theorem keeps_attempts (same : ∀ world, kept world world) (moves : base.MovesOn these kept)
    (sends : ∀ url, these (request.rebind url octets)) :
    (policy.attempts sink base request octets left attempt sent last).Keeps kept
      (ExchangeResult.Keeps kept) := by
  induction left generalizing attempt sent last with
  | zero =>
      rw [attempts_zero]
      exact ExchangeResult.Keeps.error _
  | succ left ih =>
      rw [attempts_succ]
      refine Task.keeps_proceed request.context.keeps_check
        (fun ending => .error ending.error) fun _ _ => ?_
      cases policy.target request.url (policy.slot attempt) with
      | error cause => exact ih
      | ok url =>
          have exchange := request.context.keeps_run (Cleanup.keeps_none same) (moves _ (sends url))
          exact Task.keeps_proceed exchange (fun ending => .error ending.error)
            fun outcome keeps => keeps_settle same keeps fun _ => ih

/-- A retrying executor moves the world as the one does that it stands on. -/
theorem movesOn_retrying (policy : RetryPolicy) (sink : Sink) (same : ∀ world, kept world world)
    (rebinds : Request.Rebinds these) (moves : base.MovesOn these kept) :
    (policy.retrying sink base).MovesOn these kept := by
  intro request kind
  cases hbody : request.body with
  | none =>
      rw [retrying_of_none hbody]
      exact keeps_attempts same moves fun url => rebinds request url none kind
  | some body =>
      rw [retrying_of_some hbody]
      have reads : (body.collect .none : Task σ Event ChunkResult).Keeps kept
          fun result => result = body.content :=
        body.keeps_collect (Cleanup.keeps_none same)
      refine Task.keeps_proceed (request.context.keeps_run (Cleanup.keeps_none same) reads)
        (fun ending => .error ending.error) ?_
      intro read _
      cases read with
      | error fault => exact ExchangeResult.Keeps.error _
      | ok octets => exact keeps_attempts same moves fun url => rebinds request url (some octets) kind

end RetryPolicy

/-- A stack moves the world as what it stands on does. -/
theorem Transport.movesOn_execute {run : τ → Executor σ} {these : Request → Prop}
    {kept : World σ → World σ → Prop} (same : ∀ world, kept world world)
    (rebinds : Request.Rebinds these) (moves : ∀ sender, (run sender).MovesOn these kept)
    (stack : Transport τ) : (stack.execute run).MovesOn these kept := by
  induction stack with
  | base sender => exact moves sender
  | retrying policy sink inner ih => exact policy.movesOn_retrying sink same rebinds ih

end ResilientHttp

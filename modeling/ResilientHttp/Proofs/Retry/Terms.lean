import ResilientHttp.Proofs.Retry.Loop
import ResilientHttp.Proofs.Task.Terms

/-!
Retrying on terms. A call is idle while it has no response in hand, and terms say in which worlds it may
then be abandoned. `Terms.Idling` are terms that let an idle call do what calls do between exchanges; a
response that it is given is `owed`, and giving it up makes the call idle again.

* `serves_retrying` — a retrying executor keeps the terms of the executor that it stands on, and never
  gives a response with a status that the policy retries.
* `Transport.serves_execute` — so does every stack of policies.
-/

namespace ResilientHttp

variable {σ τ α : Type}

/-- Terms that let an idle call do what calls do between exchanges, whatever the others do meanwhile,
and let it give up the responses that it is owed. -/
structure Terms.Idling (terms : Terms σ Event) (owed : Response σ Event → World σ → Prop) : Prop where
  stays : ∀ world later, terms.leaves world → terms.rely world later → terms.leaves later
  still : ∀ world, terms.leaves world → terms.guar world world
  tells : ∀ event world, terms.leaves world → terms.tells event world
  rests : ∀ world, terms.leaves world → terms.rests world
  waits : ∀ response world later, owed response world → terms.rely world later → owed response later
  gives : ∀ response world, owed response world → response.held.Leaves terms world

/-- After an exchange the response is owed; if there is none, the call is idle. -/
def ExchangeResult.Owed (terms : Terms σ Event) (owed : Response σ Event → World σ → Prop) :
    ExchangeResult σ → World σ → Prop
  | .ok response, world => owed response world
  | .error _, world => terms.leaves world

/-- An executor keeps terms in every exchange that begins while the call is idle and its context has not
ended. -/
def Executor.Serves (terms : Terms σ Event) (owed : Response σ Event → World σ → Prop)
    (context : Context) (base : Executor σ) : Prop :=
  ∀ request world, request.context = context → terms.leaves world → context.endedIn? world = none →
    (base request).Abides terms (ExchangeResult.Owed terms owed) world

variable {terms : Terms σ Event} {owed : Response σ Event → World σ → Prop} {world : World σ}

theorem Terms.Idling.leaves_none (idling : terms.Idling owed) (idle : terms.leaves world) :
    (Cleanup.none : Cleanup σ Event).Leaves terms world :=
  ⟨idling.still world idle, List.forall_mem_nil _, idle⟩

namespace RetryPolicy

variable {policy : RetryPolicy} {sink : Sink} {base : Executor σ} {request : Request}
  {octets : Option Octets} {left attempt : Nat} {sent : UInt32} {last : Option Failure} {url : Url}

/-- After a retrying call a response is owed, and its status is none that the policy retries. -/
def Returned (policy : RetryPolicy) (terms : Terms σ Event)
    (owed : Response σ Event → World σ → Prop) (outcome : ExchangeResult σ) (world : World σ) : Prop :=
  outcome.Owed terms owed world ∧
    ∀ response, outcome = .ok response → policy.isRetryable response.status = false

theorem returned_error (error : ClientError) (idle : terms.leaves world) :
    policy.Returned terms owed (.error error) world := by
  refine ⟨idle, ?_⟩
  rintro response ⟨⟩

/-- Bound work that is gone on with, in a call that is idle before it and when its context ends. -/
theorem abides_bound (idling : terms.Idling owed) {task : Task σ Event α}
    {next : α → Task σ Event (ExchangeResult σ)} (idle : terms.leaves world)
    (h : request.context.endedIn? world = none → task.Abides terms (fun value world =>
      (next value).Abides terms (policy.Returned terms owed) world) world) :
    ((request.context.run .none task).proceed next).Abides terms (policy.Returned terms owed)
      world := by
  refine .proceed ((Context.abides_run (idling.leaves_none idle) h).mono fun result world post => ?_)
  cases result with
  | error ending => exact returned_error _ post
  | ok value => exact post

theorem abides_afterFailure (idling : terms.Idling owed) {failure : Failure}
    {again : Task σ Event (ExchangeResult σ)}
    (h : ∀ world, terms.leaves world → again.Abides terms (policy.Returned terms owed) world)
    (idle : terms.leaves world) :
    (policy.afterFailure sink request left attempt url failure again).Abides terms
      (policy.Returned terms owed) world := by
  cases left with
  | zero =>
      rw [afterFailure_zero]
      exact h world idle
  | succ left =>
      have wait : ∀ span, ((request.context.run .none (Task.sleep .none span)).proceed
          fun _ => again).Abides terms (policy.Returned terms owed) world := by
        refine fun span => abides_bound idling idle fun _ => ?_
        have stays := fun later (hrely : terms.rely world later) => idling.stays world later idle hrely
        exact Task.abides_sleep span (idling.rests world idle)
          (fun later hrely => idling.leaves_none (stays later hrely)) (h world idle)
          fun later hrely => h later (stays later hrely)
      rw [afterFailure_succ, Task.proceed, pause, Task.bind_assoc, logRetry]
      split
      · exact ⟨idling.tells _ world idle, wait _⟩
      · exact wait _

theorem abides_settle (idling : terms.Idling owed) {again : Failure → Task σ Event (ExchangeResult σ)}
    {outcome : ExchangeResult σ}
    (h : ∀ failure world, terms.leaves world →
      (again failure).Abides terms (policy.Returned terms owed) world)
    (settles : outcome.Owed terms owed world) :
    (policy.settle sink request left attempt url again outcome).Abides terms
      (policy.Returned terms owed) world := by
  cases terminal : policy.isTerminal outcome with
  | true =>
      rw [settle_of_isTerminal terminal]
      refine ⟨settles, ?_⟩
      rintro response rfl
      simpa [isTerminal] using terminal
  | false =>
      rw [settle_of_not_isTerminal terminal]
      refine .bind ?_
      cases outcome with
      | error error => exact abides_afterFailure idling (h _) settles
      | ok response =>
          have gives := idling.gives response world settles
          exact Task.abides_release gives (abides_afterFailure idling (h _) gives.leaves)

/-- The attempts of a call, from any world in which the call is idle. -/
theorem abides_attempts (idling : terms.Idling owed)
    (serves : base.Serves terms owed request.context) (idle : terms.leaves world) :
    (policy.attempts sink base request octets left attempt sent last).Abides terms
      (policy.Returned terms owed) world := by
  induction left generalizing attempt sent last world with
  | zero =>
      rw [attempts_zero]
      exact returned_error _ idle
  | succ left ih =>
      rw [attempts_succ]
      refine .proceed (Context.abides_check fun checked => ?_)
      cases checked with
      | error ending => exact returned_error _ idle
      | ok _ =>
          dsimp only
          cases policy.target request.url (policy.slot attempt) with
          | error cause => exact ⟨idling.tells _ world idle, ih idle⟩
          | ok url =>
              refine abides_bound idling idle fun live => ?_
              exact (serves (request.rebind url octets) world rfl idle live).mono
                fun outcome world settles => abides_settle idling (fun _ _ => ih) settles

/-- A retrying call keeps the terms of the exchanges that it makes. -/
theorem abides_retrying (idling : terms.Idling owed)
    (serves : base.Serves terms owed request.context) (idle : terms.leaves world) :
    (policy.retrying sink base request).Abides terms (policy.Returned terms owed) world := by
  cases hbody : request.body with
  | none =>
      rw [retrying_of_none hbody]
      exact abides_attempts idling serves idle
  | some body =>
      rw [retrying_of_some hbody]
      refine abides_bound idling idle fun _ => ?_
      have reads : (body.collect .none).Abides terms (fun _ world => terms.leaves world) world :=
        Body.abides_collect terms.leaves idling.stays idling.rests (fun _ => idling.leaves_none) body
          idle
      refine reads.mono fun read world idle => ?_
      cases read with
      | error fault => exact returned_error _ idle
      | ok octets => exact abides_attempts idling serves idle

/-- A retrying executor keeps the terms of the executor that it stands on. -/
theorem serves_retrying (policy : RetryPolicy) (sink : Sink) {context : Context}
    (idling : terms.Idling owed) (serves : base.Serves terms owed context) :
    (policy.retrying sink base).Serves terms owed context := by
  rintro request world rfl idle -
  exact (abides_retrying idling serves idle).mono fun _ _ returned => returned.1

end RetryPolicy

/-- A stack of policies keeps the terms of what it stands on. -/
theorem Transport.serves_execute {run : τ → Executor σ} {context : Context} (idling : terms.Idling owed)
    (serves : ∀ sender, (run sender).Serves terms owed context) (stack : Transport τ) :
    (stack.execute run).Serves terms owed context := by
  induction stack with
  | base sender => exact serves sender
  | retrying policy sink inner ih => exact policy.serves_retrying sink idling ih

end ResilientHttp

import ResilientHttp.Proofs.Client.Terms
import ResilientHttp.Proofs.Ledger
import ResilientHttp.Proofs.Site

/-!
Every response is given up. A call has a ledger of the responses that its executors give it, and others
do what they like beside it, so its context may end at any moment. `responses_released` says of retrying
calls and of all calls of a client what the ledger tells at each moment: nobody ever has two responses,
none is given up twice, and none is forgotten.
-/

namespace ResilientHttp

variable {σ τ : Type} {policy : RetryPolicy} {sink : Sink} {request : Request}
  {execute : Executor (σ × Ledger)} {world after : World (σ × Ledger)}
  {moments : List (Moment (σ × Ledger) Event)}

/-- What the ledger tells of a retrying call at a moment. Nobody has two responses or has given one up
twice; before anything else was handed over, before every event, before every rest and before every
error that the call ends with, all responses were given up once. A response that the call ends with is
the last one that was given, it was not given up, and its status is none that the policy retries. -/
structure RetryPolicy.Released (policy : RetryPolicy) (moments : List (Moment (σ × Ledger) Event))
    (left : Task (σ × Ledger) Event (ExchangeResult (σ × Ledger))) (after : World (σ × Ledger)) :
    Prop where
  one : after.back.unreleased.length ≤ 1
  once : ∀ number, after.back.count (.released number) ≤ 1
  handed : ∀ newer older, after.back = newer ++ .handed :: older → Ledger.Settled older
  told : ∀ moment ∈ moments, ∀ event, moment.event = some event → moment.world.back.Settled
  rests : ∀ wake held next, left = .rest wake held next → after.back.Settled
  failed : ∀ error, left = .done (.error error) → after.back.Settled
  returned : ∀ response, left = .done (.ok response) →
    policy.isRetryable response.status = false ∧
      ∃ number older, after.back = .given number response.status :: older ∧ Ledger.Settled older ∧
        after.back.count (.released number) = 0 ∧
        ∀ world, (response.held.effect world).back = .released number :: world.back

namespace Ledger

/-- The newest response is not released yet, and all the others are. -/
theorem Orderly.newest {number : Nat} {status : Status} {older : Ledger}
    (h : Orderly (.given number status :: older)) :
    older.Settled ∧ List.count (.released number) (.given number status :: older) = 0 := by
  have counted := h.released_add_unreleased number
  cases h with
  | given orderly none =>
      refine ⟨Idle.settled ⟨orderly, none⟩, ?_⟩
      simp only [unreleased, givenCount, none, List.count_singleton_self, Nat.lt_succ_self,
        if_true] at counted
      omega

end Ledger

theorem Ledger.idle_nil : Ledger.Idle [] := ⟨.blank, rfl⟩

/-- Along a run on the terms of a ledger that was empty at its start, the ledger is in order. -/
theorem Ledger.orderly_of_run {rests : Ledger → Prop} {α : Type}
    {post : α → World (σ × Ledger) → Prop} {task left : Task (σ × Ledger) Event α}
    (abides : task.Abides (Ledger.lending rests) post world) (blank : world.back = [])
    (run : Task.Run World.SameBack task world moments left after) : after.back.Orderly := by
  refine abides.keeps_of_run run (fun _ _ _ orderly => orderly) (fun _ _ orderly same => ?_) ?_
  · rwa [show _ = _ from same]
  · rw [blank]
    exact .blank

theorem RetryPolicy.released_of_run {left : Task (σ × Ledger) Event (ExchangeResult (σ × Ledger))}
    (serves : execute.Serves (Ledger.lending Ledger.Idle) Ledger.Lent request.context)
    (blank : world.back = [])
    (run : Task.Run World.SameBack (policy.retrying sink execute request) world moments left after) :
    policy.Released moments left after := by
  have idle : world.back.Idle := by
    rw [blank]
    exact Ledger.idle_nil
  have abides : (policy.retrying sink execute request).Abides (Ledger.lending Ledger.Idle)
      (policy.Returned (Ledger.lending Ledger.Idle) Ledger.Lent) world :=
    policy.abides_retrying (Ledger.idling_lending fun _ => id) serves idle
  have orderly := Ledger.orderly_of_run abides blank run
  obtain ⟨rest, told⟩ := abides.of_run run
  refine ⟨orderly.length_unreleased_le, orderly.count_released_le, ?_, ?_, ?_, ?_, ?_⟩
  · intro newer older split
    rw [split] at orderly
    exact orderly.settled_of_handed
  · exact fun moment mem event emitted => (told moment mem event emitted).settled
  · rintro wake held next rfl
    exact rest.1.settled
  · rintro error rfl
    exact Ledger.Idle.settled rest.1
  · rintro response rfl
    obtain ⟨⟨-, number, older, last, release⟩, answers⟩ := rest
    rw [last] at orderly
    obtain ⟨settled, kept⟩ := orderly.newest
    refine ⟨answers response rfl, number, older, last, settled, ?_, release⟩
    rw [last]
    exact kept

/-- Every response is given up once, whatever policies stand on whatever executors, and whatever the
others do. A retrying call gives up every response but the one that it ends with, each before anything
else happens. A call of a client that has come to an end, in whatever way, has given up all of them. -/
theorem responses_released (run : τ → Executor σ) (stack : Transport τ) :
    let execute := stack.execute fun sender => (run sender).lending
    (∀ (policy : RetryPolicy) (sink : Sink) (request : Request) (world after : World (σ × Ledger))
      (moments : List (Moment (σ × Ledger) Event))
      (left : Task (σ × Ledger) Event (ExchangeResult (σ × Ledger))), world.back = [] →
      Task.Run World.SameBack (policy.retrying sink execute request) world moments left after →
      policy.Released moments left after) ∧
    ∀ (client : Client (σ × Ledger)) (call : Task (σ × Ledger) Event (Except ClientError Reply))
      (world after : World (σ × Ledger)) (moments : List (Moment (σ × Ledger) Event))
      (left : Task (σ × Ledger) Event (Except ClientError Reply)), client.execute = execute →
      client.Call call → world.back = [] → Task.Run World.SameBack call world moments left after →
      after.back.unreleased.length ≤ 1 ∧ (∀ number, after.back.count (.released number) ≤ 1) ∧
        ∀ result, left = .done result → after.back.Settled := by
  intro execute
  have serves : ∀ (rests : Ledger → Prop) (context : Context),
      (∀ ledger : Ledger, ledger.Idle → rests ledger) →
      execute.Serves (Ledger.lending rests) Ledger.Lent context :=
    fun rests context free => Transport.serves_execute (Ledger.idling_lending free)
      (fun sender => Ledger.serves_lending free (run sender) context) stack
  refine ⟨?_, ?_⟩
  · intro policy sink request world after moments left blank run
    exact policy.released_of_run (serves _ _ fun _ => id) blank run
  · intro client call world after moments left executes isCall blank run
    -- A call of a client also rests while it reads the response that it was given.
    have free : ∀ ledger : Ledger, ledger.Idle → True := fun _ _ => trivial
    have idle : world.back.Idle := by
      rw [blank]
      exact Ledger.idle_nil
    have abides : call.Abides (Ledger.lending fun _ => True) (fun _ world => world.back.Idle) world :=
      isCall.abides (Ledger.idling_lending free) (fun _ _ _ => trivial)
        (by rw [executes]; exact serves _ _ free) idle
    have orderly := Ledger.orderly_of_run abides blank run
    refine ⟨orderly.length_unreleased_le, orderly.count_released_le, ?_⟩
    rintro result rfl
    exact Ledger.Idle.settled (abides.of_run run).1

theorem World.sameBack_allowsWaiting : Task.AllowsWaiting (World.SameBack (σ := σ) (γ := Ledger)) where
  still _ := rfl
  wait _ _ _ := rfl

/-- A call to a site that is overloaded once gives up both responses. The retrying call in it gives up
the first one only. -/
theorem released_recovering :
    let world := Site.recoveringWorld.beside ([] : Ledger)
    let execute := RetryPolicy.default.retrying .tracing Site.recoveringExecutor.lending
    let retrying := execute (.toSite none ⟨0, none⟩)
    let call := (Client.mk ⟨0, none⟩ execute).get "site:status"
    (retrying.course world).world.back =
      [.given 1 ⟨200⟩, .handed, .released 0, .given 0 ⟨503⟩, .handed] ∧
    (∀ moment ∈ retrying.moments world, ∀ event, moment.event = some event →
      moment.world.back.Settled) ∧
    (call.course world).world.back =
      [.released 1, .given 1 ⟨200⟩, .handed, .released 0, .given 0 ⟨503⟩, .handed] ∧
    (call.course world).world.back.Settled := by
  have plain := responses_released (fun _ : Unit => Site.recoveringExecutor) (.base ())
  have stacked := responses_released (fun _ : Unit => Site.recoveringExecutor)
    (.retrying .default .tracing (.base ()))
  exact ⟨by decide +kernel,
    (plain.1 .default .tracing _ _ _ _ _ rfl (Task.run_moments World.sameBack_allowsWaiting rfl)).told,
    by decide +kernel,
    (stacked.2 _ _ _ _ _ _ rfl .get rfl
      (Task.run_moments World.sameBack_allowsWaiting rfl)).2.2 _ rfl⟩

end ResilientHttp

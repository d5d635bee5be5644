import ResilientHttp.Proofs.Journal
import ResilientHttp.Proofs.Retry.Terms

/-!
What a call does while it is idle. Terms that a retrying call keeps say in which worlds it is idle; here
it is shown that it asks its executor for something only then, and that it ends if the executor answers
whoever asks it in such a world.

* `Terms.recorded` — the same terms beside a journal, by which every request is handed over in a world in
  which the call is idle and its context has not ended.
* `RetryPolicy.handedIdly_of_run` — so it is in every run.
* `RetryPolicy.returns_of_idle` — a call that is alone ends.
-/

namespace ResilientHttp

variable {σ ε α β : Type}

/-! ### Beside a journal -/

/-- Every request was handed over while the call was idle and its context had not ended. -/
def Journal.HandedIdly (terms : Terms σ Event) (journal : Journal σ) : Prop :=
  ∀ entry ∈ journal.handed, terms.leaves entry.1 ∧ entry.2.context.endedIn? entry.1 = none

/-- Terms beside a journal that tells of requests that were handed over while the call was idle. -/
def Terms.recorded (terms : Terms σ Event) : Terms (Noted σ) Event where
  rely world later := later.journal = world.journal ∧ terms.rely world.plain later.plain
  guar world after := world.journal.HandedIdly terms → after.journal.HandedIdly terms
  tells event world := terms.tells event world.plain
  rests world := terms.rests world.plain
  leaves world := terms.leaves world.plain

/-- A response beside a journal is owed as it is without. -/
def Response.OwedNoted (owed : Response σ Event → World σ → Prop) (response : Response (Noted σ) Event)
    (world : World (Noted σ)) : Prop :=
  ∃ plain : Response σ Event, response = plain.noted ∧ owed plain world.plain

section Recorded

variable {terms : Terms σ Event} {owed : Response σ Event → World σ → Prop} {context : Context}
  {base : Executor σ}

theorem Cleanup.Leaves.noted {held : Cleanup σ Event} {world : World (Noted σ)}
    (h : held.Leaves terms world.plain) : held.noted.Leaves terms.recorded world :=
  ⟨id, h.tells, h.leaves⟩

/-- Beside a journal a task keeps the terms that it keeps without. -/
theorem Task.Abides.noted {task : Task σ Event α} {post : α → World σ → Prop} {world : World σ}
    (h : task.Abides terms post world) (journal : Journal σ) :
    task.noted.Abides terms.recorded (fun value after => post value after.plain)
      (world.noted journal) := by
  induction task generalizing world journal with
  | done value => exact h
  | look next ih => exact ih world h journal
  | change act next ih => exact ⟨id, ih world h.2 journal⟩
  | emit event next ih => exact ⟨h.1, ih h.2 journal⟩
  | rest wake held next ih =>
      refine ⟨h.1, fun later hrely => ?_⟩
      obtain ⟨leaves, goesOn⟩ := h.2 later.plain hrely.2
      exact ⟨leaves.noted, fun due => ih (goesOn due) later.journal⟩
  | panic reason => exact h

theorem Terms.Idling.recorded (idling : terms.Idling owed) :
    terms.recorded.Idling (Response.OwedNoted owed) where
  stays world later idle hrely := idling.stays world.plain later.plain idle hrely.2
  still _ _ := id
  tells event world idle := idling.tells event world.plain idle
  rests world idle := idling.rests world.plain idle
  waits := by
    rintro response world later ⟨plain, rfl, isOwed⟩ hrely
    exact ⟨plain, rfl, idling.waits plain world.plain later.plain isOwed hrely.2⟩
  gives := by
    rintro response world ⟨plain, rfl, isOwed⟩
    exact (idling.gives plain world.plain isOwed).noted

/-- What is handed over is handed over while the call is idle. -/
theorem Executor.Serves.recorded (serves : base.Serves terms owed context) :
    base.recording.Serves terms.recorded (Response.OwedNoted owed) context := by
  rintro request world rfl idle live
  have exchange := (serves request world.plain rfl idle live).noted
    (world.journal.hand world.plain request)
  refine ⟨fun handed => List.forall_mem_append.mpr ⟨handed, ?_⟩, .bind (exchange.mono ?_)⟩
  · exact List.forall_mem_singleton.mpr ⟨idle, live⟩
  · intro outcome after settles
    refine ⟨id, ?_⟩
    cases outcome with
    | error error => exact settles
    | ok response => exact ⟨response, rfl, settles⟩

/-- In every run of a call among others that keep to its terms, all requests are handed over while the
call is idle. -/
theorem RetryPolicy.handedIdly_of_run {policy : RetryPolicy} {sink : Sink} {request : Request}
    {world after : World (Noted σ)} {moments : List (Moment (Noted σ) Event)}
    {left : Task (Noted σ) Event (ExchangeResult (Noted σ))} (idling : terms.Idling owed)
    (serves : base.Serves terms owed request.context) (idle : terms.leaves world.plain)
    (fresh : world.journal = .empty)
    (run : Task.Run terms.recorded.rely (policy.retrying sink base.recording request) world moments left
      after) :
    after.journal.HandedIdly terms := by
  have abides : (policy.retrying sink base.recording request).Abides terms.recorded
      (policy.Returned terms.recorded (Response.OwedNoted owed)) world :=
    policy.abides_retrying idling.recorded serves.recorded idle
  refine abides.keeps_of_run run (fun _ _ handed guar => guar handed) (fun _ _ handed hrely => ?_) ?_
  · rw [hrely.1]
    exact handed
  · rw [fresh]
    exact List.forall_mem_nil _

end Recorded

/-! ### Alone -/

section Alone

variable {terms : Terms σ Event} {owed : Response σ Event → World σ → Prop} {world : World σ}

/-- A task that is followed by another one ends if the other one does wherever the first may lead by its
terms. -/
theorem Task.Returns.bind_of_abides {terms : Terms σ ε} {task : Task σ ε α} {f : α → Task σ ε β}
    {post : α → World σ → Prop} (waiting : AllowsWaiting terms.rely) (returns : task.Returns world)
    (abides : task.Abides terms post world)
    (next : ∀ value after, post value after → (f value).Returns after) : (task.bind f).Returns world := by
  obtain ⟨value, returned⟩ := returns
  obtain ⟨ends, -⟩ := abides.of_run (run_moments waiting returned)
  obtain ⟨result, later⟩ := next value _ ends
  exact ⟨result, by simp [course_bind, Course.andThen, returned, later]⟩

namespace RetryPolicy

variable {policy : RetryPolicy} {sink : Sink} {base : Executor σ} {request : Request}
  {octets : Option Octets} {left attempt : Nat} {sent : UInt32} {last : Option Failure} {url : Url}
  (idling : terms.Idling owed) (waiting : Task.AllowsWaiting terms.rely)

include idling waiting

/-- Bound work that is gone on with ends, in a call that is idle before it and when its context ends. -/
theorem returns_bound {task : Task σ Event α} {next : α → Task σ Event (ExchangeResult σ)}
    {post : α → World σ → Prop} (idle : terms.leaves world)
    (returns : request.context.endedIn? world = none → task.Returns world)
    (abides : request.context.endedIn? world = none → task.Abides terms post world)
    (goesOn : ∀ value after, post value after → (next value).Returns after) :
    ((request.context.run .none task).proceed next).Returns world := by
  have bound : (request.context.run .none task).Returns world :=
    request.context.returns_resume .none fun live => request.context.returns_guard (returns live)
  refine bound.bind_of_abides waiting (Context.abides_run (idling.leaves_none idle) abides) ?_
  intro result after ends
  cases result with
  | error ending => exact Task.returns_done _ after
  | ok value => exact goesOn value after ends

theorem returns_afterFailure_of_idle {failure : Failure} {again : Task σ Event (ExchangeResult σ)}
    (h : ∀ after, terms.leaves after → again.Returns after) (idle : terms.leaves world) :
    (policy.afterFailure sink request left attempt url failure again).Returns world := by
  cases left with
  | zero =>
      rw [afterFailure_zero]
      exact h world idle
  | succ left =>
      have wait : ∀ span, ((request.context.run .none (Task.sleep .none span)).proceed
          fun _ => again).Returns world := by
        intro span
        have stays := fun later (hrely : terms.rely world later) => idling.stays world later idle hrely
        have sleeps : (Task.sleep .none span).Abides terms (fun _ => terms.leaves) world :=
          Task.abides_sleep span (idling.rests world idle)
            (fun later hrely => idling.leaves_none (stays later hrely)) idle stays
        exact returns_bound idling waiting idle (fun _ => Task.returns_sleep .none span world)
          (fun _ => sleeps) fun _ => h
      rw [afterFailure_succ, Task.proceed, pause, Task.bind_assoc, logRetry]
      split
      · exact wait _
      · exact wait _

variable (serves : base.Serves terms owed request.context)
  (answers : ∀ sent world, sent.context = request.context → terms.leaves world →
    request.context.endedIn? world = none → (base sent).Returns world)

include serves answers

theorem returns_attempts_of_idle (idle : terms.leaves world) :
    (policy.attempts sink base request octets left attempt sent last).Returns world := by
  induction left generalizing attempt sent last world with
  | zero =>
      rw [attempts_zero]
      exact Task.returns_done _ world
  | succ left ih =>
      rw [attempts_succ]
      have checks : request.context.check.Abides terms (fun _ => terms.leaves) world :=
        Context.abides_check fun _ => idle
      refine (request.context.returns_check world).bind_of_abides waiting checks ?_
      rintro (ending | _) after idle
      · exact Task.returns_done _ after
      dsimp only
      cases policy.target request.url (policy.slot attempt) with
      | error cause => exact ih idle
      | ok url =>
          refine returns_bound idling waiting idle
            (fun live => answers (request.rebind url octets) after rfl idle live)
            (fun live => serves (request.rebind url octets) after rfl idle live) ?_
          intro outcome later settles
          cases terminal : policy.isTerminal outcome with
          | true =>
              rw [settle_of_isTerminal terminal]
              exact Task.returns_done _ later
          | false =>
              rw [settle_of_not_isTerminal terminal]
              cases outcome with
              | error error => exact returns_afterFailure_of_idle idling waiting (fun _ => ih) settles
              | ok response =>
                  have gives := idling.gives response later settles
                  have drops : response.drop.Abides terms (fun _ => terms.leaves) later :=
                    Task.abides_release gives gives.leaves
                  refine (Task.returns_release response.held later).bind_of_abides waiting drops ?_
                  intro _ given idle
                  exact returns_afterFailure_of_idle idling waiting (fun _ => ih) idle

/-- A call that is alone and idle ends, if every exchange does that begins while it is idle. -/
theorem returns_of_idle (idle : terms.leaves world) :
    (policy.retrying sink base request).Returns world := by
  have start : ∀ octets after, terms.leaves after →
      (policy.attempts sink base (request.withBody none) octets (policy.maxAttempts.toNat + 1) 0 0
        none).Returns after :=
    fun octets after idle => returns_attempts_of_idle idling waiting serves answers idle
  cases hbody : request.body with
  | none =>
      rw [retrying_of_none hbody]
      exact start none world idle
  | some body =>
      rw [retrying_of_some hbody]
      have reads : (body.collect .none).Abides terms (fun _ => terms.leaves) world :=
        Body.abides_collect terms.leaves idling.stays idling.rests (fun _ => idling.leaves_none) body
          idle
      refine returns_bound idling waiting idle (fun _ => body.returns_collect .none world)
        (fun _ => reads) ?_
      intro read after idle
      cases read with
      | error fault => exact Task.returns_done _ after
      | ok octets => exact start (some octets) after idle

end RetryPolicy
end Alone
end ResilientHttp

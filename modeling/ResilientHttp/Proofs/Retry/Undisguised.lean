import ResilientHttp.Proofs.Context.Heeding
import ResilientHttp.Proofs.Retry.Report

/-!
The end of a context is never disguised. An error that says that the context has ended ends the call with
that very error, wherever it comes from, and so no error of a call has such an error behind it.

* `Transport.Called.frank`, `Transport.Called.undisguised` — what the reports of a stack say of errors
  that come from below: the call is over with them, and nothing is sent after them.
* `Transport.heeds_execute` — where a layer itself looks at the context, or is woken from a rest, and the
  context has ended, the call stops with that.
* `Transport.cancellation_undisguised` — both for every run of a call to a stack, seen from any height.
-/

namespace ResilientHttp

variable {σ τ κ α : Type}

/-- The errors behind an error, the nearest first. -/
def ClientError.causes : ClientError → List ClientError
  | .retriesExhausted _ _ (some source) => source :: source.causes
  | _ => []

/-- No error behind this one says that the context has ended. -/
def ClientError.Undisguised (error : ClientError) : Prop :=
  ∀ cause ∈ error.causes, cause.isContextError = false

@[simp] theorem ContextEnd.isContextError_error (ending : ContextEnd) :
    ending.error.isContextError = true := by
  cases ending <;> rfl

theorem ContextEnd.undisguised_error (ending : ContextEnd) : ending.error.Undisguised := by
  cases ending <;> exact List.forall_mem_nil _

/-! ### What comes from below -/

/-- An outcome says that the context has ended. -/
def ExchangeResult.Ends : ExchangeResult σ → Prop
  | .ok _ => False
  | .error error => error.isContextError = true

/-- A report is frank if an outcome that says that the context has ended is the result of the call, with
nothing sent after it. -/
structure Report.Frank (requests : List Request) (outcomes : List (ExchangeResult σ))
    (result : Option (ExchangeResult σ)) : Prop where
  settled : ∀ outcome, result = some outcome → ¬ outcome.Ends → outcomes.length = requests.length
  returned : ∀ outcome ∈ outcomes, outcome.Ends →
    result = some outcome ∧ outcomes.getLast? = some outcome ∧ outcomes.length = requests.length

theorem Report.frank_nothing (result : Option (ExchangeResult σ)) : Report.Frank [] [] result :=
  ⟨fun _ _ _ => rfl, List.forall_mem_nil _⟩

namespace RetryPolicy

variable {policy : RetryPolicy} {below : Request → Report σ} {ended : ContextEnd → Prop}
  {request : Request} {octets : Option Octets} {left attempt : Nat} {sent : UInt32}
  {last : Option Failure} {requests : List Request} {outcomes : List (ExchangeResult σ)}
  {result : Option (ExchangeResult σ)}

theorem not_ends_of_not_isTerminal {outcome : ExchangeResult σ}
    (h : policy.isTerminal outcome = false) : ¬ outcome.Ends := by
  cases outcome with
  | ok response => exact id
  | error error =>
      intro ends
      cases ends.symm.trans h

/-- The reports of a loop are frank if those of the layer below are. -/
theorem Attempted.frank
    (each : ∀ url requests outcomes result, below (request.rebind url octets) requests outcomes result →
      Report.Frank requests outcomes result)
    (h : policy.Attempted below ended request octets left attempt sent last requests outcomes result) :
    Report.Frank requests outcomes result := by
  induction h with
  | underway | exhausted | ended => exact Report.frank_nothing _
  | skipped _ _ ih => exact ih
  | exchanging _ told | terminal _ told _ => exact each _ _ _ _ told
  | @abandoned _ _ _ _ _ _ _ ending _ told _ =>
      refine ⟨?_, fun outcome mem ends => ?_⟩
      · rintro outcome ⟨⟩ ends
        exact absurd ending.isContextError_error ends
      · obtain ⟨⟨⟩, -⟩ := (each _ _ _ _ told).returned outcome mem ends
  | failed _ told notTerminal _ ih =>
      have failed := not_ends_of_not_isTerminal notTerminal
      have lengths := (each _ _ _ _ told).settled _ rfl failed
      refine ⟨fun outcome closed ends => ?_, fun outcome mem ends => ?_⟩
      · rw [List.length_append, List.length_append, lengths, ih.settled outcome closed ends]
      · rcases List.mem_append.mp mem with early | late
        · obtain ⟨⟨⟩, -⟩ := (each _ _ _ _ told).returned outcome early ends
          exact absurd ends failed
        · obtain ⟨closed, final, paired⟩ := ih.returned outcome late ends
          refine ⟨closed, ?_, by rw [List.length_append, List.length_append, lengths, paired]⟩
          rw [List.getLast?_append, final]
          rfl

theorem undisguised_exhausted (remembered : ∀ error, last = some (.failed error) →
    error.isContextError = false ∧ error.Undisguised) :
    (Failure.exhausted sent last).Undisguised := by
  cases last with
  | none => exact List.forall_mem_nil _
  | some failure =>
      cases failure with
      | answered status => exact List.forall_mem_nil _
      | failed error => exact List.forall_mem_cons.mpr (remembered error rfl)

/-- If the errors that come from below hide nothing, the error of a loop hides nothing. -/
theorem Attempted.undisguised
    (each : ∀ url requests outcomes result, below (request.rebind url octets) requests outcomes result →
      (∀ error, .error error ∈ outcomes → error.Undisguised) →
      ∀ error, result = some (.error error) → error.Undisguised)
    (remembered : ∀ error, last = some (.failed error) →
      error.isContextError = false ∧ error.Undisguised)
    (h : policy.Attempted below ended request octets left attempt sent last requests outcomes result)
    (hides : ∀ error, .error error ∈ outcomes → error.Undisguised) (error : ClientError)
    (closed : result = some (.error error)) : error.Undisguised := by
  induction h with
  | underway | exchanging => cases closed
  | exhausted =>
      cases closed
      exact undisguised_exhausted remembered
  | @ended _ _ _ _ ending _ | @abandoned _ _ _ _ _ _ _ ending _ _ _ =>
      cases closed
      exact ending.undisguised_error
  | skipped _ _ ih => exact ih remembered hides closed
  | terminal _ told _ => exact each _ _ _ _ told hides error closed
  | @failed _ _ _ _ _ _ _ _ _ outcome _ _ told notTerminal _ ih =>
      refine ih (fun source failed => ?_) (fun other mem => hides other ?_) closed
      · cases outcome with
        | ok response => cases failed
        | error source' =>
            cases failed
            have hidden := fun other mem => hides other (List.mem_append_left _ mem)
            exact ⟨notTerminal, each _ _ _ _ told hidden _ rfl⟩
      · exact List.mem_append_right _ mem

end RetryPolicy

namespace Transport

variable {stack : Transport τ} {ended : ContextEnd → Prop} {request : Request}
  {requests : List Request} {outcomes : List (ExchangeResult σ)} {result : Option (ExchangeResult σ)}

/-- The reports of a stack are frank. -/
theorem Called.frank (h : stack.Called ended request requests outcomes result) :
    Report.Frank requests outcomes result := by
  induction stack generalizing request requests outcomes result with
  | base sender =>
      cases h with
      | before => exact Report.frank_nothing _
      | underway =>
          refine ⟨?_, List.forall_mem_nil _⟩
          rintro outcome ⟨⟩
      | answered =>
          refine ⟨fun _ _ _ => rfl, List.forall_mem_singleton.mpr fun _ => ?_⟩
          exact ⟨rfl, rfl, rfl⟩
  | retrying policy sink inner ih =>
      cases h with
      | reading | ended | unreadable => exact Report.frank_nothing _
      | attempted _ h => exact h.frank fun _ _ _ _ told => ih told

/-- If the errors that reach a stack hide nothing, the error of the call hides nothing. -/
theorem Called.undisguised (h : stack.Called ended request requests outcomes result)
    (hides : ∀ error, .error error ∈ outcomes → error.Undisguised) (error : ClientError)
    (closed : result = some (.error error)) : error.Undisguised := by
  induction stack generalizing request requests outcomes result error with
  | base sender =>
      cases h with
      | before | underway => cases closed
      | answered =>
          cases closed
          exact hides error (List.mem_singleton.mpr rfl)
  | retrying policy sink inner ih =>
      cases h with
      | reading => cases closed
      | @ended ending _ =>
          cases closed
          exact ending.undisguised_error
      | unreadable =>
          cases closed
          exact List.forall_mem_nil _
      | attempted _ h =>
          refine h.undisguised (fun _ _ _ _ told hides error closed => ih told hides error closed) ?_ hides
            error closed
          rintro error ⟨⟩

end Transport

/-! ### What a layer sees for itself -/

/-- After an exchange none is under way, unless the context has ended it, and a response that came of it
has no say in the journal. -/
def ExchangeResult.Concluded : ExchangeResult (Noted σ) → World (Noted σ) → Prop
  | .ok response, world => world.journal.Settled ∧ response.held.Keeps World.SameJournal
  | .error error, world => error.isContextError = false → world.journal.Settled

/-- A call heeds the end of its context: it stops with that where it looks. -/
def Task.Obeys (context : Context) (guarded : Prop)
    (call : Task (Noted σ) Event (ExchangeResult (Noted σ))) (world : World (Noted σ)) : Prop :=
  call.Heeds context guarded (fun ending outcome => outcome = .error ending.error)
    ExchangeResult.Concluded world

/-- The exchanges of an executor heed the end of a context, if none is under way before. -/
def Executor.Heeds (context : Context) (guarded : Prop) (base : Executor (Noted σ)) : Prop :=
  ∀ request world, request.context = context → world.journal.Settled →
    (base request).Obeys context guarded world

/-- In an exchange that is recorded there is no look of the call itself. -/
theorem Executor.heeds_recording (base : Executor σ) (context : Context) :
    base.recording.Heeds context False := by
  intro request world _ settled
  have requests := world.journal.requests_hand world.plain request
  have underway : ¬ (world.plain.noted (world.journal.hand world.plain request)).journal.Settled := by
    intro h
    rw [World.journal_noted, Journal.Settled, Journal.outcomes_hand, requests, List.length_append,
      List.length_singleton, settled] at h
    omega
  refine Task.Heeds.bind (((base request).heeds_noted underway).mono id ?_) fun _ _ => False.elim
  intro outcome after same
  have answered : (after.journal.answer after.plain outcome).Settled := by
    rw [Journal.Settled, Journal.outcomes_answer, Journal.requests_answer, same, World.journal_noted,
      Journal.outcomes_hand, requests, List.length_append, List.length_append, settled]
    rfl
  cases outcome with
  | error error => exact fun _ => answered
  | ok response => exact ⟨answered, response.held.keeps_noted⟩

namespace RetryPolicy

variable {policy : RetryPolicy} {sink : Sink} {base : Executor (Noted σ)} {request : Request}
  {context : Context} {guarded : Prop} {world : World (Noted σ)} {octets : Option Octets}
  {left attempt : Nat} {sent : UInt32} {last : Option Failure} {url : Url}

theorem obeys_ended (ending : ContextEnd) :
    (Task.done (.error ending.error)).Obeys context guarded world := by
  intro plain
  rw [ending.isContextError_error] at plain
  cases plain

/-- Bound work that is gone on with heeds the end of its context if both parts do. -/
theorem obeys_proceed {bound : Task (Noted σ) Event (Except ContextEnd α)}
    {halted : ContextEnd → α → Prop} {next : α → Task (Noted σ) Event (ExchangeResult (Noted σ))}
    (h : bound.Heeds context True (Context.Halted halted)
      (Context.Finished fun value after => (next value).Obeys context True after) world)
    (done : ∀ ending value, halted ending value → next value = .done (.error ending.error)) :
    (bound.proceed next).Obeys context True world := by
  refine .bind (h.mono id fun result after finished => ?_) fun ending result isHalted => ?_
  · cases result with
    | error other => exact obeys_ended other
    | ok value => exact finished
  · cases result with
    | error other =>
        cases isHalted
        exact ⟨_, rfl, rfl⟩
    | ok value => exact ⟨_, done ending value isHalted, rfl⟩

theorem still_none :
    (Cleanup.none : Cleanup (Noted σ) Event).Keeps fun world after => after = world :=
  fun _ => rfl

/-- Bound work that changes nothing heeds the end of its context. -/
theorem obeys_still {task : Task (Noted σ) Event α} {good : α → Prop}
    {next : α → Task (Noted σ) Event (ExchangeResult (Noted σ))}
    (keeps : task.Keeps (fun world after => after = world) good)
    (goesOn : ∀ value after, good value → after.journal = world.journal →
      (next value).Obeys context True after) :
    ((context.run .none task).proceed next).Obeys context True world := by
  refine obeys_proceed
    (Context.heeds_resume (Cleanup.keeps_none World.sameJournal_refl) fun live =>
      (Context.heeds_guard_still keeps live).mono id fun result after finished => ?_)
    fun _ _ => False.elim
  cases result with
  | error ending => trivial
  | ok value => exact goesOn value after finished.1 finished.2

theorem obeys_afterFailure {failure : Failure}
    {again : Task (Noted σ) Event (ExchangeResult (Noted σ))}
    (h : ∀ after, after.journal.Settled → again.Obeys request.context True after)
    (settled : world.journal.Settled) :
    (policy.afterFailure sink request left attempt url failure again).Obeys request.context True
      world := by
  cases left with
  | zero =>
      rw [afterFailure_zero]
      exact h world settled
  | succ left =>
      have wait : ∀ span, ((request.context.run .none (Task.sleep .none span)).proceed
          fun _ => again).Obeys request.context True world := by
        intro span
        refine obeys_still (Task.keeps_sleep still_none span) fun _ after _ same => h after ?_
        rwa [same]
      rw [afterFailure_succ, Task.proceed, pause, Task.bind_assoc, logRetry]
      split
      · exact wait _
      · exact wait _

theorem obeys_settle {again : Failure → Task (Noted σ) Event (ExchangeResult (Noted σ))}
    {outcome : ExchangeResult (Noted σ)}
    (h : ∀ failure after, after.journal.Settled → (again failure).Obeys request.context True after)
    (concluded : outcome.Concluded world) :
    (policy.settle sink request left attempt url again outcome).Obeys request.context True world := by
  cases terminal : policy.isTerminal outcome with
  | true =>
      rw [settle_of_isTerminal terminal]
      exact concluded
  | false =>
      rw [settle_of_not_isTerminal terminal]
      refine .bind ?_ fun _ _ => False.elim
      cases outcome with
      | error error => exact obeys_afterFailure (h _) (concluded terminal)
      | ok response =>
          obtain ⟨settled, keeps⟩ := concluded
          refine Task.heeds_emitAll _ (obeys_afterFailure (h _) ?_)
          have same : (response.held.effect world).journal = world.journal := keeps world
          rwa [same]

/-- The attempts of a call heed the end of its context. -/
theorem obeys_attempts (heeds : base.Heeds request.context guarded) (settled : world.journal.Settled) :
    (policy.attempts sink base request octets left attempt sent last).Obeys request.context True
      world := by
  induction left generalizing attempt sent last world with
  | zero =>
      rw [attempts_zero]
      exact fun _ => settled
  | succ left ih =>
      rw [attempts_succ]
      refine obeys_proceed (Context.heeds_check ?_) fun _ _ => False.elim
      cases policy.target request.url (policy.slot attempt) with
      | error cause => exact ih settled
      | ok url =>
          have exchange := heeds (request.rebind url octets) world rfl settled
          refine obeys_proceed
            (Context.heeds_resume (Cleanup.keeps_none World.sameJournal_refl) fun _ =>
              (Context.heeds_guard exchange).mono id fun result after finished => ?_) ?_
          · cases result with
            | error ending => trivial
            | ok outcome => exact obeys_settle (fun _ _ => ih) finished
          · rintro ending _ rfl
            exact settle_of_isTerminal ending.isContextError_error

/-- A retrying executor heeds the end of a context if the executor that it stands on does, and all of its
rests are guarded. -/
theorem heeds_retrying (policy : RetryPolicy) (sink : Sink) (heeds : base.Heeds context guarded) :
    (policy.retrying sink base).Heeds context True := by
  rintro request world rfl settled
  have bare : base.Heeds (request.withBody none).context guarded := heeds
  cases hbody : request.body with
  | none =>
      rw [retrying_of_none hbody]
      exact obeys_attempts bare settled
  | some body =>
      rw [retrying_of_some hbody]
      refine obeys_still (body.keeps_collect still_none) fun read after _ same => ?_
      have settled : after.journal.Settled := by rwa [same]
      cases read with
      | error fault => exact fun _ => settled
      | ok octets => exact obeys_attempts bare settled

end RetryPolicy

namespace Transport

/-- A stack heeds the end of a context, and all its rests are guarded if it has any layer. -/
theorem heeds_execute (run : τ → Executor σ) (context : Context) (stack : Transport τ) :
    (stack.execute fun sender => (run sender).recording).Heeds context (stack.policies ≠ []) := by
  induction stack with
  | base sender =>
      intro request world bound settled
      exact ((run sender).heeds_recording context request world bound settled).mono
        (fun layered => layered rfl) fun _ _ => id
  | retrying policy sink inner ih =>
      intro request world bound settled
      exact (policy.heeds_retrying sink ih request world bound settled).mono (fun _ => trivial)
        fun _ _ => id

/-! ### Calls to a stack -/

/-- How a call stands to the end of its context. An error of the call says itself that the context has
ended, or none behind it does, if so it is with the errors that have come from below. An error from below
that says so is the error of the call, with no further request. Where the call looks at the context while
no exchange is under way, or is woken from a rest, it is over in the same turn, with no further request,
if the context has ended. -/
structure Forthright (stack : Transport τ) (request : Request)
    (left : Task (Noted σ) Event (ExchangeResult (Noted σ))) (world : World (Noted σ)) : Prop where
  undisguised : (∀ error, .error error ∈ world.journal.outcomes → error.Undisguised) →
    ∀ error, left = .done (.error error) →
      error.isContextError = true ∨ ∀ other ∈ error :: error.causes, other.isContextError = false
  returned : ∀ error, error.isContextError = true → .error error ∈ world.journal.outcomes →
    left = .done (.error error) ∧ world.journal.outcomes.getLast? = some (.error error) ∧
      world.journal.outcomes.length = world.journal.requests.length
  looked : ∀ ending next, world.journal.Settled → request.context.endedIn? world = some ending →
    left = .look next → left.Stops (fun outcome => outcome = .error ending.error) world
  woken : stack.policies ≠ [] → ∀ ending later wake held next, left = .rest wake held next →
    World.Alongside world later → request.context.endedIn? later = some ending →
    wake.isDue later = true ∧ next.Stops (fun outcome => outcome = .error ending.error) later

section Calls

variable (run : τ → Executor σ) (below : κ → Transport τ) (outer : Transport κ) (request : Request)

theorem forthright_of_run (run : κ → Executor σ) {world after : World (Noted σ)}
    {moments : List (Moment (Noted σ) Event)} {left : Task (Noted σ) Event (ExchangeResult (Noted σ))}
    (fresh : world.journal = .empty)
    (runs : Task.Run World.Alongside (outer.execute (fun place => (run place).recording) request) world
      moments left after) :
    outer.Forthright request left after := by
  have settled : world.journal.Settled := by rw [fresh]; rfl
  have heeds := (outer.heeds_execute run request.context request world rfl settled).of_run runs
  obtain ⟨result, done, told⟩ := called_of_run (fun _ => True) fresh runs fun _ _ => trivial
  constructor
  · rintro hides error rfl
    have closed : result = some (.error error) := by
      rcases result with _ | error' | response <;> cases done
      rfl
    have hidden := told.undisguised hides error closed
    cases plain : error.isContextError with
    | true => exact .inl rfl
    | false => exact .inr (List.forall_mem_cons.mpr ⟨plain, hidden⟩)
  · intro error ends mem
    obtain ⟨rfl, final, paired⟩ := told.frank.returned _ mem ends
    exact ⟨Task.eq_done_of_result? done, final, paired⟩
  · rintro ending next quiet ended rfl
    exact heeds.1 quiet ending ended
  · rintro layered ending later wake held next rfl beside ended
    exact ((heeds.2 later beside).1 layered ending ended)

/-- The end of a context is never disguised. Wherever a stack is cut in two, the recorded call is the call
itself with a journal written at the cut, and in every run it stands to the end of its context as it
should. -/
theorem cancellation_undisguised :
    Task.Recorded (Except.map Response.noted) ((outer.onto below).execute run request)
      (outer.execute (fun place => ((below place).execute run).recording) request) ∧
    ∀ (world after : World (Noted σ)) (moments : List (Moment (Noted σ) Event))
      (left : Task (Noted σ) Event (ExchangeResult (Noted σ))), world.journal = .empty →
      Task.Run World.Alongside
        (outer.execute (fun place => ((below place).execute run).recording) request) world moments left
        after →
      outer.Forthright request left after := by
  constructor
  · rw [execute_onto]
    exact outer.recordedBy_execute _ request
  · intro world after moments left fresh runs
    exact outer.forthright_of_run request _ fresh runs

end Calls

/-! ### A call that is cancelled from below -/

/-- A place that cancels what it is asked for, and then fails. -/
def cancelling : Unit → Executor Unit := fun _ request =>
  .change (fun world => { world with tokens := world.tokens.cancel request.context.token }) fun _ =>
    .done (.error (.connection "reset"))

/-- One layer of two attempts. -/
def twice : Transport Unit := .retrying (.constant 1 .zero) .tracing (.base ())

/-- Two layers of two attempts each make one request, and the call was cancelled. -/
theorem cancellation_undisguised_twice :
    let request := Request.toSite none ⟨0, none⟩
    let course := (twice.execute (fun _ => (twice.execute cancelling).recording) request).course
      (quietWorld.noted .empty)
    course.outcome = .value (.error .cancelled) ∧ course.world.journal.requests.length = 1 ∧
      twice.Forthright request (.done (.error .cancelled)) course.world := by
  intro request course
  have closed : course.outcome = .value (.error .cancelled) := rfl
  refine ⟨closed, by decide +kernel, ?_⟩
  exact (cancellation_undisguised cancelling (fun _ => twice) twice request).2 _ _ _ _ rfl
    (Task.run_moments World.alongside_allowsWaiting closed)

end Transport
end ResilientHttp

import ResilientHttp.Proofs.Retry.Loop

/-!
Recording changes nothing. `Task.Recorded` relates a task to one that does the same and only writes a
journal besides.

* `Recorded.course` — the course is the same one, with the values seen as the other task gives them.
* `recorded_retrying` — a retrying call over a recording executor is related in this way to the call
  over the executor itself, so whatever its journal tells is true of both.
-/

namespace ResilientHttp

variable {σ ε α β γ δ : Type}

/-- An outcome with its value seen in another way. -/
def Outcome.map (view : α → β) : Outcome α → Outcome β
  | .value result => .value (view result)
  | .never => .never
  | .panicked reason => .panicked reason

/-- A course with its value seen in another way. -/
def Course.map (view : α → β) (course : Course σ ε α) : Course σ ε β :=
  ⟨course.events, course.world, course.outcome.map view⟩

/-- A course without its journal. -/
def Course.plain (course : Course (Noted σ) ε α) : Course σ ε α :=
  ⟨course.events, course.world.plain, course.outcome⟩

/-- A moment without its journal. -/
def Moment.plain (moment : Moment (Noted σ) ε) : Moment σ ε := ⟨moment.world.plain, moment.event⟩

namespace Task

/-- The second task does what the first one does, with its values seen through `view`; besides it
makes changes that only touch the journal. -/
inductive Recorded (view : α → β) : Task σ ε α → Task (Noted σ) ε β → Prop where
  | done {value : α} : Recorded view (.done value) (.done (view value))
  | look {next : World σ → Task σ ε α} {next' : World (Noted σ) → Task (Noted σ) ε β} :
      (∀ world, Recorded view (next world.plain) (next' world)) →
      Recorded view (.look next) (.look next')
  | change {act : World σ → World σ} {next : World σ → Task σ ε α}
      {next' : World (Noted σ) → Task (Noted σ) ε β} :
      (∀ world, Recorded view (next world.plain) (next' world)) →
      Recorded view (.change act next) (.change (Noted.act act) next')
  | note {act : World (Noted σ) → World (Noted σ)} {task : Task σ ε α}
      {next' : World (Noted σ) → Task (Noted σ) ε β} :
      (∀ world, (act world).plain = world.plain) → (∀ world, Recorded view task (next' world)) →
      Recorded view task (.change act next')
  | emit {event : ε} {next : Task σ ε α} {next' : Task (Noted σ) ε β} :
      Recorded view next next' → Recorded view (.emit event next) (.emit event next')
  | rest {wake : Wake σ} {held : Cleanup σ ε} {next : Task σ ε α} {next' : Task (Noted σ) ε β} :
      Recorded view next next' →
      Recorded view (.rest wake held next) (.rest wake.noted held.noted next')
  | panic {reason : String} : Recorded view (.panic reason) (.panic reason)

theorem recorded_noted (task : Task σ ε α) : Recorded id task task.noted := by
  induction task with
  | done value => exact .done
  | look next ih => exact .look fun world => ih world.plain
  | change act next ih => exact .change fun world => ih world.plain
  | emit event next ih => exact .emit ih
  | rest wake held next ih => exact .rest ih
  | panic reason => exact .panic

theorem Recorded.bind {view : α → β} {view' : γ → δ} {task : Task σ ε α}
    {task' : Task (Noted σ) ε β} {f : α → Task σ ε γ} {f' : β → Task (Noted σ) ε δ}
    (h : Recorded view task task') (next : ∀ value, Recorded view' (f value) (f' (view value))) :
    Recorded view' (task.bind f) (task'.bind f') := by
  induction h with
  | done => exact next _
  | look _ ih => exact .look ih
  | change _ ih => exact .change ih
  | note keeps _ ih => exact .note keeps ih
  | emit _ ih => exact .emit ih
  | rest _ ih => exact .rest ih
  | panic => exact .panic

theorem Recorded.proceed {view : α → β} {view' : γ → δ} {bound : Task σ ε (Except ContextEnd α)}
    {bound' : Task (Noted σ) ε (Except ContextEnd β)}
    {next : α → Task σ ε (Except ClientError γ)}
    {next' : β → Task (Noted σ) ε (Except ClientError δ)}
    (h : Recorded (Except.map view) bound bound')
    (goesOn : ∀ value, Recorded (Except.map view') (next value) (next' (view value))) :
    Recorded (Except.map view') (bound.proceed next) (bound'.proceed next') := by
  refine h.bind ?_
  intro result
  cases result with
  | error ending => exact .done
  | ok value => exact goesOn value

/-! ### What is seen of it -/

section Seen

variable {view : α → β} {task : Task σ ε α} {task' : Task (Noted σ) ε β}

/-- A recorded task has the course that it has without its journal. -/
theorem Recorded.course (h : Recorded view task task') (world : World (Noted σ)) :
    (task'.course world).plain = (task.course world.plain).map view := by
  induction h generalizing world with
  | done => rfl
  | look _ ih => exact ih world world
  | change _ ih => exact ih world _
  | note keeps _ ih =>
      rename_i act task next' _
      rw [course_change, ih, keeps]
  | emit _ ih => exact congrArg (Course.prepend _) (ih world)
  | rest _ ih =>
      rename_i wake held next next' _
      by_cases due : wake.isDue world.plain = true
      · have alsoDue : wake.noted.isDue world = true := due
        rw [course_rest_of_due due, course_rest_of_due alsoDue]
        exact ih world
      · have notDue : ¬ wake.noted.isDue world = true := due
        cases hinstant : wake.instant with
        | none =>
            rw [course_rest_of_never due hinstant, course_rest_of_never notDue hinstant]
            rfl
        | some instant =>
            rw [course_rest_of_wait due hinstant, course_rest_of_wait notDue hinstant]
            exact ih { world with now := instant }
  | panic => rfl

/-- What holds of the world at each moment holds at each moment of the recorded course. -/
theorem Recorded.forall_moments (h : Recorded view task task') (holds : World σ → Prop)
    (world : World (Noted σ)) (now : ∀ moment ∈ task.moments world.plain, holds moment.world) :
    ∀ moment ∈ task'.moments world, holds moment.world.plain := by
  induction h generalizing world with
  | done => simp [moments]
  | look _ ih =>
      rw [moments, List.forall_mem_cons] at now ⊢
      exact ⟨now.1, ih world world now.2⟩
  | change _ ih => exact ih world _ now
  | note keeps _ ih => exact ih world _ (by rwa [keeps])
  | emit _ ih =>
      rw [moments, List.forall_mem_cons] at now ⊢
      exact ⟨now.1, ih world now.2⟩
  | rest _ ih =>
      rename_i wake held next next' _
      rw [moments] at now ⊢
      by_cases due : wake.isDue world.plain = true
      · have alsoDue : wake.noted.isDue world = true := due
        rw [if_pos due] at now
        rw [if_pos alsoDue]
        exact ih world now
      · have notDue : ¬ wake.noted.isDue world = true := due
        rw [if_neg due] at now
        rw [if_neg notDue]
        have same : wake.noted.instant = wake.instant := rfl
        rw [same]
        cases hinstant : wake.instant with
        | none => simp
        | some instant =>
            rw [hinstant] at now
            exact ih { world with now := instant } now
  | panic => simp [moments]

end Seen
end Task

/-! ### The parts of a call -/

namespace Task

theorem recorded_emitAll (events : List ε) :
    Recorded (σ := σ) id (emitAll events) (emitAll events) := by
  induction events with
  | nil => exact .done
  | cons event later ih => exact .emit ih

theorem recorded_release (held : Cleanup σ ε) :
    Recorded id (release held) (release held.noted) :=
  .change fun _ => recorded_emitAll held.events

theorem recorded_sleep (span : Duration) :
    Recorded id (sleep .none span : Task σ ε Unit) (sleep .none span) := by
  unfold sleep
  split
  · exact .done
  · exact .look fun world => .rest .done

end Task

theorem Body.recorded_collectChunks (read : Octets) (chunks : List Chunk) :
    Task.Recorded id (collectChunks .none read chunks : Task σ ε ChunkResult)
      (collectChunks .none read chunks) := by
  induction chunks generalizing read with
  | nil => exact .done
  | cons chunk later ih =>
      cases chunk with
      | data octets => exact ih _
      | fault error => exact .done
      | pause span => exact (Task.recorded_sleep span).bind fun _ => ih read

theorem Body.recorded_collect (body : Body) :
    Task.Recorded id (body.collect .none : Task σ ε ChunkResult) (body.collect .none) := by
  cases body with
  | full octets => exact .done
  | stream chunks => exact recorded_collectChunks [] chunks

namespace Context

variable {view : α → β} {task : Task σ ε α} {task' : Task (Noted σ) ε β}

theorem recorded_resume (context : Context) {held : Cleanup σ ε}
    {next : Task σ ε (Except ContextEnd α)} {next' : Task (Noted σ) ε (Except ContextEnd β)}
    (h : Task.Recorded (Except.map view) next next') :
    Task.Recorded (Except.map view) (context.resume held next)
      (context.resume held.noted next') := by
  refine .look ?_
  intro world
  have same : context.endedIn? world = context.endedIn? world.plain := rfl
  rw [same]
  cases context.endedIn? world.plain with
  | none => exact h
  | some ending => exact (Task.recorded_release held).bind fun _ => .done

theorem recorded_guard (context : Context) (h : Task.Recorded view task task') :
    Task.Recorded (Except.map view) (context.guard task) (context.guard task') := by
  induction h with
  | done => exact .done
  | look _ ih => exact .look ih
  | change _ ih => exact .change ih
  | note keeps _ ih => exact .note keeps ih
  | emit _ ih => exact .emit ih
  | rest _ ih => exact .rest (recorded_resume context ih)
  | panic => exact .panic

theorem recorded_run (context : Context) (h : Task.Recorded view task task') :
    Task.Recorded (Except.map view) (context.run .none task) (context.run .none task') :=
  recorded_resume context (recorded_guard context h)

theorem recorded_check (context : Context) :
    Task.Recorded (Except.map id) (context.check : Task σ ε (Except ContextEnd Unit))
      context.check := by
  refine .look ?_
  intro world
  have same : context.endedIn? world = context.endedIn? world.plain := rfl
  rw [same]
  cases context.endedIn? world.plain with
  | none => exact .done
  | some ending => exact .done

end Context

/-- Each exchange of the second executor is one of the first with a journal written besides. -/
def Executor.RecordedBy (base : Executor σ) (base' : Executor (Noted σ)) : Prop :=
  ∀ request, Task.Recorded (Except.map Response.noted) (base request) (base' request)

/-- An exchange comes to the same, with a journal or without. -/
theorem Executor.recorded_recording (base : Executor σ) : base.RecordedBy base.recording := by
  intro request
  have answered : ∀ outcome : ExchangeResult σ,
      Task.Recorded (Except.map Response.noted) (.done outcome : Task σ Event (ExchangeResult σ))
        (.change (fun world : World (Noted σ) =>
          world.plain.noted (world.journal.answer world.plain outcome))
          fun _ => .done (outcome.map Response.noted)) :=
    fun _ => .note (fun _ => rfl) fun _ => .done
  rw [← Task.bind_done (base request)]
  exact .note (fun _ => rfl) fun _ => (Task.recorded_noted (base request)).bind answered

namespace RetryPolicy

variable {policy : RetryPolicy} {sink : Sink} {base : Executor σ} {request : Request}

theorem recorded_logRetry (record : LogRecord) :
    Task.Recorded id (policy.logRetry sink record : Task σ Event Unit)
      (policy.logRetry sink record) := by
  unfold logRetry
  split
  · exact .emit .done
  · exact .done

theorem recorded_discard (outcome : ExchangeResult σ) :
    Task.Recorded id outcome.discard
      (ExchangeResult.discard (outcome.map Response.noted)) := by
  cases outcome with
  | error error => exact .done
  | ok response => exact Task.recorded_release response.held

theorem recorded_pause (attempt : Nat) (url : Url) (failure : Failure) :
    Task.Recorded (Except.map id)
      (policy.pause sink request attempt url failure : Task σ Event (Except ContextEnd Unit))
      (policy.pause sink request attempt url failure) :=
  (recorded_logRetry _).bind fun _ => request.context.recorded_run (Task.recorded_sleep _)

theorem recorded_afterFailure {left attempt : Nat} {url : Url} {failure : Failure}
    {again : Task σ Event (ExchangeResult σ)} {again' : Task (Noted σ) Event (ExchangeResult (Noted σ))}
    (h : Task.Recorded (Except.map Response.noted) again again') :
    Task.Recorded (Except.map Response.noted)
      (policy.afterFailure sink request left attempt url failure again)
      (policy.afterFailure sink request left attempt url failure again') := by
  cases left with
  | zero =>
      rw [afterFailure_zero, afterFailure_zero]
      exact h
  | succ left =>
      rw [afterFailure_succ, afterFailure_succ]
      exact (recorded_pause attempt url failure).proceed fun _ => h

section Attempts

variable {base' : Executor (Noted σ)} (related : base.RecordedBy base')

include related

theorem recorded_attempts (octets : Option Octets) (left attempt : Nat) (sent : UInt32)
    (last : Option Failure) :
    Task.Recorded (Except.map Response.noted)
      (policy.attempts sink base request octets left attempt sent last)
      (policy.attempts sink base' request octets left attempt sent last) := by
  induction left generalizing attempt sent last with
  | zero =>
      rw [attempts_zero, attempts_zero]
      exact .done
  | succ left ih =>
      rw [attempts_succ, attempts_succ]
      refine request.context.recorded_check.proceed fun _ => ?_
      cases policy.target request.url (policy.slot attempt) with
      | error cause => exact .emit (ih _ _ _)
      | ok url =>
          refine (request.context.recorded_run (related _)).proceed ?_
          intro outcome
          cases terminal : policy.isTerminal outcome with
          | true =>
              rw [settle_of_isTerminal terminal, settle_of_isTerminal (by simpa using terminal)]
              exact .done
          | false =>
              rw [settle_of_not_isTerminal terminal,
                settle_of_not_isTerminal (by simpa using terminal), Failure.of_map_noted]
              exact (recorded_discard outcome).bind fun _ => recorded_afterFailure (ih _ _ _)

/-- A call comes to the same over two executors that do. -/
theorem recordedBy_retrying (policy : RetryPolicy) (sink : Sink) :
    (policy.retrying sink base).RecordedBy (policy.retrying sink base') := by
  intro request
  cases hbody : request.body with
  | none =>
      rw [retrying_of_none hbody, retrying_of_none hbody]
      exact recorded_attempts related none _ 0 0 none
  | some body =>
      rw [retrying_of_some hbody, retrying_of_some hbody]
      refine (request.context.recorded_run body.recorded_collect).proceed ?_
      intro result
      cases result with
      | error fault => exact .done
      | ok octets => exact recorded_attempts related (some octets) _ 0 0 none

end Attempts

/-- A call comes to the same, whether its exchanges are recorded or not. -/
theorem recorded_retrying (policy : RetryPolicy) (sink : Sink) (base : Executor σ)
    (request : Request) :
    Task.Recorded (Except.map Response.noted) (policy.retrying sink base request)
      (policy.retrying sink base.recording request) :=
  policy.recordedBy_retrying base.recorded_recording sink request

end RetryPolicy
end ResilientHttp

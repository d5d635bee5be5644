import ResilientHttp.Context.Run
import ResilientHttp.Http.Response
import ResilientHttp.Task.Laws

/-!
What a task leaves alone. `Task.Keeps kept good` reads a task as it is written: every change that it
makes, and everything that it gives up, moves the world along `kept`, and each of its values is
`good`. Nothing is said of when a step is taken, so the property is one of the task and not of a run.
-/

namespace ResilientHttp

variable {σ ε α β : Type}

/-- What is given up moves the world along a relation. -/
def Cleanup.Keeps (kept : World σ → World σ → Prop) (held : Cleanup σ ε) : Prop :=
  ∀ world, kept world (held.effect world)

theorem Cleanup.keeps_none {kept : World σ → World σ → Prop} (same : ∀ world, kept world world) :
    (Cleanup.none : Cleanup σ ε).Keeps kept :=
  same

namespace Task

/-- Every change and every cleanup in a task moves the world along `kept`, and each of its values is
`good`. -/
def Keeps (kept : World σ → World σ → Prop) (good : α → Prop) : Task σ ε α → Prop
  | .done value => good value
  | .look next => ∀ world, (next world).Keeps kept good
  | .change act next => (∀ world, kept world (act world)) ∧ ∀ world, (next world).Keeps kept good
  | .emit _ next => next.Keeps kept good
  | .rest _ held next => held.Keeps kept ∧ next.Keeps kept good
  | .panic _ => True

variable {kept : World σ → World σ → Prop} {good : α → Prop} {task : Task σ ε α}

theorem Keeps.bind {other : β → Prop} {f : α → Task σ ε β} (h : task.Keeps kept good)
    (next : ∀ value, good value → (f value).Keeps kept other) :
    (task.bind f).Keeps kept other := by
  induction task with
  | done value => exact next value h
  | look after ih => exact fun world => ih world (h world)
  | change act after ih => exact ⟨h.1, fun world => ih world (h.2 world)⟩
  | emit event after ih => exact ih h
  | rest wake held after ih => exact ⟨h.1, ih h.2⟩
  | panic reason => trivial

/-- A task that keeps to a relation keeps to every wider one. -/
theorem Keeps.mono {wider : World σ → World σ → Prop} {other : α → Prop} (h : task.Keeps kept good)
    (widens : ∀ world after, kept world after → wider world after)
    (weaker : ∀ value, good value → other value) : task.Keeps wider other := by
  induction task with
  | done value => exact weaker value h
  | look next ih => exact fun world => ih world (h world)
  | change act next ih =>
      exact ⟨fun world => widens _ _ (h.1 world), fun world => ih world (h.2 world)⟩
  | emit event next ih => exact ih h
  | rest wake held next ih => exact ⟨fun world => widens _ _ (h.1 world), ih h.2⟩
  | panic reason => trivial

theorem keeps_emitAll (events : List ε) :
    (emitAll events : Task σ ε Unit).Keeps kept fun _ => True := by
  induction events with
  | nil => trivial
  | cons event later ih => exact ih

theorem keeps_release {held : Cleanup σ ε} (keeps : held.Keeps kept) :
    (release held).Keeps kept fun _ => True :=
  ⟨keeps, fun _ => keeps_emitAll held.events⟩

theorem keeps_sleep {held : Cleanup σ ε} (keeps : held.Keeps kept) (span : Duration) :
    (sleep held span).Keeps kept fun _ => True := by
  unfold sleep
  split
  · trivial
  · exact fun _ => ⟨keeps, trivial⟩

/-- What follows bound work: its value is gone on with, unless the context has ended. -/
def proceed (bound : Task σ ε (Except ContextEnd α))
    (next : α → Task σ ε (Except ClientError β)) : Task σ ε (Except ClientError β) :=
  bound.bind fun
    | .error ending => .done (.error ending.error)
    | .ok value => next value

theorem keeps_proceed {bound : Task σ ε (Except ContextEnd α)}
    {next : α → Task σ ε (Except ClientError β)} {kept : World σ → World σ → Prop}
    {good : α → Prop} {other : Except ClientError β → Prop}
    (h : bound.Keeps kept fun result => ∀ value, result = .ok value → good value)
    (ended : ∀ ending : ContextEnd, other (.error ending.error))
    (goesOn : ∀ value, good value → (next value).Keeps kept other) :
    (bound.proceed next).Keeps kept other := by
  refine h.bind ?_
  intro result good
  cases result with
  | error ending => exact ended ending
  | ok value => exact goesOn value (good value rfl)

end Task

/-! ### Bodies -/

namespace Body

variable {kept : World σ → World σ → Prop} {held : Cleanup σ ε}

/-- Chunks are read to what they amount to, behind what was read before them. -/
theorem keeps_collectChunks (keeps : held.Keeps kept) (chunks : List Chunk) (read : Octets) :
    (collectChunks held read chunks).Keeps kept
      fun result => result = (contentOf chunks).map (read ++ ·) := by
  induction chunks generalizing read with
  | nil => simp [collectChunks, contentOf, Task.Keeps, Except.map]
  | cons chunk later ih =>
      cases chunk with
      | data octets =>
          have h := ih (read ++ octets)
          cases content : contentOf later <;>
            simpa [collectChunks, contentOf, content, Except.map] using h
      | fault error => simp [collectChunks, contentOf, Task.Keeps, Except.map]
      | pause span => exact (Task.keeps_sleep keeps span).bind fun _ _ => ih read

/-- A body is read to its content. -/
theorem keeps_collect (keeps : held.Keeps kept) (body : Body) :
    (body.collect held).Keeps kept fun result => result = body.content := by
  cases body with
  | full octets => rfl
  | stream chunks =>
      have h := keeps_collectChunks keeps chunks []
      cases content : contentOf chunks <;>
        simpa [collect, Body.content, content, Except.map] using h

end Body

/-! ### Work bound to a context -/

namespace Context

/-- Guarded work, gone on with unless its context has ended; then what it held is given up. -/
def resume (context : Context) (held : Cleanup σ ε) (next : Task σ ε (Except ContextEnd α)) :
    Task σ ε (Except ContextEnd α) :=
  .look fun world =>
    match context.endedIn? world with
    | some ending => (Task.release held).bind fun _ => .done (.error ending)
    | none => next

theorem run_eq_resume (context : Context) (pending : Cleanup σ ε) (work : Task σ ε α) :
    context.run pending work = context.resume pending (context.guard work) :=
  rfl

theorem guard_rest (context : Context) (wake : Wake σ) (held : Cleanup σ ε) (next : Task σ ε α) :
    context.guard (.rest wake held next) =
      .rest (context.orEnd wake) held (context.resume held (context.guard next)) :=
  rfl

variable {kept : World σ → World σ → Prop} {good : α → Prop} {task : Task σ ε α}

theorem keeps_check (context : Context) :
    (context.check : Task σ ε (Except ContextEnd Unit)).Keeps kept
      fun result => ∀ value, result = .ok value → True := by
  intro world
  dsimp only
  split <;> exact fun _ _ => trivial

theorem keeps_resume (context : Context) {held : Cleanup σ ε}
    {next : Task σ ε (Except ContextEnd α)} (keeps : held.Keeps kept)
    (h : next.Keeps kept fun result => ∀ value, result = .ok value → good value) :
    (context.resume held next).Keeps kept fun result => ∀ value, result = .ok value → good value := by
  intro world
  dsimp only
  split
  · exact (Task.keeps_release keeps).bind fun _ _ => by rintro _ ⟨⟩
  · exact h

theorem keeps_guard (context : Context) (h : task.Keeps kept good) :
    (context.guard task).Keeps kept fun result => ∀ value, result = .ok value → good value := by
  induction task with
  | done value =>
      rintro _ ⟨⟩
      exact h
  | look next ih => exact fun world => ih world (h world)
  | change act next ih => exact ⟨h.1, fun world => ih world (h.2 world)⟩
  | emit event next ih => exact ih h
  | rest wake held next ih => exact ⟨h.1, keeps_resume context h.1 (ih h.2)⟩
  | panic reason => trivial

theorem keeps_run (context : Context) {pending : Cleanup σ ε} (keeps : pending.Keeps kept)
    (h : task.Keeps kept good) :
    (context.run pending task).Keeps kept fun result => ∀ value, result = .ok value → good value :=
  keeps_resume context keeps (keeps_guard context h)

end Context
end ResilientHttp

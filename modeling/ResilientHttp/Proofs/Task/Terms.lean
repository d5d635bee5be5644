import ResilientHttp.Proofs.Context.Guard

/-!
Tasks on terms. `Task.Ensures` says what a task does as long as it is gone on with. A task may also be
abandoned wherever it rests, and then only what it holds there is still done; and what one task does is
what another one has to live with. `Terms` say both: what a task may rely on, what it may do, tell and
rest in, and in what worlds it may leave the others when it is abandoned.

* `Task.Abides` is the weakest precondition of a task on terms; `Abides.bind` composes it.
* `abides_guard`, `abides_run` — the end of a context abandons work where it rests, so bound work keeps
  the terms of the work itself, and leaves the world as the terms allow when its context ends.
* `Abides.of_run`, `Abides.keeps_of_run` — what holds along every run.
-/

namespace ResilientHttp

variable {σ ε α β : Type}

/-- The terms on which a task goes on among others. -/
structure Terms (σ ε : Type) where
  /-- What the others may do while the task rests. -/
  rely : World σ → World σ → Prop
  /-- What the task itself may do. -/
  guar : World σ → World σ → Prop
  /-- Which events it may emit in a world. -/
  tells : ε → World σ → Prop
  /-- In which worlds it may rest. -/
  rests : World σ → Prop
  /-- In which worlds it may be over once it is abandoned. -/
  leaves : World σ → Prop

/-- What is held can be given up on terms. -/
structure Cleanup.Leaves (terms : Terms σ ε) (held : Cleanup σ ε) (world : World σ) : Prop where
  guar : terms.guar world (held.effect world)
  tells : ∀ event ∈ held.events, terms.tells event (held.effect world)
  leaves : terms.leaves (held.effect world)

namespace Task

/-- A task keeps terms from a world on, and its value is as `post` says. Wherever it rests it can also be
abandoned, at any later moment. -/
def Abides (terms : Terms σ ε) (post : α → World σ → Prop) : Task σ ε α → World σ → Prop
  | .done value, world => post value world
  | .look next, world => (next world).Abides terms post world
  | .change act next, world => terms.guar world (act world) ∧ (next world).Abides terms post (act world)
  | .emit event next, world => terms.tells event world ∧ next.Abides terms post world
  | .rest wake held next, world =>
      terms.rests world ∧ ∀ later, terms.rely world later →
        held.Leaves terms later ∧ (wake.isDue later = true → next.Abides terms post later)
  | .panic _, world => terms.rests world

section Rules

variable {terms : Terms σ ε} {post : α → World σ → Prop} {world : World σ}

/-- A task followed by another one keeps terms if the other one does from each of its values on. -/
theorem Abides.bind {task : Task σ ε α} {f : α → Task σ ε β} {post : β → World σ → Prop}
    (h : task.Abides terms (fun value world => (f value).Abides terms post world) world) :
    (task.bind f).Abides terms post world := by
  induction task generalizing world with
  | done value => exact h
  | look next ih => exact ih world h
  | change act next ih => exact ⟨h.1, ih world h.2⟩
  | emit event next ih => exact ⟨h.1, ih h.2⟩
  | rest wake held next ih =>
      refine ⟨h.1, fun later hrely => ?_⟩
      obtain ⟨leaves, goesOn⟩ := h.2 later hrely
      exact ⟨leaves, fun due => ih (goesOn due)⟩
  | panic reason => exact h

/-- A weaker demand on the value is met where a stronger one is. -/
theorem Abides.mono {task : Task σ ε α} {post' : α → World σ → Prop}
    (h : task.Abides terms post world) (weaker : ∀ value world, post value world → post' value world) :
    task.Abides terms post' world := by
  induction task generalizing world with
  | done value => exact weaker _ _ h
  | look next ih => exact ih world h
  | change act next ih => exact ⟨h.1, ih world h.2⟩
  | emit event next ih => exact ⟨h.1, ih h.2⟩
  | rest wake held next ih =>
      refine ⟨h.1, fun later hrely => ?_⟩
      obtain ⟨leaves, goesOn⟩ := h.2 later hrely
      exact ⟨leaves, fun due => ih (goesOn due)⟩
  | panic reason => exact h

theorem abides_emitAll {events : List ε} {post : Unit → World σ → Prop}
    (tells : ∀ event ∈ events, terms.tells event world) (h : post () world) :
    (emitAll events).Abides terms post world := by
  induction events with
  | nil => exact h
  | cons event later ih =>
      obtain ⟨first, others⟩ := List.forall_mem_cons.mp tells
      exact ⟨first, ih others⟩

/-- Giving up what is held leaves the world as the terms allow. -/
theorem abides_release {held : Cleanup σ ε} {post : Unit → World σ → Prop}
    (leaves : held.Leaves terms world) (h : post () (held.effect world)) :
    (release held).Abides terms post world :=
  ⟨leaves.guar, abides_emitAll leaves.tells h⟩

theorem abides_sleep {held : Cleanup σ ε} {post : Unit → World σ → Prop} (span : Duration)
    (rests : terms.rests world) (leaves : ∀ later, terms.rely world later → held.Leaves terms later)
    (now : post () world) (h : ∀ later, terms.rely world later → post () later) :
    (sleep held span).Abides terms post world := by
  unfold sleep
  split
  · exact now
  · exact ⟨rests, fun later hrely => ⟨leaves later hrely, fun _ => h later hrely⟩⟩

/-- Bound work that is gone on with keeps terms if what follows it does, and if they allow for each way
in which its context may end. -/
theorem Abides.proceed {bound : Task σ ε (Except ContextEnd α)}
    {next : α → Task σ ε (Except ClientError β)} {post : Except ClientError β → World σ → Prop}
    (h : bound.Abides terms (fun result world =>
      match result with
      | .error ending => post (.error ending.error) world
      | .ok value => (next value).Abides terms post world) world) :
    (bound.proceed next).Abides terms post world := by
  refine .bind (h.mono fun result world then_ => ?_)
  cases result <;> exact then_

/-- Work that keeps `kept` as it is written keeps terms among others that let `stays` stand, whatever is
held besides, if the terms allow for both. -/
theorem abides_holding {kept : World σ → World σ → Prop} {good : α → Prop} {more : Cleanup σ ε}
    {task : Task σ ε α} (stays : World σ → Prop)
    (own : ∀ world after, stays world → kept world after → terms.guar world after ∧ stays after)
    (others : ∀ world later, stays world → terms.rely world later → stays later)
    (tells : ∀ event world, stays world → terms.tells event world)
    (rests : ∀ world, stays world → terms.rests world)
    (leaves : ∀ held : Cleanup σ ε, held.Keeps kept → ∀ world, stays world →
      (held.both more).Leaves terms world)
    (keeps : task.Keeps kept good) (h : stays world) :
    (task.holding more).Abides terms (fun value world => good value ∧ stays world) world := by
  induction task generalizing world with
  | done value => exact ⟨keeps, h⟩
  | look next ih => exact ih world (keeps world) h
  | change act next ih =>
      obtain ⟨guar, after⟩ := own _ _ h (keeps.1 world)
      exact ⟨guar, ih world (keeps.2 world) after⟩
  | emit event next ih => exact ⟨tells event world h, ih keeps h⟩
  | rest wake held next ih =>
      refine ⟨rests world h, fun later hrely => ?_⟩
      have after := others world later h hrely
      exact ⟨leaves held keeps.1 later after, fun _ => ih keeps.2 after⟩
  | panic reason => exact rests world h

theorem holding_none (task : Task σ ε α) : task.holding .none = task := by
  have both : ∀ held : Cleanup σ ε, held.both .none = held := by
    rintro ⟨effect, events⟩
    exact congrArg (Cleanup.mk effect) (List.append_nil events)
  induction task with
  | done value => rfl
  | look next ih => exact congrArg Task.look (funext ih)
  | change act next ih => exact congrArg (Task.change act) (funext ih)
  | emit event next ih => exact congrArg (Task.emit event) ih
  | rest wake held next ih => rw [holding, both, ih]
  | panic reason => rfl

/-- The same for work with nothing held besides. -/
theorem Abides.of_keeps {kept : World σ → World σ → Prop} {good : α → Prop} {task : Task σ ε α}
    (stays : World σ → Prop)
    (own : ∀ world after, stays world → kept world after → terms.guar world after ∧ stays after)
    (others : ∀ world later, stays world → terms.rely world later → stays later)
    (tells : ∀ event world, stays world → terms.tells event world)
    (rests : ∀ world, stays world → terms.rests world)
    (leaves : ∀ world, stays world → terms.leaves world)
    (keeps : task.Keeps kept good) (h : stays world) :
    task.Abides terms (fun value world => good value ∧ stays world) world := by
  have gives : ∀ held : Cleanup σ ε, held.Keeps kept → ∀ world, stays world →
      (held.both .none).Leaves terms world := by
    intro held kept world now
    obtain ⟨guar, after⟩ := own _ _ now (kept world)
    exact ⟨guar, fun event _ => tells event _ after, leaves _ after⟩
  have holds : (task.holding .none).Abides terms (fun value world => good value ∧ stays world) world :=
    abides_holding stays own others tells rests gives keeps h
  rwa [holding_none] at holds

end Rules
end Task

/-- Reading a body keeps terms as long as what is held meanwhile can be given up. -/
theorem Body.abides_collect {terms : Terms σ ε} {held : Cleanup σ ε} {world : World σ}
    (stays : World σ → Prop) (others : ∀ world later, stays world → terms.rely world later → stays later)
    (rests : ∀ world, stays world → terms.rests world)
    (leaves : ∀ world, stays world → held.Leaves terms world) (body : Body) (h : stays world) :
    (body.collect held).Abides terms (fun _ world => stays world) world := by
  have reads : ∀ (chunks : List Chunk) (read : Octets) (world : World σ), stays world →
      (collectChunks held read chunks).Abides terms (fun _ world => stays world) world := by
    intro chunks
    induction chunks with
    | nil => exact fun read world now => now
    | cons chunk later ih =>
        intro read world now
        cases chunk with
        | data octets => exact ih _ world now
        | fault error => exact now
        | pause span =>
            have goesOn := fun after (hrely : terms.rely world after) =>
              ih read after (others world after now hrely)
            refine .bind (Task.abides_sleep span (rests world now) ?_ (ih read world now) goesOn)
            exact fun after hrely => leaves after (others world after now hrely)
  cases body with
  | full octets => exact h
  | stream chunks => exact reads chunks [] world h

/-- Reading a response gives up what stands behind it. -/
theorem Response.abides_bytes {terms : Terms σ ε} {response : Response σ ε} {world : World σ}
    (stays : World σ → Prop) (others : ∀ world later, stays world → terms.rely world later → stays later)
    (rests : ∀ world, stays world → terms.rests world)
    (leaves : ∀ world, stays world → response.held.Leaves terms world) (h : stays world) :
    response.bytes.Abides terms (fun _ world => terms.leaves world) world := by
  refine .bind ((Body.abides_collect stays others rests leaves response.body h).mono ?_)
  intro read world now
  exact .bind (Task.abides_release (leaves world now) (leaves world now).leaves)

/-! ### Under a context -/

namespace Context

variable {terms : Terms σ ε} {post : α → World σ → Prop} {world : World σ} {context : Context}

/-- What bound work comes to on terms. -/
def EndsOn (terms : Terms σ ε) (post : α → World σ → Prop) :
    Except ContextEnd α → World σ → Prop
  | .ok value, world => post value world
  | .error _, world => terms.leaves world

theorem abides_resume {held : Cleanup σ ε} {next : Task σ ε (Except ContextEnd α)}
    (leaves : held.Leaves terms world)
    (h : context.endedIn? world = none → next.Abides terms (EndsOn terms post) world) :
    (context.resume held next).Abides terms (EndsOn terms post) world := by
  unfold resume
  dsimp only [Task.Abides]
  split
  · exact .bind (Task.abides_release leaves leaves.leaves)
  · exact h ‹_›

/-- Work under the eyes of a context keeps the terms of the work itself. -/
theorem abides_guard {task : Task σ ε α} (h : task.Abides terms post world) :
    (context.guard task).Abides terms (EndsOn terms post) world := by
  induction task generalizing world with
  | done value => exact h
  | look next ih => exact ih world h
  | change act next ih => exact ⟨h.1, ih world h.2⟩
  | emit event next ih => exact ⟨h.1, ih h.2⟩
  | rest wake held next ih =>
      refine ⟨h.1, fun later hrely => ?_⟩
      obtain ⟨leaves, goesOn⟩ := h.2 later hrely
      refine ⟨leaves, fun due => abides_resume leaves fun live => ih (goesOn ?_)⟩
      rwa [isDue_orEnd live wake] at due
  | panic reason => exact h

/-- Work bound to a context begins in a world in which the context has not ended. -/
theorem abides_run {pending : Cleanup σ ε} {task : Task σ ε α} (leaves : pending.Leaves terms world)
    (h : context.endedIn? world = none → task.Abides terms post world) :
    (context.run pending task).Abides terms (EndsOn terms post) world :=
  abides_resume leaves fun live => abides_guard (h live)

theorem abides_check {post : Except ContextEnd Unit → World σ → Prop}
    (h : ∀ result, post result world) : context.check.Abides terms post world := by
  unfold check
  dsimp only [Task.Abides]
  split <;> exact h _

end Context

/-! ### Along a run -/

namespace Task

section Runs

variable {terms : Terms σ ε} {post : α → World σ → Prop} {task left : Task σ ε α}
  {world after : World σ} {moments : List (Moment σ ε)}

/-- What is left of a task after a run keeps the terms, and the run has told only what they allow. -/
theorem Abides.of_run (h : task.Abides terms post world)
    (run : Run terms.rely task world moments left after) :
    left.Abides terms post after ∧
      ∀ moment ∈ moments, ∀ event, moment.event = some event → terms.tells event moment.world := by
  induction run with
  | here => exact ⟨h, nofun⟩
  | look _ ih =>
      obtain ⟨rest, told⟩ := ih h
      exact ⟨rest, List.forall_mem_cons.mpr ⟨nofun, told⟩⟩
  | change _ ih => exact ih h.2
  | emit _ ih =>
      obtain ⟨rest, told⟩ := ih h.2
      refine ⟨rest, List.forall_mem_cons.mpr ⟨?_, told⟩⟩
      rintro _ ⟨⟩
      exact h.1
  | wake hrely due _ ih => exact ih ((h.2 _ hrely).2 due)

/-- What the task and the others keep holds wherever a run leads. -/
theorem Abides.keeps_of_run {always : World σ → Prop} (h : task.Abides terms post world)
    (run : Run terms.rely task world moments left after)
    (own : ∀ world after, always world → terms.guar world after → always after)
    (others : ∀ world later, always world → terms.rely world later → always later)
    (now : always world) : always after := by
  induction run with
  | here => exact now
  | look _ ih => exact ih h now
  | change _ ih => exact ih h.2 (own _ _ now h.1)
  | emit _ ih => exact ih h.2 now
  | wake hrely due _ ih => exact ih ((h.2 _ hrely).2 due) (others _ _ now hrely)

end Runs
end Task
end ResilientHttp

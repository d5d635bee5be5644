import ResilientHttp.Proofs.Journal
import ResilientHttp.Proofs.Task.Crowd

/-!
Calls that heed the end of a context. The looks that a call takes at the world while no exchange is under
way are its own, and so is the look after a rest, if the rest is under the eyes of the context. A call
heeds the end of the context if it stops in the turn of such a look: it says how the context has ended,
and nothing more is handed over (`Task.Stops`).

* `Task.Heeds` — what a call does from here on, with a rule for tasks that follow one another.
* `Heeds.of_run` — it is kept along every run.
* `Context.heeds_guard` — under the eyes of a context any work that heeds its end rests in safety;
  `heeds_guard_still` is the same for work that only looks at the clock.
-/

namespace ResilientHttp

variable {σ ε α β : Type}

/-- No exchange is under way: every request has its outcome. -/
def Journal.Settled (journal : Journal σ) : Prop :=
  journal.outcomes.length = journal.requests.length

namespace Task

/-- The turn that begins here is the last one. Nothing is handed over in it, and the value is `good`. -/
def Stops (good : α → Prop) (task : Task (Noted σ) ε α) (world : World (Noted σ)) : Prop :=
  ∃ value after, task.turn world = (.done value, after) ∧ good value ∧ after.journal = world.journal

/-- From here on a task stops with a value that is `halted` whenever it looks at a world in which the
context has ended and no exchange is under way, and also, if its rests are guarded, when it is woken in
such a world from a rest. What it holds at rests has no say in the journal, and `post` holds at its end. -/
def Heeds (context : Context) (guarded : Prop) (halted : ContextEnd → α → Prop)
    (post : α → World (Noted σ) → Prop) : Task (Noted σ) ε α → World (Noted σ) → Prop
  | .done value, world => post value world
  | .look next, world =>
      (world.journal.Settled → ∀ ending, context.endedIn? world = some ending →
        (next world).Stops (halted ending) world) ∧
      (next world).Heeds context guarded halted post world
  | .change act next, world => (next world).Heeds context guarded halted post (act world)
  | .emit _ next, world => next.Heeds context guarded halted post world
  | .rest wake held next, world =>
      held.Keeps World.SameJournal ∧ ∀ later, World.Alongside world later →
        (guarded → ∀ ending, context.endedIn? later = some ending →
          wake.isDue later = true ∧ next.Stops (halted ending) later) ∧
        (wake.isDue later = true → next.Heeds context guarded halted post later)
  | .panic _, _ => True

section Rules

variable {context : Context} {guarded : Prop} {halted : ContextEnd → α → Prop}
  {post : α → World (Noted σ) → Prop} {task left : Task (Noted σ) ε α} {world after : World (Noted σ)}

theorem turn_bind {value : α} (f : α → Task (Noted σ) ε β) (h : task.turn world = (.done value, after)) :
    (task.bind f).turn world = (f value).turn after := by
  induction task generalizing world with
  | done other =>
      cases h
      rfl
  | look next ih => exact ih world h
  | change act next ih => exact ih world h
  | emit event next ih => exact ih h
  | rest wake held next ih => cases h
  | panic reason => cases h

/-- A task stops if what it is followed by is done at once. -/
theorem Stops.bind {good : α → Prop} {good' : β → Prop} {f : α → Task (Noted σ) ε β}
    (h : task.Stops good world)
    (done : ∀ value, good value → ∃ value', f value = .done value' ∧ good' value') :
    (task.bind f).Stops good' world := by
  obtain ⟨value, after, turn, isGood, same⟩ := h
  obtain ⟨value', next, isGood'⟩ := done value isGood
  refine ⟨value', after, ?_, isGood', same⟩
  rw [turn_bind f turn, next]
  rfl

/-- What heeds the end of a context among rests that are guarded, does so too if they need not be. -/
theorem Heeds.mono {guarded' : Prop} {post' : α → World (Noted σ) → Prop}
    (h : task.Heeds context guarded halted post world) (guards : guarded' → guarded)
    (weaker : ∀ value world, post value world → post' value world) :
    task.Heeds context guarded' halted post' world := by
  induction task generalizing world with
  | done value => exact weaker value world h
  | look next ih => exact ⟨h.1, ih world h.2⟩
  | change act next ih => exact ih world h
  | emit event next ih => exact ih h
  | rest wake held next ih =>
      refine ⟨h.1, fun later beside => ?_⟩
      obtain ⟨stops, goesOn⟩ := h.2 later beside
      exact ⟨fun isGuarded => stops (guards isGuarded), fun due => ih (goesOn due)⟩
  | panic reason => trivial

/-- A task followed by another one heeds the end of the context if both do, and if the other one has
nothing left to do once the first has stopped. -/
theorem Heeds.bind {halted' : ContextEnd → β → Prop} {post' : β → World (Noted σ) → Prop}
    {f : α → Task (Noted σ) ε β}
    (h : task.Heeds context guarded halted
      (fun value world => (f value).Heeds context guarded halted' post' world) world)
    (done : ∀ ending value, halted ending value → ∃ value', f value = .done value' ∧
      halted' ending value') :
    (task.bind f).Heeds context guarded halted' post' world := by
  induction task generalizing world with
  | done value => exact h
  | look next ih =>
      exact ⟨fun settled ending ended => (h.1 settled ending ended).bind (done ending), ih world h.2⟩
  | change act next ih => exact ih world h
  | emit event next ih => exact ih h
  | rest wake held next ih =>
      refine ⟨h.1, fun later beside => ?_⟩
      obtain ⟨stops, goesOn⟩ := h.2 later beside
      refine ⟨fun isGuarded ending ended => ?_, fun due => ih (goesOn due)⟩
      obtain ⟨due, stopped⟩ := stops isGuarded ending ended
      exact ⟨due, stopped.bind (done ending)⟩
  | panic reason => trivial

/-- Along a run nothing is lost. -/
theorem Heeds.of_run {moments : List (Moment (Noted σ) ε)}
    (h : task.Heeds context guarded halted post world)
    (run : Run World.Alongside task world moments left after) :
    left.Heeds context guarded halted post after := by
  induction run with
  | here => exact h
  | look _ ih => exact ih h.2
  | change _ ih => exact ih h
  | emit _ ih => exact ih h
  | wake beside due _ ih => exact ih ((h.2 _ beside).2 due)

theorem heeds_emitAll {halted : ContextEnd → Unit → Prop} {post : Unit → World (Noted σ) → Prop}
    (events : List ε) (h : post () world) :
    (emitAll events).Heeds context guarded halted post world := by
  induction events with
  | nil => exact h
  | cons event later ih => exact ih

/-- A task beside whose journal an exchange is under way never looks at the world on its own account. -/
theorem heeds_noted (task : Task σ ε α) (underway : ¬ world.journal.Settled) :
    task.noted.Heeds context False (fun _ _ => False)
      (fun _ after => after.journal = world.journal) world := by
  have steps : ∀ now : World (Noted σ), now.journal = world.journal →
      task.noted.Heeds context False (fun _ _ => False)
        (fun _ after => after.journal = world.journal) now := by
    induction task with
    | done value => exact fun _ same => same
    | look next ih =>
        intro now same
        refine ⟨fun settled => ?_, ih now.plain now same⟩
        rw [same] at settled
        exact absurd settled underway
    | change act next ih => exact fun now same => ih now.plain _ same
    | emit event next ih => exact fun now same => ih now same
    | rest wake held next ih =>
        intro now same
        exact ⟨held.keeps_noted, fun later beside =>
          ⟨False.elim, fun _ => ih later (beside.journal.trans same)⟩⟩
    | panic reason => exact fun _ _ => trivial
  exact steps world rfl

end Rules
end Task

namespace Context

variable {context : Context} {guarded : Prop} {halted : ContextEnd → α → Prop}
  {post : α → World (Noted σ) → Prop} {held : Cleanup (Noted σ) ε} {world : World (Noted σ)}

/-- Under the eyes of a context work is halted by its end, or it has halted itself. -/
def Halted (halted : ContextEnd → α → Prop) (ending : ContextEnd) : Except ContextEnd α → Prop
  | .error other => other = ending
  | .ok value => halted ending value

/-- What holds at the end of work under the eyes of a context that has let it end. -/
def Finished (post : α → World (Noted σ) → Prop) : Except ContextEnd α → World (Noted σ) → Prop
  | .error _, _ => True
  | .ok value, world => post value world

theorem stops_resume {ending : ContextEnd} {next : Task (Noted σ) ε (Except ContextEnd α)}
    (keeps : held.Keeps World.SameJournal) (ended : context.endedIn? world = some ending) :
    (context.resume held next).Stops (Halted halted ending) world := by
  have emits : ∀ (events : List ε) (after : World (Noted σ)),
      (Task.emitAll events).turn after = (.done (), after) := by
    intro events after
    induction events with
    | nil => rfl
    | cons event later ih => exact ih
  have gives : (Task.release held).turn world = (.done (), held.effect world) := emits _ _
  refine ⟨.error ending, held.effect world, ?_, rfl, keeps world⟩
  rw [resume, Task.turn, ended]
  exact Task.turn_bind _ gives

/-- Work that is gone on with, unless its context has ended. -/
theorem heeds_resume {next : Task (Noted σ) ε (Except ContextEnd α)}
    (keeps : held.Keeps World.SameJournal)
    (goesOn : context.endedIn? world = none →
      next.Heeds context True (Halted halted) (Finished post) world) :
    (context.resume held next).Heeds context True (Halted halted) (Finished post) world := by
  refine ⟨fun _ ending ended => stops_resume keeps ended, ?_⟩
  dsimp only
  cases hended : context.endedIn? world with
  | some ending => exact .bind (Task.heeds_emitAll held.events trivial) fun _ _ => False.elim
  | none => exact goesOn hended

/-- A look at the context is a look of the call itself. -/
theorem heeds_check {post : Unit → World (Noted σ) → Prop} (goesOn : post () world) :
    (context.check : Task (Noted σ) ε (Except ContextEnd Unit)).Heeds context True
      (Halted fun _ _ => False) (Finished post) world := by
  refine ⟨fun _ ending ended => ⟨.error ending, world, ?_, rfl, rfl⟩, ?_⟩
  · simp only [ended]
    rfl
  · dsimp only
    cases context.endedIn? world with
    | some ending => trivial
    | none => exact goesOn

theorem turn_guard {task : Task (Noted σ) ε α} {value : α} {after : World (Noted σ)}
    (h : task.turn world = (.done value, after)) :
    (context.guard task).turn world = (.done (.ok value), after) := by
  induction task generalizing world with
  | done other =>
      cases h
      rfl
  | look next ih => exact ih world h
  | change act next ih => exact ih world h
  | emit event next ih => exact ih h
  | rest wake held next ih => cases h
  | panic reason => cases h

/-- A rest under the eyes of a context is guarded. -/
theorem heeds_rest {wake : Wake (Noted σ)} {next : Task (Noted σ) ε (Except ContextEnd α)}
    (keeps : held.Keeps World.SameJournal)
    (goesOn : ∀ later, World.Alongside world later → wake.isDue later = true →
      context.endedIn? later = none → next.Heeds context True (Halted halted) (Finished post) later) :
    (Task.rest (context.orEnd wake) held (context.resume held next)).Heeds context True
      (Halted halted) (Finished post) world := by
  refine ⟨keeps, fun later beside => ⟨fun _ ending ended => ?_, fun due => ?_⟩⟩
  · exact ⟨isDue_orEnd_of_ended ended, stops_resume keeps ended⟩
  · refine heeds_resume keeps fun live => ?_
    rw [isDue_orEnd live] at due
    exact goesOn later beside due live

/-- Under the eyes of a context, work that heeds its end has all its rests guarded. -/
theorem heeds_guard {task : Task (Noted σ) ε α} (h : task.Heeds context guarded halted post world) :
    (context.guard task).Heeds context True (Halted halted) (Finished post) world := by
  induction task generalizing world with
  | done value => exact h
  | look next ih =>
      refine ⟨fun settled ending ended => ?_, ih world h.2⟩
      obtain ⟨value, after, turn, isHalted, same⟩ := h.1 settled ending ended
      exact ⟨.ok value, after, turn_guard turn, isHalted, same⟩
  | change act next ih => exact ih world h
  | emit event next ih => exact ih h
  | rest wake held next ih =>
      exact heeds_rest h.1 fun later beside due _ => ih ((h.2 later beside).2 due)
  | panic reason => trivial

/-- Work that changes nothing looks at the world only while the context that guards it lives. -/
theorem heeds_guard_still {task : Task (Noted σ) ε α} {good : α → Prop}
    (keeps : task.Keeps (fun world after => after = world) good)
    (live : context.endedIn? world = none) :
    (context.guard task).Heeds context True (Halted fun _ _ => False)
      (Finished fun value after => good value ∧ after.journal = world.journal) world := by
  have steps : ∀ now : World (Noted σ), now.journal = world.journal → context.endedIn? now = none →
      (context.guard task).Heeds context True (Halted fun _ _ => False)
        (Finished fun value after => good value ∧ after.journal = world.journal) now := by
    clear live
    induction task with
    | done value => exact fun _ same _ => ⟨keeps, same⟩
    | look next ih =>
        intro now same live
        refine ⟨fun _ ending ended => ?_, ih now (keeps now) now same live⟩
        rw [live] at ended
        cases ended
    | change act next ih =>
        intro now same live
        refine Eq.mpr ?_ (ih now (keeps.2 now) now same live)
        exact congrArg (Task.Heeds context True _ _ _) (keeps.1 now)
    | emit event next ih => exact fun now same live => ih keeps now same live
    | rest wake held next ih =>
        intro now same _
        have quiet : held.Keeps World.SameJournal := fun later => congrArg World.journal (keeps.1 later)
        exact heeds_rest quiet fun later beside _ live =>
          ih keeps.2 later (beside.journal.trans same) live
    | panic reason => exact fun _ _ _ => trivial
  exact steps world rfl live

end Context
end ResilientHttp

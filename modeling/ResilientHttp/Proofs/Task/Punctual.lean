import Mathlib.Logic.Relation
import ResilientHttp.Proofs.Task.Keeping
import ResilientHttp.Proofs.Task.Run

/-!
Runs that are on time. In a `Run` a task that could go on may be left waiting. In a `Punctual` run no time
passes while it could: a rest lasts until the first instant at which the condition for going on holds.
Until then time passes, and the others act, which takes no time. `waits` and `wakes` say what has to hold at
every instant that passes in a rest, and when the task is woken from one.

* `exists_onTime_course` — the course of a task that is alone is one of these runs.
* `punctual_release` — giving something up takes one turn.
-/

namespace ResilientHttp

variable {σ ε α β : Type}

/-- One thing that happens while a task rests. Time does not pass while the task could go on, and not
beyond the instant at which it can. -/
inductive Wake.Passes (others : World σ → World σ → Prop) (waits : World σ → Prop) (wake : Wake σ) :
    World σ → World σ → Prop where
  | beside {world later : World σ} : others world later → later.now = world.now →
      Passes others waits wake world later
  | time {world : World σ} {instant : Instant} : world.now < instant → wake.isDue world = false →
      (∀ due ∈ wake.instant, instant ≤ due) →
      (∀ passing, world.now ≤ passing → passing < instant → waits { world with now := passing }) →
      Passes others waits wake world { world with now := instant }

/-- What happens from the beginning of a rest on. -/
def Wake.Rests (others : World σ → World σ → Prop) (waits : World σ → Prop) (wake : Wake σ) :
    World σ → World σ → Prop :=
  Relation.ReflTransGen (wake.Passes others waits)

/-- What is told when something that is held is given up in a world. -/
def Cleanup.told (held : Cleanup σ ε) (world : World σ) : List (Instant × ε) :=
  held.events.map fun event => ((held.effect world).now, event)

namespace Task

/-- The runs of a task that are on time: the events that it emitted and when, what is left of it, and the
world that was reached. -/
inductive Punctual (others : World σ → World σ → Prop) (waits wakes : World σ → Prop) :
    Task σ ε α → World σ → List (Instant × ε) → Task σ ε α → World σ → Prop where
  | here {task : Task σ ε α} {world : World σ} : Punctual others waits wakes task world [] task world
  | look {next : World σ → Task σ ε α} {world after : World σ} {events : List (Instant × ε)}
      {left : Task σ ε α} :
      Punctual others waits wakes (next world) world events left after →
      Punctual others waits wakes (.look next) world events left after
  | change {act : World σ → World σ} {next : World σ → Task σ ε α} {world after : World σ}
      {events : List (Instant × ε)} {left : Task σ ε α} :
      Punctual others waits wakes (next world) (act world) events left after →
      Punctual others waits wakes (.change act next) world events left after
  | emit {event : ε} {next left : Task σ ε α} {world after : World σ} {events : List (Instant × ε)} :
      Punctual others waits wakes next world events left after →
      Punctual others waits wakes (.emit event next) world ((world.now, event) :: events) left after
  | resting {wake : Wake σ} {held : Cleanup σ ε} {next : Task σ ε α} {world later : World σ} :
      wake.Rests others waits world later →
      Punctual others waits wakes (.rest wake held next) world [] (.rest wake held next) later
  | wake {wake : Wake σ} {held : Cleanup σ ε} {next left : Task σ ε α} {world later after : World σ}
      {events : List (Instant × ε)} :
      wake.Rests others waits world later → wake.isDue later = true → wakes later →
      Punctual others waits wakes next later events left after →
      Punctual others waits wakes (.rest wake held next) world events left after

/-- Runs of which nothing more is asked. -/
abbrev OnTime (others : World σ → World σ → Prop) :
    Task σ ε α → World σ → List (Instant × ε) → Task σ ε α → World σ → Prop :=
  Punctual others (fun _ => True) (fun _ => True)

section Rules

variable {others : World σ → World σ → Prop} {waits wakes : World σ → Prop} {task left : Task σ ε α}
  {world after : World σ} {events : List (Instant × ε)}

/-- What a task keeps to, what is left of it keeps to. -/
theorem Keeps.of_punctual {kept : World σ → World σ → Prop} {good : α → Prop}
    (keeps : task.Keeps kept good) (run : Punctual others waits wakes task world events left after) :
    left.Keeps kept good := by
  induction run with
  | here => exact keeps
  | look _ ih => exact ih (keeps _)
  | change _ ih => exact ih (keeps.2 _)
  | emit _ ih => exact ih keeps
  | resting _ => exact keeps
  | wake _ _ _ _ ih => exact ih keeps.2

/-- A run goes on from where another one has led. -/
theorem Punctual.trans {middle : Task σ ε α} {between : World σ} {more : List (Instant × ε)}
    (first : Punctual others waits wakes task world events middle between)
    (second : Punctual others waits wakes middle between more left after) :
    Punctual others waits wakes task world (events ++ more) left after := by
  induction first with
  | here => exact second
  | look _ ih => exact .look (ih second)
  | change _ ih => exact .change (ih second)
  | emit _ ih => exact .emit (ih second)
  | resting rests =>
      cases second with
      | here => exact .resting rests
      | resting onward => exact .resting (rests.trans onward)
      | wake onward due woken run => exact .wake (rests.trans onward) due woken run
  | wake rests due woken _ ih => exact .wake rests due woken (ih second)

section Rest

variable {wake : Wake σ} {instant : Instant}

/-- Time can pass up to the instant at which a rest ends by itself. -/
theorem passes_of_wait (others : World σ → World σ → Prop) (notDue : ¬ wake.isDue world = true)
    (hinstant : wake.instant = some instant) :
    wake.Passes others (fun _ => True) world { world with now := instant } := by
  refine .time (lt_of_not_isDue notDue hinstant) (eq_false_of_ne_true notDue) ?_ fun _ _ _ => trivial
  rintro _ mem
  rw [hinstant] at mem
  cases mem
  exact Nat.le_refl _

theorem isDue_of_wait (hinstant : wake.instant = some instant) :
    wake.isDue { world with now := instant } = true := by
  simp [Wake.isDue, hinstant]

end Rest

/-- The course of a task is a run on time. What is left at its end is its value, or a rest that does not
end by itself, or a panic. -/
theorem exists_onTime_course (others : World σ → World σ → Prop) (task : Task σ ε α)
    (world : World σ) :
    ∃ left, OnTime others task world (task.course world).events left (task.course world).world ∧
      match (task.course world).outcome with
      | .value value => left = .done value
      | .never => ∃ wake held next, left = .rest wake held next ∧ wake.instant = none
      | .panicked reason => left = .panic reason := by
  induction task generalizing world with
  | done value => exact ⟨_, .here, rfl⟩
  | look next ih =>
      obtain ⟨left, run, ends⟩ := ih world world
      exact ⟨left, .look run, ends⟩
  | change act next ih =>
      obtain ⟨left, run, ends⟩ := ih world (act world)
      exact ⟨left, .change run, ends⟩
  | emit event next ih =>
      obtain ⟨left, run, ends⟩ := ih world
      exact ⟨left, .emit run, ends⟩
  | rest wake held next ih =>
      by_cases due : wake.isDue world = true
      · rw [course_rest_of_due due]
        obtain ⟨left, run, ends⟩ := ih world
        exact ⟨left, .wake .refl due trivial run, ends⟩
      · cases hinstant : wake.instant with
        | none =>
            rw [course_rest_of_never due hinstant]
            exact ⟨_, .here, wake, held, next, rfl, hinstant⟩
        | some instant =>
            rw [course_rest_of_wait due hinstant]
            obtain ⟨left, run, ends⟩ := ih { world with now := instant }
            have passes := passes_of_wait others due hinstant
            exact ⟨left, .wake (.single passes) (isDue_of_wait hinstant) trivial run, ends⟩
  | panic reason => exact ⟨_, .here, rfl⟩

/-- A value that is made of another one when a task is done. -/
theorem punctual_map {f : α → β} {result : β} :
    Punctual others waits wakes (task.bind fun value => .done (f value)) world events (.done result)
        after ↔
      ∃ value, Punctual others waits wakes task world events (.done value) after ∧ f value = result := by
  constructor
  · intro run
    induction task generalizing world events with
    | done value =>
        cases run with
        | here => exact ⟨value, .here, rfl⟩
    | look next ih =>
        cases run with
        | look run =>
            obtain ⟨value, first, rfl⟩ := ih world run
            exact ⟨value, .look first, rfl⟩
    | change act next ih =>
        cases run with
        | change run =>
            obtain ⟨value, first, rfl⟩ := ih world run
            exact ⟨value, .change first, rfl⟩
    | emit event next ih =>
        cases run with
        | emit run =>
            obtain ⟨value, first, rfl⟩ := ih run
            exact ⟨value, .emit first, rfl⟩
    | rest wake held next ih =>
        cases run with
        | wake rests due woken run =>
            obtain ⟨value, first, rfl⟩ := ih run
            exact ⟨value, .wake rests due woken first, rfl⟩
    | panic reason => cases run
  · rintro ⟨value, run, rfl⟩
    induction task generalizing world events with
    | done other =>
        cases run with
        | here => exact .here
    | look next ih =>
        cases run with
        | look run => exact .look (ih world run)
    | change act next ih =>
        cases run with
        | change run => exact .change (ih world run)
    | emit event next ih =>
        cases run with
        | emit run => exact .emit (ih run)
    | rest wake held next ih =>
        cases run with
        | wake rests due woken run => exact .wake rests due woken (ih run)
    | panic reason => cases run

/-- Giving something up and telling a value takes no time and lets nobody in between. -/
theorem punctual_release {held : Cleanup σ ε} {value result : α} :
    Punctual others waits wakes ((release held).bind fun _ => .done value) world events (.done result)
        after ↔
      events = held.told world ∧ result = value ∧ after = held.effect world := by
  have told : ∀ (given : List ε) {world after : World σ} {events : List (Instant × ε)},
      Punctual others waits wakes ((emitAll given).bind fun _ => .done value) world events
          (.done result) after ↔
        events = given.map (fun event => (world.now, event)) ∧ result = value ∧ after = world := by
    intro given
    induction given with
    | nil =>
        intro world after events
        constructor
        · intro run
          cases run with
          | here => exact ⟨rfl, rfl, rfl⟩
        · rintro ⟨rfl, rfl, rfl⟩
          exact .here
    | cons event later ih =>
        intro world after events
        constructor
        · intro run
          cases run with
          | emit run =>
              obtain ⟨rfl, rfl, rfl⟩ := ih.mp run
              exact ⟨rfl, rfl, rfl⟩
        · rintro ⟨rfl, rfl, rfl⟩
          exact .emit (ih.mpr ⟨rfl, rfl, rfl⟩)
  constructor
  · intro run
    cases run with
    | change run => exact (told held.events).mp run
  · intro given
    exact .change ((told held.events).mpr given)

/-- There is no rest in it, so it does not matter what is asked of rests. -/
theorem Punctual.of_release {held : Cleanup σ ε} {value : α}
    (run : Punctual others waits wakes ((release held).bind fun _ => .done value) world events left after) :
    (∀ waits wakes : World σ → Prop,
      Punctual others waits wakes ((release held).bind fun _ => .done value) world events left after) ∧
      ∀ wake held next, left ≠ .rest wake held next := by
  have emits : ∀ (given : List ε) {world after : World σ} {events : List (Instant × ε)},
      Punctual others waits wakes ((emitAll given).bind fun _ => .done value) world events left after →
      (∀ waits wakes : World σ → Prop,
        Punctual others waits wakes ((emitAll given).bind fun _ => .done value) world events left after) ∧
        ∀ wake held next, left ≠ .rest wake held next := by
    intro given
    induction given with
    | nil =>
        intro world after events run
        cases run with
        | here => exact ⟨fun _ _ => .here, nofun⟩
    | cons event later ih =>
        intro world after events run
        cases run with
        | here => exact ⟨fun _ _ => .here, nofun⟩
        | emit run =>
            obtain ⟨anyway, noRest⟩ := ih run
            exact ⟨fun waits wakes => .emit (anyway waits wakes), noRest⟩
  cases run with
  | here => exact ⟨fun _ _ => .here, nofun⟩
  | change run =>
      obtain ⟨anyway, noRest⟩ := emits held.events run
      exact ⟨fun waits wakes => .change (anyway waits wakes), noRest⟩

end Rules
end Task
end ResilientHttp

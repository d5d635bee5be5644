import ResilientHttp.Task.Basic

/-!
The course of a task that is alone in its world. Time passes only while the task rests: if it
cannot go on, the clock moves to the instant at which it can. The course lists the events with
the instants at which they were emitted, and tells the world at the end and how the task ended.
-/

namespace ResilientHttp

/-- How a task ended: with a value, resting for ever, or in a panic. -/
inductive Outcome (α : Type) where
  | value (result : α)
  | never
  | panicked (reason : String)
  deriving DecidableEq, Repr

/-- What came of a task. -/
structure Course (σ ε α : Type) where
  events : List (Instant × ε)
  world : World σ
  outcome : Outcome α

/-- The course with an event before all others. -/
def Course.prepend (event : Instant × ε) (course : Course σ ε α) : Course σ ε α :=
  { course with events := event :: course.events }

/-- The instant at which the task ended. -/
def Course.finish (course : Course σ ε α) : Instant := course.world.now

namespace Task

variable {σ ε α : Type}

/-- The course of a task from a world on. -/
def course : Task σ ε α → World σ → Course σ ε α
  | .done value, world => ⟨[], world, .value value⟩
  | .look next, world => (next world).course world
  | .change act next, world => (next world).course (act world)
  | .emit event next, world => (next.course world).prepend (world.now, event)
  | .panic reason, world => ⟨[], world, .panicked reason⟩
  | .rest wake _ next, world =>
    if wake.isDue world then next.course world
    else
      match wake.instant with
      | some instant => next.course { world with now := instant }
      | none => ⟨[], world, .never⟩

/-- A task that also tells when it was done. -/
def timed (task : Task σ ε α) : Task σ ε (α × Instant) :=
  task.bind fun value => .look fun world => .done (value, world.now)

end Task
end ResilientHttp

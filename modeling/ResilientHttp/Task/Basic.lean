import ResilientHttp.Context.Basic
import ResilientHttp.Http.Header

/-!
Tasks: computations that proceed in turns. In a turn a task looks at the shared `World`, changes
it and emits events; then it is done, or it rests until a condition on the world holds, or it
panics because it asks for something that cannot be had. What it keeps hold of while resting is
given up if it is abandoned there. Each path through a task is finite, so every turn ends. A task that
panics stays where it is: nothing is undone or given up on its behalf.

A turn is made of single actions: a look, a change or an event. A change also tells what follows
how the world was before it, so it can read and write in one action, as under a lock.
-/

namespace ResilientHttp

/-- What all tasks share: the clock, the cancellation tokens, the default headers of the client,
and whatever belongs to the site that requests are sent to. Of the clock there is the time and the
longest time that its timers can run; there is no such bound if timers are exact. -/
structure World (σ : Type) where
  now : Instant
  longestTimer : Option Nat
  tokens : CancelTree
  defaults : HeaderMap
  site : σ

/-- How long a timer for a span of time runs. -/
def World.lasting (world : World σ) (span : Duration) : Nat :=
  match world.longestTimer with
  | none => span.toNanos
  | some longest => min span.toNanos longest

/-- What is done when something that is held is given up. -/
structure Cleanup (σ ε : Type) where
  effect : World σ → World σ
  events : List ε

/-- When a resting task can go on: at an instant, or as soon as the world allows it. -/
structure Wake (σ : Type) where
  instant : Option Instant
  allowed : World σ → Bool

/-- A computation in turns that gives a value. -/
inductive Task (σ ε α : Type) where
  | done (value : α)
  | look (next : World σ → Task σ ε α)
  | change (act : World σ → World σ) (next : World σ → Task σ ε α)
  | emit (event : ε) (next : Task σ ε α)
  | rest (wake : Wake σ) (held : Cleanup σ ε) (next : Task σ ε α)
  | panic (reason : String)

/-- Nothing is held. -/
def Cleanup.none : Cleanup σ ε := ⟨id, []⟩

/-- Both of two things are held. -/
def Cleanup.both (first second : Cleanup σ ε) : Cleanup σ ε :=
  ⟨second.effect ∘ first.effect, first.events ++ second.events⟩

/-- Whether the condition for going on holds. -/
def Wake.isDue (wake : Wake σ) (world : World σ) : Bool :=
  wake.instant.any (· ≤ world.now) || wake.allowed world

namespace Task

variable {σ ε α β : Type}

/-- Goes on with another task that may depend on the value. -/
def bind : Task σ ε α → (α → Task σ ε β) → Task σ ε β
  | .done value, k => k value
  | .look next, k => .look fun world => (next world).bind k
  | .change act next, k => .change act fun world => (next world).bind k
  | .emit event next, k => .emit event (next.bind k)
  | .rest wake held next, k => .rest wake held (next.bind k)
  | .panic reason, _ => .panic reason

instance : Monad (Task σ ε) where
  pure := .done
  bind := .bind

/-- Emits events in order. -/
def emitAll : List ε → Task σ ε Unit
  | [] => .done ()
  | event :: later => .emit event (emitAll later)

/-- The world as it is now. -/
def world : Task σ ε (World σ) := .look .done

/-- Changes the world. -/
def modify (act : World σ → World σ) : Task σ ε Unit := .change act fun _ => .done ()

/-- The same task, holding something more whenever it rests. -/
def holding (more : Cleanup σ ε) : Task σ ε α → Task σ ε α
  | .done value => .done value
  | .look next => .look fun world => (next world).holding more
  | .change act next => .change act fun world => (next world).holding more
  | .emit event next => .emit event (next.holding more)
  | .rest wake held next => .rest wake (held.both more) (next.holding more)
  | .panic reason => .panic reason

/-- Gives up what is held. -/
def release (held : Cleanup σ ε) : Task σ ε Unit :=
  .change held.effect fun _ => emitAll held.events

/-- Rests for a span of time while something is held; an empty span takes no time. -/
def sleep (held : Cleanup σ ε) (span : Duration) : Task σ ε Unit :=
  if span.isZero then .done ()
  else
    .look fun world =>
      .rest ⟨some (world.now + world.lasting span), fun _ => false⟩ held (.done ())

/-- Rests until the world allows going on. -/
def await (held : Cleanup σ ε) (allowed : World σ → Bool) : Task σ ε Unit :=
  .look fun world =>
    if allowed world then .done () else .rest ⟨none, allowed⟩ held (.done ())

end Task
end ResilientHttp

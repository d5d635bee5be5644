import ResilientHttp.Task.Basic

/-!
Work bound to a context. `Context.run` refuses to start work whose context has ended. Started work
is looked after at every rest: the context's end wakes it too, and then it is abandoned where it
rests and what it held there is given up. At one instant the cancellation counts before the
deadline, and both count before the work going on.
-/

namespace ResilientHttp.Context

variable {σ ε α : Type}

/-- How a context has ended in a world, if it has. -/
def endedIn? (context : Context) (world : World σ) : Option ContextEnd :=
  context.ended? world.tokens world.now

/-- A condition for going on, or the end of a context. -/
def orEnd (context : Context) (wake : Wake σ) : Wake σ where
  instant := earlier wake.instant context.deadline
  allowed world := wake.allowed world || world.tokens.isCancelled context.token

/-- Started work, abandoned where it rests once the context has ended. -/
def guard (context : Context) : Task σ ε α → Task σ ε (Except ContextEnd α)
  | .done value => .done (.ok value)
  | .look next => .look fun world => context.guard (next world)
  | .change act next => .change act fun world => context.guard (next world)
  | .emit event next => .emit event (context.guard next)
  | .rest wake held next =>
    .rest (context.orEnd wake) held (.look fun world =>
      match context.endedIn? world with
      | some ending => (Task.release held).bind fun _ => .done (.error ending)
      | none => context.guard next)
  | .panic reason => .panic reason

/-- Work that is not started if the context has ended, and not continued once it ends. What the
work was to take over is given up if it is not started. -/
def run (context : Context) (pending : Cleanup σ ε) (work : Task σ ε α) :
    Task σ ε (Except ContextEnd α) :=
  .look fun world =>
    match context.endedIn? world with
    | some ending => (Task.release pending).bind fun _ => .done (.error ending)
    | none => context.guard work

/-- Fails if the context has ended. -/
def check (context : Context) : Task σ ε (Except ContextEnd Unit) :=
  .look fun world =>
    match context.endedIn? world with
    | some ending => .done (.error ending)
    | none => .done (.ok ())

end ResilientHttp.Context

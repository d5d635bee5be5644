import ResilientHttp.Event
import ResilientHttp.Proofs.Task.Keeping

/-!
Tasks with something beside their site. `Task.beside` does what a task does in a world that has something
more in it, which the task neither sees nor changes (`Task.keeps_beside`).
-/

namespace ResilientHttp

variable {σ ε α γ : Type}

namespace World

/-- The world without what is beside it. -/
def front (world : World (σ × γ)) : World σ :=
  ⟨world.now, world.longestTimer, world.tokens, world.defaults, world.site.1⟩

/-- What is beside a world. -/
def back (world : World (σ × γ)) : γ := world.site.2

/-- A world with something beside it. -/
def beside (world : World σ) (back : γ) : World (σ × γ) :=
  ⟨world.now, world.longestTimer, world.tokens, world.defaults, (world.site, back)⟩

/-- Beside both worlds is the same. -/
def SameBack (world after : World (σ × γ)) : Prop := after.back = world.back

end World

/-- The same cleanup, with something beside its site. -/
def Cleanup.beside (held : Cleanup σ ε) : Cleanup (σ × γ) ε :=
  ⟨fun world => (held.effect world.front).beside world.back, held.events⟩

/-- The same condition, with something beside its site. -/
def Wake.beside (wake : Wake σ) : Wake (σ × γ) :=
  ⟨wake.instant, fun world => wake.allowed world.front⟩

/-- The same task, with something beside its site. -/
def Task.beside : Task σ ε α → Task (σ × γ) ε α
  | .done value => .done value
  | .look next => .look fun world => (next world.front).beside
  | .change act next =>
    .change (fun world => (act world.front).beside world.back) fun world => (next world.front).beside
  | .emit event next => .emit event next.beside
  | .rest wake held next => .rest wake.beside held.beside next.beside
  | .panic reason => .panic reason

theorem Task.keeps_beside (task : Task σ ε α) :
    (task.beside : Task (σ × γ) ε α).Keeps World.SameBack fun _ => True := by
  induction task with
  | done value => trivial
  | look next ih => exact fun world => ih world.front
  | change act next ih => exact ⟨fun _ => rfl, fun world => ih world.front⟩
  | emit event next ih => exact ih
  | rest wake held next ih => exact ⟨fun _ => rfl, ih⟩
  | panic reason => trivial

end ResilientHttp

import ResilientHttp.Task.Basic

/-!
Tasks beside each other. `Task.both` makes one task of two: whenever it goes on, the first one
takes its turn if it can, then the second one, and together they rest until one of them can go on
again. So at one instant the first goes before the second, and what the second does to wake the
first is noticed at the same instant. `Task.all` does the same for a list, in its order.
-/

namespace ResilientHttp.Task

variable {σ ε α β : Type}

/-- A condition for going on that either of two conditions allows. -/
def eitherWake (first second : Wake σ) : Wake σ where
  instant :=
    match first.instant, second.instant with
    | some left, some right => some (min left right)
    | some left, none => some left
    | none, right => right
  allowed world := first.allowed world || second.allowed world

/-- The turn of a second task while a first one rests; `resume` goes on with the first one beside
what is left of the second. A second task that rests already is only asked whether it can go on. -/
def besideRest (wake : Wake σ) (held : Cleanup σ ε)
    (resume : Task σ ε β → Task σ ε (α × β)) : Bool → Task σ ε β → Task σ ε (α × β)
  | _, .done value => .rest wake held (resume (.done value))
  | _, .look next => .look fun world => besideRest wake held resume true (next world)
  | _, .change act next => .change act fun world => besideRest wake held resume true (next world)
  | _, .emit event next => .emit event (besideRest wake held resume true next)
  | _, .panic reason => .panic reason
  | tookTurn, .rest wake₂ held₂ next =>
    .look fun world =>
      if !tookTurn && wake₂.isDue world then besideRest wake held resume true next
      else
        .rest (eitherWake wake wake₂) (held.both held₂) (.look fun world =>
          if wake.isDue world then resume (.rest wake₂ held₂ next)
          else besideRest wake held resume true next)

/-- Two tasks beside each other. -/
def both : Task σ ε α → Task σ ε β → Task σ ε (α × β)
  | .done value, second => second.bind fun other => .done (value, other)
  | .look next, second => .look fun world => (next world).both second
  | .change act next, second => .change act fun world => (next world).both second
  | .emit event next, second => .emit event (next.both second)
  | .panic reason, _ => .panic reason
  | .rest wake held next, second => besideRest wake held (fun left => next.both left) false second

/-- The tasks of a list beside each other. -/
def all : List (Task σ ε α) → Task σ ε (List α)
  | [] => .done []
  | task :: others => (task.both (all others)).bind fun (value, values) => .done (value :: values)

end ResilientHttp.Task

/-!
Semaphores with a line. A semaphore has a fixed number of permits. Who asks for one gets it at once if
one is free, and stands in line otherwise. A permit that is given back goes to the first in line, and is
free again only if nobody waits. Everybody asks under a number of their own.
-/

namespace ResilientHttp

/-- The permits that are free, the numbers that hold one, and those that wait for one, the first in line
first. -/
structure Semaphore where
  free : Nat
  holders : List Nat
  line : List Nat
  deriving DecidableEq, Repr

namespace Semaphore

/-- A semaphore that nobody has asked yet. -/
def ofPermits (permits : Nat) : Semaphore := ⟨permits, [], []⟩

/-- All numbers that hold a permit or wait for one. -/
def tickets (semaphore : Semaphore) : List Nat := semaphore.holders ++ semaphore.line

/-- Asks for a permit. -/
def enter (number : Nat) (semaphore : Semaphore) : Semaphore :=
  if semaphore.free = 0 then { semaphore with line := semaphore.line ++ [number] }
  else { semaphore with free := semaphore.free - 1, holders := semaphore.holders ++ [number] }

/-- Gives a permit back. -/
def release (number : Nat) (semaphore : Semaphore) : Semaphore :=
  match semaphore.line with
  | [] => { semaphore with free := semaphore.free + 1, holders := semaphore.holders.erase number }
  | next :: line => { semaphore with holders := semaphore.holders.erase number ++ [next], line }

/-- Leaves the line, or gives the permit back. -/
def leave (number : Nat) (semaphore : Semaphore) : Semaphore :=
  if number ∈ semaphore.line then { semaphore with line := semaphore.line.erase number }
  else semaphore.release number

end Semaphore
end ResilientHttp

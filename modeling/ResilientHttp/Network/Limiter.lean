import ResilientHttp.Network.Semaphore
import ResilientHttp.Url.Basic

/-!
The limiter of exchanges with one host. Every host and port that is in use has a gate with a
semaphore. A map finds the gates by the names of their hosts; gates themselves are shared: the map
owns its gates, and so does whoever has fetched one, until it is dropped. Whenever a gate is fetched,
the map first lets go of those gates that nobody else owns.

Fetching a gate, asking there for a permit and giving it up are three things, and others may act
between them. A limit of zero means that there are no gates.
-/

namespace ResilientHttp

/-- Who has fetched a gate: where the gate is, and under which number a permit is asked for there. -/
structure Ticket where
  gate : Nat
  number : Nat
  deriving DecidableEq, Repr

/-- A gate, and how many own it. Nobody can get at a gate without owners any more. -/
structure Gate where
  owners : Nat
  semaphore : Semaphore
  deriving DecidableEq, Repr

/-- The map from the names of hosts to the places of their gates, all gates that there ever were by
their places, and the next number for a ticket. -/
structure Limiter where
  limit : Nat
  hosts : List (String × Nat)
  gates : List Gate
  next : Nat
  deriving DecidableEq, Repr

/-- A gate with one owner more. -/
def Gate.clone (gate : Gate) : Gate := { gate with owners := gate.owners + 1 }

/-- A gate with one owner less. -/
def Gate.drop (gate : Gate) : Gate := { gate with owners := gate.owners - 1 }

namespace Limiter

/-- A limiter without gates. -/
def ofLimit (limit : Nat) : Limiter := ⟨limit, [], [], 0⟩

/-- The most permits that a gate can have. -/
def maxPermits : Nat := Nat.pow 2 61 - 1

/-- What a semaphore says when it should have more permits than that. -/
def tooManyPermits : String :=
  "a semaphore may not have more than MAX_PERMITS permits (" ++ toString maxPermits ++ ")"

/-- The name of the gate that requests for a URL go through. -/
def keyOf (url : Url) : String := url.hostText ++ ":" ++ toString url.effectivePort

/-- How many own the gate at a place. -/
def ownersIn (gates : List Gate) (place : Nat) : Nat := gates[place]?.elim 0 Gate.owners

/-- The entries of the map whose gates somebody else owns too, and the gates when the map has let go
of the others. -/
def retain : List (String × Nat) → List Gate → List (String × Nat) × List Gate
  | [], gates => ([], gates)
  | entry :: later, gates =>
    if 1 < ownersIn gates entry.2 then
      let kept := retain later gates
      (entry :: kept.1, kept.2)
    else retain later (gates.modify entry.2 .drop)

/-- The limiter without the entries whose gates nobody else owns. -/
def prune (limiter : Limiter) : Limiter :=
  let kept := retain limiter.hosts limiter.gates
  { limiter with hosts := kept.1, gates := kept.2 }

/-- The place of the gate that the map has for a key. -/
def gate? (limiter : Limiter) (key : String) : Option Nat :=
  (limiter.hosts.find? (·.1 = key)).map Prod.snd

/-- Fetches the gate of a key: nothing if there is no limit, or else a ticket that owns the gate. A
gate that is missing is set up, unless the limit is more than a semaphore can have. -/
def fetch (limiter : Limiter) (key : String) : Except String (Option Ticket) × Limiter :=
  if limiter.limit = 0 then (.ok none, limiter)
  else
    let kept := limiter.prune
    match kept.gate? key with
    | some place =>
      (.ok (some ⟨place, kept.next⟩),
        { kept with gates := kept.gates.modify place .clone, next := kept.next + 1 })
    | none =>
      if kept.limit ≤ maxPermits then
        let place := kept.gates.length
        (.ok (some ⟨place, kept.next⟩),
          { kept with
            hosts := (key, place) :: kept.hosts
            gates := kept.gates ++ [⟨2, .ofPermits kept.limit⟩]
            next := kept.next + 1 })
      else (.error tooManyPermits, kept)

/-- The limiter with a gate changed. -/
def atGate (limiter : Limiter) (place : Nat) (change : Gate → Gate) : Limiter :=
  { limiter with gates := limiter.gates.modify place change }

/-- The limiter after a ticket has asked for its permit. -/
def ask (limiter : Limiter) (ticket : Ticket) : Limiter :=
  limiter.atGate ticket.gate fun gate =>
    { gate with semaphore := gate.semaphore.enter ticket.number }

/-- The limiter after a ticket was dropped that has not asked. -/
def drop (limiter : Limiter) (ticket : Ticket) : Limiter :=
  limiter.atGate ticket.gate .drop

/-- The limiter after a ticket was dropped that has asked: it is no longer in line, or its permit is
given back. -/
def leave (limiter : Limiter) (ticket : Ticket) : Limiter :=
  limiter.atGate ticket.gate fun gate =>
    Gate.drop { gate with semaphore := gate.semaphore.leave ticket.number }

/-- Whether a ticket holds a permit. -/
def admits (limiter : Limiter) (ticket : Ticket) : Bool :=
  limiter.gates[ticket.gate]?.any fun gate => gate.semaphore.holders.contains ticket.number

end Limiter
end ResilientHttp

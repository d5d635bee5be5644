import ResilientHttp.Network.Exchange
import ResilientHttp.Proofs.Context.Tree
import ResilientHttp.Proofs.Network.Limiter
import ResilientHttp.Proofs.Task.Carrying

/-!
One exchange with a permit. As it is written, an exchange leaves the gates alone until it gives its permit
up, and that is the last thing it does; if it comes to a response instead, the response still has the
permit, and whatever its owner does with it ends in the same way.

* `Network.carries_exchange` — the exchange itself: the body is read and the request is sent.
* `Network.carries_of_handles` — what the owner of the response may do with it.
-/

namespace ResilientHttp

variable {σ τ : Type}

namespace Part

/-- What is put in a part is what is found there. -/
def Lawful (part : Part σ τ) : Prop := ∀ value state, part.get (part.set value state) = value

/-- Both worlds have the same in a part. -/
def Same (part : Part σ τ) (world after : World σ) : Prop := part.read after = part.read world

/-- Time goes on, and a part stays as it is. -/
def Untouched (part : Part σ τ) (world after : World σ) : Prop :=
  part.Same world after ∧ world.Onward after

theorem Lawful.read_write {part : Part σ τ} (lawful : part.Lawful) (change : τ → τ)
    (world : World σ) : part.read (part.write change world) = change (part.read world) :=
  lawful _ _

theorem onward_write (part : Part σ τ) (change : τ → τ) (world : World σ) :
    world.Onward (part.write change world) :=
  ⟨Nat.le_refl _, fun _ => id, fun _ _ => id⟩

theorem untouched_refl (part : Part σ τ) (world : World σ) : part.Untouched world world :=
  ⟨rfl, world.onward_refl⟩

end Part

/-- Whatever a network does, and whatever it does to give up one of its responses, moves the world along
a relation. -/
def Network.Moves (kept : World σ → World σ → Prop) (network : Network σ) : Prop :=
  ∀ method url headers octets, (network method url headers octets).Keeps kept fun outcome =>
    ∀ response, outcome = .ok response → response.held.Keeps kept

namespace Network

variable {network : Network σ} {gates : Part σ Limiter} {ticket : Ticket} {request : Request}
  {held : Cleanup σ Event}

/-- Time goes on, and a ticket that has asked is dropped. -/
def GivesUp (gates : Part σ Limiter) (ticket : Ticket) (world after : World σ) : Prop :=
  gates.read after = (gates.read world).leave ticket ∧ world.Onward after

/-- What an exchange with a ticket comes to, if that is something that still has the permit: a response
that gives it up. -/
def Owed (gates : Part σ Limiter) (ticket : Ticket) : Option (Response σ Event) → Prop
  | some response => response.held.Frees (GivesUp gates ticket)
  | none => False

theorem frees_leaving (lawful : gates.Lawful) (ticket : Ticket) :
    (leaving gates ticket).Frees (GivesUp gates ticket) :=
  fun world => ⟨lawful.read_write _ world, gates.onward_write _ world⟩

/-- To do something that has nothing to do with the gates first makes no difference. -/
theorem givesUp_of_untouched {first second third : World σ} (own : gates.Untouched first second)
    (gives : GivesUp gates ticket second third) : GivesUp gates ticket first third := by
  refine ⟨?_, own.2.trans gives.2⟩
  rw [gives.1, show gates.read second = _ from own.1]

/-- An exchange, or a call of its owner, that carries its permit to its end. -/
abbrev Carrying (gates : Part σ Limiter) (ticket : Ticket) :
    Task σ Event (Option (Response σ Event)) → Prop :=
  Task.Carries gates.Untouched (GivesUp gates ticket) (Owed gates ticket) (· = none)

/-! ### The exchange -/

theorem readBody_of_some {body : Body} (h : request.body = some body) :
    readBody request held = (request.context.run held (body.collect held)).proceed fun
      | .error fault => (Task.release held).bind fun _ => .done (.error (.requestBody fault))
      | .ok octets => .done (.ok (some octets)) := by
  rw [readBody, h]
  refine congrArg (Task.bind _) (funext fun result => ?_)
  rcases result with ending | fault | octets <;> rfl

theorem exchange_eq :
    network.exchange request held = (readBody request held).bind fun
      | .error error => .done (.error error)
      | .ok octets =>
          (request.context.run held
            ((network request.method request.url request.headers octets).holding held)).proceed fun
            | .error fault => (Task.release held).bind fun _ => .done (.error (.transport fault))
            | .ok response => .done (.ok { response with held := response.held.both held }) := by
  refine congrArg (Task.bind _) (funext fun read => ?_)
  cases read with
  | error error => rfl
  | ok octets =>
      refine congrArg (Task.bind _) (funext fun result => ?_)
      rcases result with ending | fault | response <;> rfl

/-- Reading the body of the request: the permit is given up if that fails. -/
theorem carries_readBody (lawful : gates.Lawful) (request : Request) :
    (readBody request (leaving gates ticket)).Carries gates.Untouched (GivesUp gates ticket)
      (fun read => ∃ octets, read = .ok octets) (fun read => ∃ error, read = .error error) := by
  have gives := frees_leaving lawful ticket
  cases hbody : request.body with
  | none =>
      rw [readBody, hbody]
      exact ⟨none, rfl⟩
  | some body =>
      rw [readBody_of_some hbody]
      refine .proceed (request.context.carries_run gives (body.carries_collect gives)) ?_
        (fun _ => False.elim) fun ending => ⟨_, rfl⟩
      rintro (fault | octets) -
      · exact Task.carries_release_bind gives ⟨_, rfl⟩
      · exact ⟨_, rfl⟩

/-- One exchange. The permit is given up if it fails; a response still has it. -/
theorem carries_exchange (lawful : gates.Lawful) (apart : network.Moves gates.Untouched)
    (request : Request) :
    (network.exchange request (leaving gates ticket)).Carries gates.Untouched (GivesUp gates ticket)
      (fun outcome => Owed gates ticket outcome.toOption) (fun outcome => outcome.toOption = none) := by
  have gives := frees_leaving lawful ticket
  rw [exchange_eq]
  refine (carries_readBody lawful request).bind ?_ ?_
  · rintro _ ⟨octets, rfl⟩
    have sends := Task.carries_holding (apart request.method request.url request.headers octets) gives
      fun _ _ _ => givesUp_of_untouched
    refine .proceed (request.context.carries_run gives sends) ?_ (fun _ => False.elim) fun ending => rfl
    rintro (fault | response) keeps
    · exact Task.carries_release_bind gives rfl
    · exact fun world => givesUp_of_untouched (keeps response rfl world) (gives _)
  · rintro _ ⟨error, rfl⟩
    rfl

/-! ### The response -/

/-- What the owner of a response may do with it: read it, alone or under a context, or drop it unread.
Whoever reads may also stop at any time. -/
inductive Handles (response : Response σ Event) :
    Task σ Event (Option (Response σ Event)) → Prop where
  | read : Handles response (response.bytes.bind fun _ => .done none)
  | readUnder {context : Context} :
      Handles response ((context.run response.held response.bytes).bind fun _ => .done none)
  | drop : Handles response (response.drop.bind fun _ => .done none)

/-- Whatever the owner of a response does with it gives its permit up. -/
theorem carries_of_handles {response : Response σ Event}
    {task : Task σ Event (Option (Response σ Event))} (handles : Handles response task)
    (gives : response.held.Frees (GivesUp gates ticket)) : Carrying gates ticket task := by
  have reads : response.bytes.Carries gates.Untouched (GivesUp gates ticket) (fun _ => False)
      fun _ => True :=
    (response.body.carries_collect gives).bind (fun _ _ => Task.carries_release_bind gives trivial)
      fun _ => False.elim
  cases handles with
  | read => exact reads.bind (fun _ => False.elim) fun _ _ => rfl
  | @readUnder context =>
      refine (context.carries_run gives reads).bind ?_ fun _ _ => rfl
      rintro (ending | result) kept <;> exact kept.elim
  | drop => exact Task.carries_release_bind gives rfl

end Network
end ResilientHttp

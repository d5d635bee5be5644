import ResilientHttp.Proofs.Network.Exchange
import ResilientHttp.Proofs.Recording
import ResilientHttp.Proofs.Retry.Idling
import ResilientHttp.Proofs.Site

/-!
A call that has the gates to itself. Each of its attempts drops its ticket before the next one begins,
however it has ended, so the next one finds gates that nobody owns but the map.

* `Limiter.admits_of_alone` — whoever asks at a gate and is alone there is let through at once.
* `Network.serves_executor` — an exchange that begins where nobody owns a gate leaves it so, unless a
  response is to be given up, and to give it up leaves it so.
* `Network.attempts_at_once` — so no attempt of a retrying call ever waits at a gate, and the call ends.
-/

namespace ResilientHttp

variable {σ ε α : Type}

/-- Nobody but the map owns a gate. -/
structure Limiter.Idle (permits : Nat) (limiter : Limiter) : Prop where
  sound : limiter.Sound permits
  accounts : limiter.Accounts []

/-- Somebody with a ticket that has a permit, and nobody else, owns a gate besides the map. -/
structure Limiter.Alone (permits : Nat) (holder : Holder) (limiter : Limiter) : Prop where
  sound : limiter.Sound permits
  accounts : limiter.Accounts [holder]
  admits : limiter.admits holder.ticket = true

namespace Limiter

variable {permits : Nat} {limiter after : Limiter} {holder : Holder} {ticket : Ticket} {key : String}

theorem idle_ofLimit (permits : Nat) : (ofLimit permits).Idle permits :=
  ⟨sound_ofLimit permits, accounts_ofLimit permits⟩

/-- Where nobody else owns a gate, whoever has asked for a permit has one. -/
theorem admits_of_alone (positive : permits ≠ 0) (sound : limiter.Sound permits)
    (accounts : limiter.Accounts [holder]) (stands : limiter.Stands holder.ticket) :
    limiter.admits holder.ticket = true := by
  have ⟨semaphore, found, _⟩ := stands
  by_cases free : semaphore.free = 0
  · -- All permits are held, so somebody holds one, and that can only be the one who is there.
    have count := (sound.balanced found).count
    obtain ⟨number, holds⟩ : ∃ number, number ∈ semaphore.holders := by
      refine List.exists_mem_of_ne_nil _ fun none => ?_
      rw [free, none] at count
      exact positive count.symm
    have admits : limiter.admits ⟨holder.ticket.gate, number⟩ = true :=
      admits_iff.mpr ⟨semaphore, found, holds⟩
    obtain ⟨other, mem, own⟩ := accounts.present (stands_of_admits admits)
    obtain rfl := List.mem_singleton.mp mem
    rwa [← own] at admits
  · exact sound.admits_of_free stands found free

/-- Whoever fetches a gate where nobody owns one, and asks there, is let through. -/
theorem Idle.alone_of_fetch (idle : limiter.Idle permits) (positive : permits ≠ 0)
    (fetches : limiter.fetch key = (.ok (some ticket), after)) :
    (after.ask ticket).Alone permits ⟨ticket, key⟩ := by
  have fetched := fetches_of_fetch idle.sound fetches
  have sound := fetched.passes.sound idle.sound
  have asked := (passes_ask sound fetched.older (fetched.absent idle.sound)).sound sound
  have accounts := (fetched.accounts idle.accounts).ask List.mem_cons_self
  exact ⟨asked, accounts, admits_of_alone positive asked accounts (stands_ask fetched.known)⟩

/-- When the only one who owns a gate is gone, nobody does. -/
theorem Alone.idle_leave (alone : limiter.Alone permits holder) :
    (limiter.leave holder.ticket).Idle permits := by
  have stands := stands_of_admits alone.admits
  exact ⟨(passes_leave alone.sound stands).sound alone.sound, alone.accounts.leave alone.sound stands⟩

end Limiter

namespace Network

variable {network : Network σ} {gates : Part σ Limiter} {permits : Nat} {request : Request}
  {world : World σ}

/-- The terms of a call that has the gates to itself: nobody owns them whenever it is over. -/
def solitary (gates : Part σ Limiter) (permits : Nat) : Terms σ Event where
  rely := gates.Same
  guar _ _ := True
  tells _ _ := True
  rests _ := True
  leaves world := (gates.read world).Idle permits

/-- A response has the only permit that is held. -/
def Kept (gates : Part σ Limiter) (permits : Nat) (response : Response σ Event) (world : World σ) :
    Prop :=
  ∃ holder, (gates.read world).Alone permits holder ∧
    response.held.Frees (GivesUp gates holder.ticket)

theorem waiting_solitary : Task.AllowsWaiting (solitary gates permits).rely where
  still _ := rfl
  wait _ _ _ := rfl

theorem idling_solitary : (solitary gates permits).Idling (Kept gates permits) where
  stays world later idle same := by
    change (gates.read later).Idle permits
    rw [show gates.read later = gates.read world from same]
    exact idle
  still _ _ := trivial
  tells _ _ _ := trivial
  rests _ _ := trivial
  waits := by
    rintro response world later ⟨holder, alone, frees⟩ (same : gates.read later = gates.read world)
    exact ⟨holder, same ▸ alone, frees⟩
  gives := by
    rintro response world ⟨holder, alone, frees⟩
    refine ⟨trivial, fun _ _ => trivial, ?_⟩
    change (gates.read _).Idle permits
    rw [(frees world).1]
    exact alone.idle_leave

/-! ### One attempt -/

section Attempt

variable {ticket : Ticket} {after : Limiter}

/-- How a request goes on by what it was given when it fetched its gate. -/
def goOnWith (network : Network σ) (gates : Part σ Limiter) (request : Request) :
    Except String (Option Ticket) → Task σ Event (ExchangeResult σ)
  | .error reason => .panic reason
  | .ok none => network.exchange request .none
  | .ok (some ticket) =>
      (request.context.run (fetched gates ticket) (acquire gates ticket)).proceed
        fun _ => network.exchange request (leaving gates ticket)

/-- The executor fetches the gate of a request first. -/
theorem executor_eq (network : Network σ) (gates : Part σ Limiter) (request : Request) :
    executor network gates request =
      .change (gates.write fun limiter => (limiter.fetch (Limiter.keyOf request.url)).2) fun before =>
        network.goOnWith gates request ((gates.read before).fetch (Limiter.keyOf request.url)).1 := by
  refine congrArg (Task.change _) (funext fun before => ?_)
  unfold goOnWith
  rcases ((gates.read before).fetch (Limiter.keyOf request.url)).1 with reason | _ | ticket
  · rfl
  · rfl
  · refine congrArg (Task.bind _) (funext fun result => ?_)
    rcases result with ending | ⟨⟩ <;> rfl

/-- The world in which a request has fetched its gate and asked for its permit. -/
def asked (gates : Part σ Limiter) (request : Request) (ticket : Ticket) (world : World σ) : World σ :=
  gates.write (·.ask ticket)
    (gates.write (fun limiter => (limiter.fetch (Limiter.keyOf request.url)).2) world)

/-- An attempt passes its gate at once: it is given a ticket that has a permit as soon as it asks, and its turn
is that of the exchange itself. -/
def AtOnce (network : Network σ) (gates : Part σ Limiter) (world : World σ) (request : Request) : Prop :=
  ∃ ticket after,
    (gates.read world).fetch (Limiter.keyOf request.url) = (.ok (some ticket), after) ∧
    (after.ask ticket).admits ticket = true ∧
    (executor network gates request).turn world =
      (network.exchange request (leaving gates ticket)).turn (asked gates request ticket world)

theorem read_asked (lawful : gates.Lawful)
    (fetches : (gates.read world).fetch (Limiter.keyOf request.url) = (.ok (some ticket), after)) :
    gates.read (asked gates request ticket world) = after.ask ticket := by
  rw [asked, lawful.read_write, lawful.read_write, fetches]

/-- A request that is let through at once goes on with its exchange. -/
theorem executor_of_admits (lawful : gates.Lawful)
    (fetches : (gates.read world).fetch (Limiter.keyOf request.url) = (.ok (some ticket), after))
    (admits : (after.ask ticket).admits ticket = true)
    (live : request.context.endedIn? world = none) {motive : Task σ Event _ → World σ → Prop}
    (look : ∀ next world, motive (next world) world → motive (.look next) world)
    (change : ∀ act next world, motive (next world) (act world) → motive (.change act next) world)
    (h : motive (network.exchange request (leaving gates ticket)) (asked gates request ticket world)) :
    motive (executor network gates request) world := by
  have first : ((gates.read world).fetch (Limiter.keyOf request.url)).1 = .ok (some ticket) :=
    congrArg Prod.fst fetches
  have begun : request.context.endedIn?
      (gates.write (fun limiter => (limiter.fetch (Limiter.keyOf request.url)).2) world) = none := live
  have through : (gates.read (asked gates request ticket world)).admits ticket = true := by
    rw [read_asked lawful fetches]
    exact admits
  rw [executor_eq]
  refine change _ _ _ ?_
  rw [first]
  refine look _ _ ?_
  dsimp only
  rw [begun]
  refine change _ _ _ (look _ _ ?_)
  dsimp only
  rw [if_pos (show (gates.read (gates.write _ (gates.write _ world))).admits ticket = true
    from through)]
  exact h

theorem atOnce_of_idle (lawful : gates.Lawful) (positive : permits ≠ 0)
    (countable : permits ≤ Limiter.maxPermits) (idle : (gates.read world).Idle permits)
    (live : request.context.endedIn? world = none) : network.AtOnce gates world request := by
  have limit := idle.sound.limit
  obtain ⟨ticket, after, fetches⟩ :=
    (gates.read world).exists_fetch (Limiter.keyOf request.url) (limit ▸ positive) (limit ▸ countable)
  have admits := (idle.alone_of_fetch positive fetches).admits
  refine ⟨ticket, after, fetches, admits, ?_⟩
  exact executor_of_admits lawful fetches admits live
    (motive := fun task now => task.turn now =
      (network.exchange request (leaving gates ticket)).turn (asked gates request ticket world))
    (fun _ _ => id) (fun _ _ _ => id) rfl

/-- An exchange through a gate, of a call that has the gates to itself. -/
theorem serves_executor (lawful : gates.Lawful) (apart : network.Moves gates.Untouched)
    (positive : permits ≠ 0) (countable : permits ≤ Limiter.maxPermits) (context : Context) :
    (executor network gates).Serves (solitary gates permits) (Kept gates permits) context := by
  rintro request world rfl idle live
  have idle : (gates.read world).Idle permits := idle
  obtain ⟨ticket, after, fetches, admits, -⟩ :=
    network.atOnce_of_idle lawful positive countable idle live
  have alone := idle.alone_of_fetch positive fetches
  rw [← read_asked lawful fetches] at alone
  refine executor_of_admits lawful fetches admits live (fun _ _ => id) (fun _ _ _ h => ⟨trivial, h⟩) ?_
  -- The permit is carried through the exchange, and nobody else owns a gate until it is given up.
  let holder : Holder := ⟨ticket, Limiter.keyOf request.url⟩
  let stays (world : World σ) : Prop := (gates.read world).Alone permits holder
  have own : ∀ world after, stays world → gates.Untouched world after → True ∧ stays after :=
    fun world after alone untouched => by
      refine ⟨trivial, ?_⟩
      change (gates.read after).Alone permits holder
      rw [show gates.read after = gates.read world from untouched.1]
      exact alone
  have gives : ∀ world after, stays world → GivesUp gates ticket world after →
      True ∧ (gates.read after).Idle permits :=
    fun world after alone gives => by
      refine ⟨trivial, ?_⟩
      rw [gives.1]
      exact alone.idle_leave
  have others : ∀ world later, stays world → gates.Same world later → stays later :=
    fun world later alone same => by
      change (gates.read later).Alone permits holder
      rw [show gates.read later = gates.read world from same]
      exact alone
  have exchange : (network.exchange request (leaving gates ticket)).Abides (solitary gates permits) _ _ :=
    (carries_exchange lawful apart request).abides (fun _ _ => trivial) own gives others
      (fun _ _ => trivial) (fun _ => id) alone
  refine exchange.mono fun outcome later ends => ?_
  cases outcome with
  | error error =>
      rcases ends with ⟨owed, -⟩ | ⟨-, idle⟩
      · exact owed.elim
      · exact idle
  | ok response =>
      rcases ends with ⟨frees, alone⟩ | ⟨spent, -⟩
      · exact ⟨holder, alone, frees⟩
      · cases spent

/-! ### Exchanges end -/

theorem returns_readBody (request : Request) (held : Cleanup σ Event) (world : World σ) :
    (readBody request held).Returns world := by
  cases hbody : request.body with
  | none =>
      rw [readBody, hbody]
      exact Task.returns_done _ world
  | some body =>
      rw [readBody_of_some hbody]
      refine (request.context.returns_run held (body.returns_collect held world)).proceed ?_
      intro read after
      cases read with
      | error fault => exact (Task.returns_release held after).bind fun _ later => Task.returns_done _ later
      | ok octets => exact Task.returns_done _ after

/-- An exchange ends if the network brings something back. -/
theorem returns_exchange
    (answers : ∀ method url headers octets world, (network method url headers octets).Returns world)
    (request : Request) (held : Cleanup σ Event) (world : World σ) :
    (network.exchange request held).Returns world := by
  rw [exchange_eq]
  refine (returns_readBody request held world).bind ?_
  intro read after
  cases read with
  | error error => exact Task.returns_done _ after
  | ok octets =>
      refine (request.context.returns_run held ((answers ..).holding held)).proceed ?_
      intro outcome later
      cases outcome with
      | error fault => exact (Task.returns_release held later).bind fun _ end_ => Task.returns_done _ end_
      | ok response => exact Task.returns_done _ later

/-- Whether a task ends does not depend on where it is interrupted. -/
theorem returns_turn {task : Task σ ε α} {world : World σ} :
    (task.turn world).1.Returns (task.turn world).2 ↔ task.Returns world := by
  induction task generalizing world with
  | look next ih => exact ih world
  | change act next ih => exact ih world
  | emit event next ih => exact ih
  | done _ | rest _ _ _ | panic _ => exact Iff.rfl

/-- An attempt ends that is made where nobody owns a gate. -/
theorem returns_executor (lawful : gates.Lawful) (positive : permits ≠ 0)
    (countable : permits ≤ Limiter.maxPermits)
    (answers : ∀ method url headers octets world, (network method url headers octets).Returns world)
    (idle : (gates.read world).Idle permits) (live : request.context.endedIn? world = none) :
    (executor network gates request).Returns world := by
  obtain ⟨ticket, after, -, -, turn⟩ := network.atOnce_of_idle lawful positive countable idle live
  rw [← returns_turn, turn, returns_turn]
  exact returns_exchange answers request (leaving gates ticket) _

end Attempt

/-! ### A call -/

/-- The others leave the gates and the journal alone. -/
def Aside (gates : Part σ Limiter) (world later : World (Noted σ)) : Prop :=
  later.journal = world.journal ∧ gates.Same world.plain later.plain

/-- A call that has the gates to itself, with any limit that a semaphore can have. The recorded call is the
call itself with a journal written below the policy. In every run in which the others leave the gates alone,
each attempt passes its gate at once, whatever has become of those before it. A call that is alone ends, if
the network brings something back for every request. -/
theorem attempts_at_once (lawful : gates.Lawful) (apart : network.Moves gates.Untouched)
    (positive : permits ≠ 0) (countable : permits ≤ Limiter.maxPermits)
    (idle : (gates.read world).Idle permits) (policy : RetryPolicy) (sink : Sink) (request : Request) :
    Task.Recorded (Except.map Response.noted)
      (policy.retrying sink (executor network gates) request)
      (policy.retrying sink (executor network gates).recording request) ∧
    (∀ (after : World (Noted σ)) (moments : List (Moment (Noted σ) Event))
      (left : Task (Noted σ) Event (ExchangeResult (Noted σ))),
      Task.Run (Aside gates) (policy.retrying sink (executor network gates).recording request)
        (world.noted .empty) moments left after →
      ∀ entry ∈ after.journal.handed, network.AtOnce gates entry.1 entry.2) ∧
    ((∀ method url headers octets world, (network method url headers octets).Returns world) →
      ∃ result, ((policy.retrying sink (executor network gates) request).course world).outcome =
        .value result) := by
  have serves := serves_executor lawful apart positive countable request.context
  refine ⟨policy.recorded_retrying sink _ request, fun after moments left runs => ?_,
    fun answers => ?_⟩
  · intro entry mem
    have begins : (solitary gates permits).leaves (world.noted .empty).plain := idle
    obtain ⟨free, live⟩ :=
      RetryPolicy.handedIdly_of_run idling_solitary serves begins rfl runs entry mem
    exact atOnce_of_idle lawful positive countable free live
  · refine policy.returns_of_idle idling_solitary waiting_solitary serves ?_ idle
    intro sent world same free live
    refine returns_executor lawful positive countable answers free ?_
    rwa [same]

/-! ### A host with one connection that is overloaded -/

/-- A network that answers at once that the host is overloaded. -/
def overloaded : Network Site := fun _ _ _ _ => .done (.ok (.new ⟨503⟩ (.stream [.data [97]])))

theorem moves_overloaded : overloaded.Moves Site.gates.Untouched := by
  rintro method url headers octets response ⟨⟩
  exact fun world => Site.gates.untouched_refl world

/-- Three attempts through a gate with one permit. -/
theorem attempts_at_once_overloaded :
    let call := (RetryPolicy.constant 2 .zero).retrying .tracing
      (executor overloaded Site.gates).recording (.toSite none ⟨0, none⟩)
    let course := call.course ((Site.world ⟨[], .ofLimit 1⟩).noted .empty)
    course.world.journal.handed.length = 3 ∧
      (∀ entry ∈ course.world.journal.handed, overloaded.AtOnce Site.gates entry.1 entry.2) ∧
      ∃ result, (((RetryPolicy.constant 2 .zero).retrying .tracing (executor overloaded Site.gates)
        (.toSite none ⟨0, none⟩)).course (Site.world ⟨[], .ofLimit 1⟩)).outcome = .value result := by
  intro call course
  have closed : ∃ error, course.outcome = .value (.error error) := ⟨_, rfl⟩
  obtain ⟨error, closed⟩ := closed
  have waiting : Task.AllowsWaiting (Aside Site.gates) := ⟨fun _ => ⟨rfl, rfl⟩, fun _ _ _ => ⟨rfl, rfl⟩⟩
  have idle : (Site.gates.read (Site.world ⟨[], .ofLimit 1⟩)).Idle 1 := Limiter.idle_ofLimit 1
  obtain ⟨-, atOnce, ends⟩ := attempts_at_once (fun _ _ => rfl) moves_overloaded Nat.one_ne_zero
    (by decide) idle (.constant 2 .zero) .tracing (.toSite none ⟨0, none⟩)
  refine ⟨by decide +kernel, ?_, ends fun _ _ _ _ _ => ⟨_, rfl⟩⟩
  exact atOnce _ _ _ (Task.run_moments waiting closed)

/-- Where the limit is more than a semaphore can have, no attempt finds a permit: the first one panics, though
nobody owns a gate. -/
theorem no_permit_above_max :
    let limit := Limiter.maxPermits + 1
    let world := Site.world ⟨[], .ofLimit limit⟩
    let request : Request := .toSite none ⟨0, none⟩
    (Site.gates.read world).Idle limit ∧ ¬ overloaded.AtOnce Site.gates world request ∧
      (((RetryPolicy.constant 2 .zero).retrying .tracing (executor overloaded Site.gates) request).course
        world).outcome = .panicked Limiter.tooManyPermits := by
  intro limit world request
  refine ⟨Limiter.idle_ofLimit limit, ?_, rfl⟩
  rintro ⟨ticket, after, fetches, -⟩
  cases congrArg Prod.fst fetches

end Network
end ResilientHttp

import ResilientHttp.Proofs.Network.Exchange
import ResilientHttp.Proofs.Task.Crowd

/-!
Many requests at the gates. Requests to any hosts go through one executor: they fetch their gates, ask for
permits, wait, are let through, fail or are answered, and their owners read or drop the responses. Any of
them may be abandoned where it rests, and contexts may end, at any time; and others may act between any two
actions of a request.

* `Place` — where a request is before its exchange begins, and the equations `at_fetched` to `at_quitting`
  say what it does there.
* `Visit.Stage` — how far a visit has come; `Stage.acts`, `Stage.gives` — what it does next.
* `Network.standing` — the discipline of the whole crowd.
-/

namespace ResilientHttp

variable {σ : Type}

/-- A request and the ticket that it was given. -/
structure Visit where
  request : Request
  ticket : Ticket

/-- The name of the gate that a visit goes through. -/
def Visit.key (visit : Visit) : String := Limiter.keyOf visit.request.url

/-- Who is at a gate: a ticket and its key. -/
def Visit.holder (visit : Visit) : Holder := ⟨visit.ticket, visit.key⟩

/-- Where a visit is until its exchange begins. It has fetched its gate; it finds that its context has
ended, or it asks for a permit; it has asked; it waits in line; it is woken there; and if its context has
ended by then, it quits. -/
inductive Place where
  | fetched
  | refused (ending : ContextEnd)
  | asking
  | asked
  | waiting
  | woken
  | quitting (ending : ContextEnd)

namespace Network

variable (network : Network σ) (gates : Part σ Limiter)

/-- A request through the executor. What comes of it is the response that its owner still has to read or
to give up, if there is one. -/
def serve (request : Request) : Task σ Event (Option (Response σ Event)) :=
  (executor network gates request).bind fun outcome => .done outcome.toOption

/-- What becomes of a visit after its wait at the gate. -/
def goOn (visit : Visit) (wait : Task σ Event (Except ContextEnd Unit)) :
    Task σ Event (Option (Response σ Event)) :=
  (wait.proceed fun _ => network.exchange visit.request (leaving gates visit.ticket)).bind
    fun outcome => .done outcome.toOption

/-- What a visit does at a place. -/
def standsAt (visit : Visit) (place : Place) : Task σ Event (Option (Response σ Event)) :=
  let context := visit.request.context
  let admits : World σ → Bool := fun world => (gates.read world).admits visit.ticket
  network.goOn gates visit <| match place with
  | .fetched => context.run (fetched gates visit.ticket) (acquire gates visit.ticket)
  | .refused ending => (Task.release (fetched gates visit.ticket)).bind fun _ => .done (.error ending)
  | .asking => context.guard (acquire gates visit.ticket)
  | .asked => context.guard (.await (leaving gates visit.ticket) admits)
  | .waiting => context.guard (.rest ⟨none, admits⟩ (leaving gates visit.ticket) (.done ()))
  | .woken => context.resume (leaving gates visit.ticket) (.done (.ok ()))
  | .quitting ending => (Task.release (leaving gates visit.ticket)).bind fun _ => .done (.error ending)

/-- What a visit does that was let through. -/
def through (visit : Visit) : Task σ Event (Option (Response σ Event)) :=
  network.goOn gates visit (.done (.ok ()))

/-- Whether something is left of a visit. -/
def isLive : Task σ Event (Option (Response σ Event)) → Bool
  | .done none => false
  | .emit _ next => isLive next
  | _ => true

/-- What may happen at the gates: requests come, each with the ticket that it is given, they go on by single
actions, the owners of responses handle them, and others leave the gates alone. -/
def visits : Crowd.Rules Visit σ Event (Option (Response σ Event)) where
  goes := Task.Acts
  joins world visit task := task = network.serve gates visit.request ∧
    ∃ after, (gates.read world).fetch visit.key = (.ok (some visit.ticket), after)
  follows value task := ∃ response, value = some response ∧ Handles response task
  others := gates.Untouched

/-! ### What a visit does -/

section Equations

variable {visit : Visit}

/-- What becomes of a request, by what was fetched for it. -/
def received (request : Request) (before : World σ) : Task σ Event (Option (Response σ Event)) :=
  match ((gates.read before).fetch (Limiter.keyOf request.url)).1 with
  | .error reason => .panic reason
  | .ok none => (network.exchange request .none).bind fun outcome => .done outcome.toOption
  | .ok (some ticket) => network.standsAt gates ⟨request, ticket⟩ .fetched

/-- A request begins by fetching its gate. -/
theorem serve_eq (request : Request) : network.serve gates request =
    .change (gates.write fun limiter => (limiter.fetch (Limiter.keyOf request.url)).2)
      (network.received gates request) := by
  refine congrArg (Task.change _) (funext fun before => ?_)
  unfold received
  dsimp only
  rcases ((gates.read before).fetch (Limiter.keyOf request.url)).1 with reason | _ | ticket
  · rfl
  · rfl
  · refine congrArg (Task.bind · _) (congrArg (Task.bind _) (funext fun result => ?_))
    rcases result with ending | ⟨⟩ <;> rfl

theorem received_of_fetch {world : World σ} {after : Limiter}
    (fetches : (gates.read world).fetch visit.key = (.ok (some visit.ticket), after)) :
    network.received gates visit.request world = network.standsAt gates visit .fetched := by
  have first : ((gates.read world).fetch (Limiter.keyOf visit.request.url)).1 =
      .ok (some visit.ticket) := congrArg Prod.fst fetches
  rw [received, first]

variable (visit)

theorem at_fetched : network.standsAt gates visit .fetched = .look fun world =>
    match visit.request.context.endedIn? world with
    | some ending => network.standsAt gates visit (.refused ending)
    | none => network.standsAt gates visit .asking := by
  refine congrArg Task.look (funext fun world => ?_)
  dsimp only
  cases visit.request.context.endedIn? world <;> rfl

theorem at_refused (ending : ContextEnd) : network.standsAt gates visit (.refused ending) =
    .change (gates.write (·.drop visit.ticket)) fun _ => .done none :=
  rfl

theorem at_asking : network.standsAt gates visit .asking =
    .change (gates.write (·.ask visit.ticket)) fun _ => network.standsAt gates visit .asked :=
  rfl

theorem at_asked : network.standsAt gates visit .asked = .look fun world =>
    if (gates.read world).admits visit.ticket then network.through gates visit
    else network.standsAt gates visit .waiting := by
  refine congrArg Task.look (funext fun world => ?_)
  dsimp only
  split <;> rfl

theorem at_waiting : network.standsAt gates visit .waiting =
    .rest (visit.request.context.orEnd ⟨none, fun world => (gates.read world).admits visit.ticket⟩)
      (leaving gates visit.ticket) (network.standsAt gates visit .woken) :=
  rfl

theorem at_woken : network.standsAt gates visit .woken = .look fun world =>
    match visit.request.context.endedIn? world with
    | some ending => network.standsAt gates visit (.quitting ending)
    | none => network.through gates visit := by
  refine congrArg Task.look (funext fun world => ?_)
  dsimp only
  cases visit.request.context.endedIn? world <;> rfl

theorem at_quitting (ending : ContextEnd) : network.standsAt gates visit (.quitting ending) =
    .change (gates.write (·.leave visit.ticket)) fun _ => .done none :=
  rfl

theorem isLive_standsAt (place : Place) : isLive (network.standsAt gates visit place) = true := by
  cases place <;> rfl

end Equations

variable {network gates} {permits : Nat} {ticket : Ticket} {world : World σ}
  {task : Task σ Event (Option (Response σ Event))}

/-- Nothing is left of a visit that is over. -/
theorem isLive_of_over (spent : task.Over (· = none)) : isLive task = false := by
  induction task with
  | done value => rw [show value = none from spent]; rfl
  | emit event next ih => exact ih spent
  | look | change | rest | panic => exact spent.elim

/-- Something is left of a visit that has a permit. -/
theorem isLive_of_carrying (carrying : Carrying gates ticket task) : isLive task = true := by
  induction task with
  | done value =>
      cases value with
      | none => exact carrying.elim
      | some response => rfl
  | emit event next ih => exact ih carrying
  | look | change | rest | panic => rfl

theorem carrying_through (lawful : gates.Lawful) (apart : network.Moves gates.Untouched)
    (visit : Visit) : Carrying gates visit.ticket (network.through gates visit) :=
  (carries_exchange lawful apart visit.request).bind (fun _ => id) fun _ => id

end Network

/-! ### One visit -/

namespace Visit

variable {network : Network σ} {gates : Part σ Limiter} {permits : Nat} {visit : Visit}
  {world after : World σ} {task next : Task σ Event (Option (Response σ Event))}

/-- What is known of a visit at a place: whether it has asked for a permit, and when it was woken, why. -/
def FitsAt (gates : Part σ Limiter) (visit : Visit) (world : World σ) : Place → Prop
  | .fetched | .refused _ | .asking => ¬ (gates.read world).Stands visit.ticket
  | .asked | .waiting | .quitting _ => (gates.read world).Stands visit.ticket
  | .woken => (gates.read world).Stands visit.ticket ∧
      (visit.request.context.endedIn? world = none → (gates.read world).admits visit.ticket = true)

/-- How far a visit has come: it is still at its gate, it has a permit, or it is over. -/
inductive Stage (network : Network σ) (gates : Part σ Limiter) (visit : Visit) :
    Task σ Event (Option (Response σ Event)) → World σ → Prop where
  | atGate {world : World σ} (place : Place) : visit.FitsAt gates world place →
      Stage network gates visit (network.standsAt gates visit place) world
  | carrying {task : Task σ Event (Option (Response σ Event))} {world : World σ} :
      (gates.read world).admits visit.ticket = true → Network.Carrying gates visit.ticket task →
      Stage network gates visit task world
  | gone {task : Task σ Event (Option (Response σ Event))} {world : World σ} :
      ¬ (gates.read world).Stands visit.ticket → task.Over (· = none) →
      Stage network gates visit task world

/-- What one action of a visit may do to the gates: nothing, or it asks for its permit, or its ticket is
dropped, before it has asked or after; and whether something is left of the visit before and after it. -/
inductive Does (gates : Part σ Limiter) (visit : Visit) (world after : World σ) : Bool → Bool → Prop where
  | nothing {live : Bool} : gates.Same world after → Does gates visit world after live live
  | asks : ¬ (gates.read world).Stands visit.ticket →
      gates.read after = (gates.read world).ask visit.ticket → Does gates visit world after true true
  | drops : ¬ (gates.read world).Stands visit.ticket →
      gates.read after = (gates.read world).drop visit.ticket → Does gates visit world after true false
  | leaves : (gates.read world).Stands visit.ticket →
      gates.read after = (gates.read world).leave visit.ticket → Does gates visit world after true false

/-- Whatever a visit does, it does nothing to any other ticket. -/
theorem Does.passes {live left : Bool} (does : visit.Does gates world after live left)
    (sound : (gates.read world).Sound permits)
    (older : visit.ticket.number < (gates.read world).next) :
    (gates.read world).Passes permits (some visit.ticket) (gates.read after) := by
  cases does with
  | nothing same => exact same ▸ Limiter.passes_refl ..
  | asks absent asked => exact asked ▸ Limiter.passes_ask sound older absent
  | drops _ dropped => exact dropped ▸ Limiter.passes_drop ..
  | leaves stands left => exact left ▸ Limiter.passes_leave sound stands

namespace Stage

/-- A visit of which something is left stands at its gate once it has asked; one of which nothing is left
stands nowhere. -/
theorem not_stands (stage : visit.Stage network gates task world) (gone : Network.isLive task = false) :
    ¬ (gates.read world).Stands visit.ticket := by
  cases stage with
  | atGate place fits => rw [Network.isLive_standsAt] at gone; cases gone
  | carrying _ carrying => rw [Network.isLive_of_carrying carrying] at gone; cases gone
  | gone absent _ => exact absent

/-- A visit that is past its gate holds a permit as long as something is left of it. -/
theorem admits (stage : visit.Stage network gates task world) (live : Network.isLive task = true)
    (past : ∀ place, task ≠ network.standsAt gates visit place) :
    (gates.read world).admits visit.ticket = true := by
  cases stage with
  | atGate place _ => exact absurd rfl (past place)
  | carrying admits _ => exact admits
  | gone _ spent => rw [Network.isLive_of_over spent] at live; cases live

/-- What a visit does at its gate, and where it is then. -/
theorem acts_standsAt {place : Place} (lawful : gates.Lawful) (apart : network.Moves gates.Untouched)
    (sound : (gates.read world).Sound permits) (known : visit.ticket.gate < (gates.read world).gates.length)
    (fits : visit.FitsAt gates world place)
    (acts : (network.standsAt gates visit place).Acts world next after) :
    visit.Does gates world after true (Network.isLive next) ∧ world.Onward after ∧
      visit.Stage network gates next after := by
  have through := Network.carrying_through lawful apart visit
  have still : gates.Same world world := rfl
  cases place with
  | fetched =>
      rw [Network.at_fetched] at acts
      cases acts with
      | look =>
          dsimp only
          cases visit.request.context.endedIn? world with
          | some ending =>
              exact ⟨.nothing still, world.onward_refl, .atGate (.refused ending) fits⟩
          | none => exact ⟨.nothing still, world.onward_refl, .atGate .asking fits⟩
  | refused ending =>
      rw [Network.at_refused] at acts
      cases acts with
      | change =>
          have dropped := lawful.read_write (·.drop visit.ticket) world
          refine ⟨.drops fits dropped, gates.onward_write _ world, .gone ?_ rfl⟩
          rw [dropped, (Limiter.passes_drop none permits _ visit.ticket).stands visit.ticket nofun]
          exact fits
  | asking =>
      rw [Network.at_asking] at acts
      cases acts with
      | change =>
          have asked := lawful.read_write (·.ask visit.ticket) world
          refine ⟨.asks fits asked, gates.onward_write _ world, .atGate .asked ?_⟩
          rw [FitsAt, asked]
          exact Limiter.stands_ask known
  | asked =>
      rw [Network.at_asked] at acts
      cases acts with
      | look =>
          dsimp only
          split
          · rw [Network.isLive_of_carrying through]
            exact ⟨.nothing still, world.onward_refl, .carrying ‹_› through⟩
          · exact ⟨.nothing still, world.onward_refl, .atGate .waiting fits⟩
  | waiting =>
      rw [Network.at_waiting] at acts
      cases acts with
      | wake due =>
          refine ⟨.nothing still, world.onward_refl, .atGate .woken ⟨fits, fun live => ?_⟩⟩
          rwa [Context.isDue_orEnd live] at due
  | woken =>
      rw [Network.at_woken] at acts
      cases acts with
      | look =>
          dsimp only
          cases ended : visit.request.context.endedIn? world with
          | some ending =>
              exact ⟨.nothing still, world.onward_refl, .atGate (.quitting ending) fits.1⟩
          | none =>
              dsimp only
              rw [Network.isLive_of_carrying through]
              exact ⟨.nothing still, world.onward_refl, .carrying (fits.2 ended) through⟩
  | quitting ending =>
      rw [Network.at_quitting] at acts
      cases acts with
      | change =>
          have left := lawful.read_write (·.leave visit.ticket) world
          refine ⟨.leaves fits left, gates.onward_write _ world, .gone ?_ rfl⟩
          rw [left, Limiter.stands_leave sound fits]
          exact fun there => there.2 rfl

/-- What a visit does, and how far it has come then. -/
theorem acts (stage : visit.Stage network gates task world) (lawful : gates.Lawful)
    (apart : network.Moves gates.Untouched) (sound : (gates.read world).Sound permits)
    (known : visit.ticket.gate < (gates.read world).gates.length) (acts : task.Acts world next after) :
    visit.Does gates world after (Network.isLive task) (Network.isLive next) ∧ world.Onward after ∧
      visit.Stage network gates next after := by
  cases stage with
  | atGate place fits =>
      rw [Network.isLive_standsAt]
      exact acts_standsAt lawful apart sound known fits acts
  | carrying admits carrying =>
      rw [Network.isLive_of_carrying carrying]
      rcases carrying.acts acts with ⟨own, carrying⟩ | ⟨⟨left, onward⟩, spent⟩
      · have untouched : gates.Untouched world after := by
          rcases own with rfl | untouched
          · exact gates.untouched_refl after
          · exact untouched
        rw [Network.isLive_of_carrying carrying]
        refine ⟨.nothing untouched.1, untouched.2, .carrying ?_ carrying⟩
        rw [show gates.read after = _ from untouched.1]
        exact admits
      · have stands := Limiter.stands_of_admits admits
        rw [Network.isLive_of_over spent]
        refine ⟨.leaves stands left, onward, .gone ?_ spent⟩
        rw [left, Limiter.stands_leave sound stands]
        exact fun there => there.2 rfl
  | gone absent spent =>
      obtain ⟨rfl, spent'⟩ := spent.acts acts
      rw [Network.isLive_of_over spent, Network.isLive_of_over spent']
      exact ⟨.nothing rfl, after.onward_refl, .gone absent spent'⟩

/-- A visit that is abandoned where it rests has asked, and its ticket is dropped. -/
theorem gives {wake : Wake σ} {held : Cleanup σ Event}
    {next : Task σ Event (Option (Response σ Event))} (lawful : gates.Lawful)
    (stage : visit.Stage network gates (.rest wake held next) world) :
    (gates.read world).Stands visit.ticket ∧
      Network.GivesUp gates visit.ticket world (held.effect world) := by
  generalize hrest : Task.rest wake held next = task at stage
  cases stage with
  | atGate place fits =>
      cases place with
      | waiting =>
          cases hrest
          exact ⟨fits, Network.frees_leaving lawful visit.ticket world⟩
      | fetched | asked | woken => cases hrest
      | refused ending | quitting ending => cases hrest
      | asking => cases hrest
  | carrying admits carrying =>
      subst hrest
      exact ⟨Limiter.stands_of_admits admits, carrying.1 world⟩
  | gone _ spent =>
      subst hrest
      exact spent.elim

/-- The owner of a response goes on with the visit. -/
theorem follows {value : Option (Response σ Event)}
    (stage : visit.Stage network gates (.done value) world)
    (follows : (network.visits gates).follows value next) :
    visit.Stage network gates next world ∧ Network.isLive next = true := by
  obtain ⟨response, rfl, handles⟩ := follows
  generalize hdone : Task.done (some response) = task at stage
  cases stage with
  | atGate place fits => cases place <;> cases hdone
  | carrying admits carrying =>
      subst hdone
      have carrying := Network.carries_of_handles handles carrying
      exact ⟨.carrying admits carrying, Network.isLive_of_carrying carrying⟩
  | gone _ spent =>
      subst hdone
      cases spent

/-- What others do moves no visit on. -/
theorem undisturbed {mover : Option Ticket} (stage : visit.Stage network gates task world)
    (passes : (gates.read world).Passes permits mover (gates.read after)) (onward : world.Onward after)
    (different : mover ≠ some visit.ticket) : visit.Stage network gates task after := by
  have stands := passes.stands visit.ticket different
  have admits := passes.admits visit.ticket different
  cases stage with
  | atGate place fits =>
      refine .atGate place ?_
      cases place with
      | fetched | refused | asking => exact mt stands.mp fits
      | asked | waiting | quitting => exact stands.mpr fits
      | woken =>
          exact ⟨stands.mpr fits.1, fun live => admits (fits.2 (Context.endedIn?_onward onward live))⟩
  | carrying holds carrying => exact .carrying (admits holds) carrying
  | gone absent spent => exact .gone (mt stands.mp absent) spent

end Stage

/-- The first action of a visit is to fetch its gate. -/
theorem acts_of_joins (joins : (network.visits gates).joins world visit task) :
    task.Acts world (network.standsAt gates visit .fetched)
      (gates.write (fun limiter => (limiter.fetch visit.key).2) world) := by
  obtain ⟨rfl, after, fetches⟩ := joins
  rw [Network.serve_eq, ← network.received_of_fetch gates fetches]
  exact .change

/-- A visit has fetched its gate when it joins. -/
theorem stage_joined {later : World σ} (lawful : gates.Lawful) (sound : (gates.read world).Sound permits)
    (joins : (network.visits gates).joins world visit task) (acts : task.Acts world next later) :
    (gates.read world).Fetches permits visit.key visit.ticket (gates.read later) ∧ world.Onward later ∧
      visit.Stage network gates next later ∧ Network.isLive next = true := by
  obtain ⟨rfl, after, fetches⟩ := joins
  have fetched := Limiter.fetches_of_fetch sound fetches
  rw [Network.serve_eq] at acts
  cases acts with
  | change =>
      have read : gates.read (gates.write (fun limiter => (limiter.fetch visit.key).2) world) = after := by
        rw [lawful.read_write, fetches]
      rw [network.received_of_fetch gates fetches]
      change Limiter.Fetches _ _ _ _ (gates.read (gates.write _ world)) ∧ _
      rw [show Limiter.keyOf visit.request.url = visit.key from rfl, read]
      refine ⟨fetched, gates.onward_write _ world, .atGate .fetched ?_, rfl⟩
      rw [FitsAt, read]
      exact fetched.absent sound

end Visit

/-- The discipline of the visits at the gates. -/
def Network.standing {network : Network σ} {gates : Part σ Limiter} (permits : Nat) (lawful : gates.Lawful)
    (apart : network.Moves gates.Untouched) : Crowd.Discipline (network.visits gates) where
  sound world := (gates.read world).Sound permits
  good world visit task := visit.ticket.number < (gates.read world).next ∧
    visit.ticket.gate < (gates.read world).gates.length ∧ visit.Stage network gates task world
  apart visit other := visit.ticket.number ≠ other.ticket.number
  moves actor world after :=
    (gates.read world).Passes permits (actor.map Visit.ticket) (gates.read after) ∧ world.Onward after
  symm := Ne.symm
  joins := by
    intro world later visit task next sound joins acts
    obtain ⟨fetched, onward, stage, -⟩ := Visit.stage_joined lawful sound joins acts
    exact ⟨⟨fetched.passes.anyone _, onward⟩, fetched.older, fetched.known, stage⟩
  fresh := by
    rintro world visit other task left sound ⟨-, after, fetches⟩ ⟨older, -⟩
    have fresh := (Limiter.fetches_of_fetch sound fetches).fresh
    exact Nat.ne_of_lt (Nat.lt_of_lt_of_le older fresh)
  goes := by
    rintro world later visit task next sound ⟨older, known, stage⟩ acts
    obtain ⟨does, onward, stage⟩ := stage.acts lawful apart sound known acts
    have passes := does.passes sound older
    exact ⟨⟨passes, onward⟩, Nat.lt_of_lt_of_le older passes.next,
      Nat.lt_of_lt_of_le known passes.length, stage⟩
  follows := by
    rintro world visit value next - ⟨older, known, stage⟩ follows
    exact ⟨older, known, (stage.follows follows).1⟩
  still actor world := ⟨Limiter.passes_refl .., world.onward_refl⟩
  gives := by
    rintro world visit wake held next sound ⟨-, -, stage⟩
    obtain ⟨stands, left, onward⟩ := stage.gives lawful
    exact ⟨left ▸ Limiter.passes_leave sound stands, onward⟩
  others := by
    rintro world later ⟨same, onward⟩
    exact ⟨same ▸ Limiter.passes_refl .., onward⟩
  lasts moves := moves.1.sound
  undisturbed := by
    rintro actor world after other task ⟨passes, onward⟩ apart ⟨older, known, stage⟩
    refine ⟨Nat.lt_of_lt_of_le older passes.next, Nat.lt_of_lt_of_le known passes.length,
      stage.undisturbed passes onward ?_⟩
    intro same
    obtain ⟨visit, rfl, ticket⟩ := Option.map_eq_some_iff.mp same
    exact apart visit rfl (congrArg Ticket.number ticket)

end ResilientHttp

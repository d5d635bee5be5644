import ResilientHttp.Proofs.Network.Visits
import ResilientHttp.Proofs.Site
import Mathlib.Data.List.Perm.Subperm

/-!
The permits at the gates. All that is said here holds wherever any number of requests have got through
one executor with a limit, starting with no gates.

* `Visits.accounts_step` — the visits of which something is left are the owners of the gates, besides the
  map.
* `in_flight_le` — of the requests to one host no more hold a permit than the limit says, since all that
  have fetched a gate, wait or are in flight have the same one.
* `permits_conserved` — each gate's permits are free or held by visits that are not over, its owners are
  counted, and so the gates that the map keeps are those that somebody still needs.
-/

namespace ResilientHttp

variable {σ : Type} {network : Network σ} {gates : Part σ Limiter} {permits : Nat} {visit : Visit}
  {world : World σ} {task : Task σ Event (Option (Response σ Event))}

/-- A visit is in flight: it is no longer at its gate, and something is left of it. -/
def Network.InFlight (network : Network σ) (gates : Part σ Limiter)
    (member : Member Visit σ Event (Option (Response σ Event))) : Prop :=
  isLive member.task = true ∧ ∀ place, member.task ≠ network.standsAt gates member.label place

/-- Visits at the gates, in a world that they share. -/
abbrev Visits (σ : Type) := Crowd Visit σ Event (Option (Response σ Event))

namespace Visits

variable {start crowd after : Visits σ}

/-- The visits of which something is left, as owners of gates. -/
def holders (members : List (Member Visit σ Event (Option (Response σ Event)))) : List Holder :=
  (members.filter fun member => Network.isLive member.task).map fun member => member.label.holder

section Holders

variable {front behind : List (Member Visit σ Event (Option (Response σ Event)))}

theorem mem_holders {members : List (Member Visit σ Event (Option (Response σ Event)))} {holder : Holder} :
    holder ∈ holders members ↔
      ∃ member ∈ members, Network.isLive member.task = true ∧ member.label.holder = holder := by
  simp only [holders, List.mem_map, List.mem_filter, and_assoc]

theorem holders_append : holders (front ++ behind) = holders front ++ holders behind := by
  rw [holders, List.filter_append, List.map_append]
  rfl

theorem holders_perm_of_live (live : Network.isLive task = true) :
    (holders (front ++ ⟨visit, task⟩ :: behind)).Perm (visit.holder :: holders (front ++ behind)) := by
  have first : holders (⟨visit, task⟩ :: behind) = visit.holder :: holders behind := by
    simp [holders, live]
  rw [holders_append, holders_append, first]
  exact List.perm_middle

theorem holders_of_gone (gone : Network.isLive task = false) :
    holders (front ++ ⟨visit, task⟩ :: behind) = holders (front ++ behind) := by
  have first : holders (⟨visit, task⟩ :: behind) = holders behind := by
    simp [holders, gone]
  rw [holders_append, holders_append, first]

/-- A visit of which something is left before and after it goes on is the same owner. -/
theorem holders_eq {next : Task σ Event (Option (Response σ Event))}
    (same : Network.isLive next = Network.isLive task) :
    holders (front ++ ⟨visit, next⟩ :: behind) = holders (front ++ ⟨visit, task⟩ :: behind) := by
  have first : holders (⟨visit, next⟩ :: behind) = holders (⟨visit, task⟩ :: behind) := by
    simp only [holders, List.filter_cons, same]
    split <;> rfl
  rw [holders_append, holders_append, first]

/-- A visit that goes on remains an owner until it drops its ticket. -/
theorem accounts_of_does {later : World σ} {next : Task σ Event (Option (Response σ Event))}
    (sound : (gates.read world).Sound permits)
    (does : visit.Does gates world later (Network.isLive task) (Network.isLive next))
    (accounts : (gates.read world).Accounts (holders (front ++ ⟨visit, task⟩ :: behind))) :
    (gates.read later).Accounts (holders (front ++ ⟨visit, next⟩ :: behind)) := by
  generalize before : Network.isLive task = live at does
  generalize now : Network.isLive next = left at does
  cases does with
  | nothing same =>
      rw [holders_eq (now.trans before.symm), show gates.read later = _ from same]
      exact accounts
  | asks _ asked =>
      rw [holders_eq (now.trans before.symm), asked]
      have mem : visit.holder ∈ holders (front ++ ⟨visit, task⟩ :: behind) :=
        (holders_perm_of_live before).mem_iff.mpr List.mem_cons_self
      exact accounts.ask mem
  | drops absent dropped =>
      have owned := accounts.perm (holders_perm_of_live before)
      rw [holders_of_gone now, dropped]
      exact owned.drop absent
  | leaves stands left =>
      have owned := accounts.perm (holders_perm_of_live before)
      rw [holders_of_gone now, left]
      exact owned.leave sound stands

end Holders

section Reached

variable (lawful : gates.Lawful) (apart : network.Moves gates.Untouched)

/-- Whoever comes becomes an owner, and whoever is over or abandoned is no longer one. -/
theorem accounts_step {actor : Option Visit} (holds : (Network.standing permits lawful apart).Holds crowd)
    (step : Crowd.Step (network.visits gates) actor crowd after)
    (accounts : (gates.read crowd.world).Accounts (holders crowd.members)) :
    (gates.read after.world).Accounts (holders after.members) := by
  have sound : (gates.read crowd.world).Sound permits := holds.sound
  cases step with
  | @joined world later members visit task next joins goes =>
      obtain ⟨fetched, -, -, live⟩ := Visit.stage_joined lawful sound joins goes
      have owners : (holders (members ++ [⟨visit, next⟩])).Perm (visit.holder :: holders (members ++ [])) :=
        holders_perm_of_live live
      rw [List.append_nil] at owners
      exact (fetched.accounts accounts).perm owners.symm
  | @went world later front behind visit task next goes =>
      obtain ⟨older, known, stage⟩ := holds.good ⟨visit, task⟩ (List.mem_append_right _ List.mem_cons_self)
      exact accounts_of_does sound (stage.acts lawful apart sound known goes).1 accounts
  | @followed world front behind visit value next follows =>
      have stage := (holds.good ⟨visit, .done value⟩ (List.mem_append_right _ List.mem_cons_self)).2.2
      have live := (stage.follows follows).2
      obtain ⟨response, rfl, -⟩ := follows
      have before : Network.isLive (.done (some response) : Task σ Event _) = true := rfl
      dsimp only
      rw [holders_eq (live.trans before.symm)]
      exact accounts
  | @abandoned world front behind visit wake held next =>
      have stage := (holds.good ⟨visit, .rest wake held next⟩
        (List.mem_append_right _ List.mem_cons_self)).2.2
      obtain ⟨stands, left, -⟩ := stage.gives lawful
      have owned := accounts.perm (holders_perm_of_live rfl)
      dsimp only
      rw [left]
      exact owned.leave sound stands
  | @others world later members untouched =>
      dsimp only
      rw [show gates.read later = _ from untouched.1]
      exact accounts

/-- Wherever a crowd of visits has got, it keeps its discipline, and its visits are the owners of the
gates. -/
theorem holds_of_reaches (alone : start.members = []) (fresh : gates.read start.world = .ofLimit permits)
    (reaches : Crowd.Reaches (network.visits gates) start crowd) :
    (Network.standing permits lawful apart).Holds crowd ∧
      (gates.read crowd.world).Accounts (holders crowd.members) := by
  have begins : (Network.standing permits lawful apart).Holds start := by
    refine ⟨?_, by simp [alone], by simp [alone]⟩
    change Limiter.Sound ..
    rw [fresh]
    exact Limiter.sound_ofLimit permits
  refine Crowd.Discipline.reaches (fun _ _ _ => accounts_step lawful apart) reaches begins ?_
  rw [fresh, alone]
  exact Limiter.accounts_ofLimit permits

end Reached

section Standing

variable {lawful : gates.Lawful} {apart : network.Moves gates.Untouched}
  {member : Member Visit σ Event (Option (Response σ Event))} {place : Nat}

section Live

variable (there : member ∈ crowd.members)

include there

/-- A visit that stands somewhere is not over. -/
theorem live_of_stands (holds : (Network.standing permits lawful apart).Holds crowd)
    (stands : (gates.read crowd.world).Stands member.label.ticket) :
    Network.isLive member.task = true := by
  have stage := (holds.good member there).2.2
  exact (Bool.not_eq_false _).mp fun gone => stage.not_stands gone stands

/-- The map has the gate of each visit of which something is left. -/
theorem mapped_of_live (accounts : (gates.read crowd.world).Accounts (holders crowd.members))
    (live : Network.isLive member.task = true) :
    (member.label.key, member.label.ticket.gate) ∈ (gates.read crowd.world).hosts :=
  accounts.mapped member.label.holder (mem_holders.mpr ⟨member, there, live, rfl⟩)

end Live

/-- The visits of which something is left own their gates. -/
theorem owners_eq (accounts : (gates.read crowd.world).Accounts (holders crowd.members)) (place : Nat) :
    (gates.read crowd.world).owners place =
      ((gates.read crowd.world).hosts.map Prod.snd).count place +
        crowd.members.countP (fun member => Network.isLive member.task &&
          member.label.ticket.gate == place) := by
  rw [accounts.owned, holders, List.map_map]
  refine Nat.add_left_cancel_iff.mpr ?_
  rw [List.count, List.countP_map, List.countP_filter]
  refine List.countP_congr fun member _ => ?_
  simp [Visit.holder, and_comm]

variable (holds : (Network.standing permits lawful apart).Holds crowd)
  (accounts : (gates.read crowd.world).Accounts (holders crowd.members))

include holds accounts

/-- The visits that hold a permit of one gate are as many as its permits that are held. -/
theorem countP_eq_length_holders {semaphore : Semaphore}
    (found : (gates.read crowd.world).semaphore? place = some semaphore) :
    crowd.members.countP (fun member => member.label.ticket.gate == place &&
      (gates.read crowd.world).admits member.label.ticket) = semaphore.holders.length := by
  have sound : (gates.read crowd.world).Sound permits := holds.sound
  have numbers : ((crowd.members.filter fun member => member.label.ticket.gate == place &&
      (gates.read crowd.world).admits member.label.ticket).map
        fun member => member.label.ticket.number).Nodup :=
    List.pairwise_map.mpr (holds.apart.sublist List.filter_sublist)
  have owners : semaphore.holders.Nodup := (sound.balanced found).nodup.of_append_left
  -- The numbers of those visits and the numbers at the gate are the same ones, none of them twice.
  rw [List.countP_eq_length_filter, ← List.length_map fun member => member.label.ticket.number]
  refine ((List.perm_ext_iff_of_nodup numbers owners).mpr fun number => ?_).length_eq
  simp only [List.mem_map, List.mem_filter, Bool.and_eq_true, beq_iff_eq]
  constructor
  · rintro ⟨member, ⟨-, rfl, admits⟩, rfl⟩
    obtain ⟨own, found', held⟩ := Limiter.admits_iff.mp admits
    obtain rfl := Option.some.inj (found.symm.trans found')
    exact held
  · intro held
    have admits : (gates.read crowd.world).admits ⟨place, number⟩ = true :=
      Limiter.admits_iff.mpr ⟨semaphore, found, held⟩
    obtain ⟨holder, there, ticket⟩ := accounts.present (Limiter.stands_of_admits admits)
    obtain ⟨member, mem, -, rfl⟩ := mem_holders.mp there
    change member.label.ticket = _ at ticket
    refine ⟨member, ⟨mem, ?_, ?_⟩, ?_⟩
    · rw [ticket]
    · rw [ticket]
      exact admits
    · rw [ticket]

/-- The visits to one host that hold permits hold different permits of one gate. -/
theorem countP_key_le (key : String) :
    crowd.members.countP (fun member => member.label.key == key &&
      (gates.read crowd.world).admits member.label.ticket) ≤ permits := by
  have sound : (gates.read crowd.world).Sound permits := holds.sound
  have mapped : ∀ member ∈ crowd.members,
      (gates.read crowd.world).admits member.label.ticket = true →
        (member.label.key, member.label.ticket.gate) ∈ (gates.read crowd.world).hosts :=
    fun member there admits => mapped_of_live there accounts
      (live_of_stands there holds (Limiter.stands_of_admits admits))
  by_cases some : ∃ member ∈ crowd.members, member.label.key = key ∧
      (gates.read crowd.world).admits member.label.ticket = true
  · obtain ⟨first, mem, rfl, admitted⟩ := some
    obtain ⟨semaphore, found, -⟩ := Limiter.admits_iff.mp admitted
    have count := (sound.balanced found).count
    rw [← countP_eq_length_holders holds accounts found] at count
    refine Nat.le_trans (List.countP_mono_left fun member there => ?_)
      (Nat.le_trans (Nat.le_add_left _ _) (Nat.le_of_eq count))
    simp only [Bool.and_eq_true, beq_iff_eq]
    rintro ⟨same, admits⟩
    have one := sound.eq_of_key (mapped member there admits) (mapped first mem admitted) same
    exact ⟨congrArg Prod.snd one, admits⟩
  · refine Nat.le_trans (Nat.le_of_eq (List.countP_eq_zero.mpr fun member there => ?_))
      (Nat.zero_le _)
    simp only [Bool.and_eq_true, beq_iff_eq]
    exact fun both => some ⟨member, there, both⟩

end Standing
/-! ### Two visits to one host -/

/-- A response that nothing stands behind. -/
def answer : Response Site Event := .new ⟨200⟩ (.full [])

/-- A network that answers every request at once. -/
def answering : Network Site := fun _ _ _ _ => .done (.ok answer)

theorem moves_answering : answering.Moves Site.gates.Untouched := by
  rintro method url headers octets response ⟨⟩
  exact fun world => Site.gates.untouched_refl world

theorem lawful_siteGates : Site.gates.Lawful := fun _ _ => rfl

/-- A visit to the site, with a ticket of the first gate. -/
def toSite (number : Nat) : Visit := ⟨.toSite none ⟨0, none⟩, ⟨0, number⟩⟩

/-- The first of two visits to a host with one permit, when it is answered. -/
def former : Task Site Event (Option (Response Site Event)) × World Site :=
  (answering.serve Site.gates (toSite 0).request).turn (Site.world ⟨[], .ofLimit 1⟩)

/-- The second one has just fetched the gate when the response to the first is still to be read. -/
def twoVisits : Visits Site where
  world := Site.gates.write (fun limiter => (limiter.fetch (toSite 1).key).2) former.2
  members := [⟨toSite 0, former.1⟩, ⟨toSite 1, answering.standsAt Site.gates (toSite 1) .fetched⟩]

theorem reaches_twoVisits :
    Crowd.Reaches (answering.visits Site.gates) ⟨Site.world ⟨[], .ofLimit 1⟩, []⟩ twoVisits := by
  have first : (answering.visits Site.gates).joins (Site.world ⟨[], .ofLimit 1⟩) (toSite 0)
      (answering.serve Site.gates (toSite 0).request) := ⟨rfl, _, rfl⟩
  have second : (answering.visits Site.gates).joins former.2 (toSite 1)
      (answering.serve Site.gates (toSite 1).request) := ⟨rfl, _, rfl⟩
  have begun : Crowd.Reaches (answering.visits Site.gates) ⟨Site.world ⟨[], .ofLimit 1⟩, []⟩
      ⟨former.2, [⟨toSite 0, former.1⟩]⟩ :=
    .trans (.single ⟨_, .joined first (Visit.acts_of_joins first)⟩) (Crowd.reaches_turn rfl [] [] _ _ _)
  exact .tail begun ⟨_, .joined second (Visit.acts_of_joins second)⟩

/-! ### Wherever the visits have got -/

/-- Of the requests to one host and port no more hold a permit than the limit says, and all that are in
flight hold one. All of which something is left, from the moment on at which they have fetched their gate,
have fetched the same one; the map has it for that host and port, and whoever comes next fetches it too. -/
theorem in_flight_le (lawful : gates.Lawful) (apart : network.Moves gates.Untouched)
    (alone : start.members = []) (fresh : gates.read start.world = .ofLimit permits)
    (reaches : Crowd.Reaches (network.visits gates) start crowd) :
    (∀ key, crowd.members.countP (fun member => member.label.key == key &&
      (gates.read crowd.world).admits member.label.ticket) ≤ permits) ∧
    (∀ member ∈ crowd.members, network.InFlight gates member →
      (gates.read crowd.world).admits member.label.ticket = true) ∧
    ∀ member ∈ crowd.members, Network.isLive member.task = true →
      (gates.read crowd.world).gate? member.label.key = some member.label.ticket.gate ∧
      (∀ other ∈ crowd.members, Network.isLive other.task = true →
        other.label.key = member.label.key → other.label.ticket.gate = member.label.ticket.gate) ∧
      ∀ ticket after, (gates.read crowd.world).fetch member.label.key = (.ok (some ticket), after) →
        ticket.gate = member.label.ticket.gate := by
  obtain ⟨holds, accounts⟩ := holds_of_reaches lawful apart alone fresh reaches
  have sound : (gates.read crowd.world).Sound permits := holds.sound
  refine ⟨countP_key_le holds accounts, fun member there flight => ?_, fun member there live => ?_⟩
  · exact (holds.good member there).2.2.admits flight.1 flight.2
  have mapped := mapped_of_live there accounts live
  refine ⟨sound.gate?_eq_some mapped, fun other there' live' sameKey => ?_, fun ticket after fetches => ?_⟩
  · have mapped' := mapped_of_live there' accounts live'
    exact congrArg Prod.snd (sound.eq_of_key mapped' mapped sameKey)
  · have fetched := Limiter.fetches_of_fetch sound fetches
    obtain ⟨own, kept⟩ := List.forall_mem_cons.mp (fetched.accounts accounts).mapped
    have mapped' := kept member.label.holder (mem_holders.mpr ⟨member, there, live, rfl⟩)
    exact congrArg Prod.snd ((fetched.passes.sound sound).eq_of_key own mapped' rfl)

/-- A response that is not read yet keeps its permit, and the second request has fetched the same gate, though
it has not asked there. -/
theorem in_flight_twoVisits :
    twoVisits.members.map (fun member =>
      (Site.gates.read twoVisits.world).admits member.label.ticket) = [true, false] ∧
    twoVisits.members.countP (fun member => member.label.key == (toSite 0).key &&
      (Site.gates.read twoVisits.world).admits member.label.ticket) ≤ 1 ∧
    (Site.gates.read twoVisits.world).gate? "site.test:80" = some 0 ∧
    ∀ other ∈ twoVisits.members, Network.isLive other.task = true →
      other.label.key = (toSite 1).key → other.label.ticket.gate = 0 := by
  obtain ⟨fewer, -, shared⟩ :=
    in_flight_le lawful_siteGates moves_answering rfl rfl reaches_twoVisits
  obtain ⟨found, same, -⟩ := shared _ (List.mem_cons_of_mem _ List.mem_cons_self) rfl
  exact ⟨by decide +kernel, fewer _, found, same⟩

/-- Of each gate's permits, every one is free or held by a visit, and nobody who has asked waits while one is
free; and the owners that the gate counts are the map, if it still has the gate, and the visits that have
fetched it and are not over. A visit in flight holds a permit; one that still waits holds a permit only once
it can go on; and a visit of which nothing is left, however that came about, stands at no gate. Whoever
fetches the gate of a host and port finds that the map then has exactly that one and those of the visits of
which something is left, each of them once. -/
theorem permits_conserved (lawful : gates.Lawful) (apart : network.Moves gates.Untouched)
    (alone : start.members = []) (fresh : gates.read start.world = .ofLimit permits)
    (reaches : Crowd.Reaches (network.visits gates) start crowd) :
    (∀ place semaphore, (gates.read crowd.world).semaphore? place = some semaphore →
      semaphore.free + crowd.members.countP (fun member => member.label.ticket.gate == place &&
        (gates.read crowd.world).admits member.label.ticket) = permits ∧
      (semaphore.free ≠ 0 → ∀ member ∈ crowd.members,
        (gates.read crowd.world).Stands member.label.ticket → member.label.ticket.gate = place →
          (gates.read crowd.world).admits member.label.ticket = true) ∧
      (gates.read crowd.world).owners place =
        ((gates.read crowd.world).hosts.map Prod.snd).count place +
          crowd.members.countP fun member =>
            Network.isLive member.task && member.label.ticket.gate == place) ∧
    (∀ member ∈ crowd.members,
      (network.InFlight gates member →
        (gates.read crowd.world).admits member.label.ticket = true) ∧
      ((gates.read crowd.world).admits member.label.ticket = true →
        Network.isLive member.task = true ∧
          (member.task = network.standsAt gates member.label .waiting →
            ∃ next after, member.task.Acts crowd.world next after)) ∧
      (Network.isLive member.task = false →
        ¬ (gates.read crowd.world).Stands member.label.ticket)) ∧
    ∀ key, (permits ≠ 0 → permits ≤ Limiter.maxPermits →
        ∃ ticket after, (gates.read crowd.world).fetch key = (.ok (some ticket), after)) ∧
      ∀ ticket after, (gates.read crowd.world).fetch key = (.ok (some ticket), after) →
        (after.hosts.map Prod.fst).Nodup ∧
        (∀ other, other ∈ after.hosts.map Prod.fst ↔ other = key ∨
          ∃ member ∈ crowd.members,
            Network.isLive member.task = true ∧ member.label.key = other) ∧
        after.hosts.length ≤
          crowd.members.countP (fun member => Network.isLive member.task) + 1 := by
  obtain ⟨holds, accounts⟩ := holds_of_reaches lawful apart alone fresh reaches
  have sound : (gates.read crowd.world).Sound permits := holds.sound
  refine ⟨fun place semaphore found => ?_, fun member there => ?_,
    fun key => ⟨fun positive countable => ?_, fun ticket after fetches => ?_⟩⟩
  · refine ⟨?_, ?_, owners_eq accounts place⟩
    · rw [countP_eq_length_holders holds accounts found]
      exact (sound.balanced found).count
    · rintro free member there stands rfl
      exact sound.admits_of_free stands found free
  · have stage := (holds.good member there).2.2
    refine ⟨fun flight => stage.admits flight.1 flight.2, fun admits => ⟨?_, fun waits => ?_⟩,
      stage.not_stands⟩
    · exact live_of_stands there holds (Limiter.stands_of_admits admits)
    · rw [waits, Network.at_waiting]
      exact ⟨_, _, .wake (by simp [Wake.isDue, Context.orEnd, admits])⟩
  · exact Limiter.exists_fetch _ (sound.limit ▸ positive) (sound.limit ▸ countable)
  · have fetched := Limiter.fetches_of_fetch sound fetches
    have nodup := (fetched.passes.sound sound).keys
    have keys : ∀ other, other ∈ after.hosts.map Prod.fst ↔ other = key ∨
        ∃ member ∈ crowd.members, Network.isLive member.task = true ∧ member.label.key = other := by
      intro other
      rw [fetched.keys, accounts.mem_keys_prune sound, List.mem_map]
      refine or_congr_right ⟨?_, ?_⟩
      · rintro ⟨holder, mem, rfl⟩
        obtain ⟨member, there, live, rfl⟩ := mem_holders.mp mem
        exact ⟨member, there, live, rfl⟩
      · rintro ⟨member, there, live, rfl⟩
        exact ⟨_, mem_holders.mpr ⟨member, there, live, rfl⟩, rfl⟩
    refine ⟨nodup, keys, ?_⟩
    have found : after.hosts.map Prod.fst ⊆ key :: (crowd.members.filter fun member =>
        Network.isLive member.task).map fun member => member.label.key := by
      intro other mem
      rcases (keys other).mp mem with rfl | ⟨member, there, live, rfl⟩
      · exact List.mem_cons_self
      · exact List.mem_cons_of_mem _ (List.mem_map_of_mem (List.mem_filter.mpr ⟨there, live⟩))
    have fewer := (List.Nodup.subperm nodup found).length_le
    rwa [List.length_map, List.length_cons, List.length_map,
      ← List.countP_eq_length_filter] at fewer

/-- The response to the first request is dropped unread before the second one has asked. All permits are free
then and nobody waits for one, but the map keeps the gate when another one is fetched. -/
theorem fetched_gate_kept :
    let response : Response Site Event :=
      { answer with held := answer.held.both (Network.leaving Site.gates (toSite 0).ticket) }
    let dropped : Task Site Event (Option (Response Site Event)) × World Site :=
      (response.drop.bind fun _ => .done none).turn twoVisits.world
    let crowd : Visits Site :=
      ⟨dropped.2, [⟨toSite 0, dropped.1⟩,
        ⟨toSite 1, answering.standsAt Site.gates (toSite 1) .fetched⟩]⟩
    (Site.gates.read crowd.world).gates = [⟨2, ⟨1, [], []⟩⟩] ∧
    ¬ (Site.gates.read crowd.world).Stands (toSite 0).ticket ∧
    ((Site.gates.read crowd.world).owners 0 =
      ((Site.gates.read crowd.world).hosts.map Prod.snd).count 0 +
        crowd.members.countP fun member => Network.isLive member.task && member.label.ticket.gate == 0) ∧
    ∀ ticket after,
      (Site.gates.read crowd.world).fetch "other.test:80" = (.ok (some ticket), after) →
        "site.test:80" ∈ after.hosts.map Prod.fst := by
  intro response dropped crowd
  have handles : (answering.visits Site.gates).follows (some response)
      (response.drop.bind fun _ => .done none) := ⟨response, rfl, .drop⟩
  have step : Crowd.Step (answering.visits Site.gates) (some (toSite 0)) twoVisits _ :=
    @Crowd.Step.followed _ _ _ _ _ twoVisits.world []
      [⟨toSite 1, answering.standsAt Site.gates (toSite 1) .fetched⟩] _ _ _ handles
  have reaches : Crowd.Reaches (answering.visits Site.gates) _ crowd :=
    .trans (.tail reaches_twoVisits ⟨_, step⟩) (Crowd.reaches_turn rfl [] _ _ _ _)
  obtain ⟨count, each, fetching⟩ := permits_conserved lawful_siteGates moves_answering rfl rfl reaches
  have gone := (each ⟨toSite 0, dropped.1⟩ List.mem_cons_self).2.2 (by decide +kernel)
  refine ⟨by decide +kernel, gone, (count 0 ⟨1, [], []⟩ (by decide +kernel)).2.2, ?_⟩
  intro ticket after fetches
  obtain ⟨-, keys, -⟩ := (fetching "other.test:80").2 ticket after fetches
  exact (keys _).mpr (.inr ⟨_, List.mem_cons_of_mem _ List.mem_cons_self, rfl, by decide +kernel⟩)

end Visits
end ResilientHttp

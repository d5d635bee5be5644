import ResilientHttp.Network.Limiter
import ResilientHttp.Proofs.Network.Semaphore
import Mathlib.Data.List.Count
import Mathlib.Data.List.Nodup

/-!
Who owns the gates of a limiter, and who stands there. `Limiter.Sound` says that a key has one gate in the
map at most, and that every semaphore has all its permits. `Limiter.Accounts` says of a list of tickets
that, with the map, they are all the owners that the gates count.

* `semaphore?_atGate`, `owners_atGate` — what a change at one gate does to the permits and to the counts.
* `retain_eq_filter`, `owners_prune` — what the map lets go of.
* `Accounts.prune` — those are the gates that only the map owns, so each ticket still finds its gate in the
  map; `mem_keys_prune` — and the map keeps nothing else.
* `passes_share`, `passes_setUp`, `passes_ask`, `passes_leave`, `passes_drop` — what is done at a gate does
  nothing to any other ticket; `Accounts.share`, `Accounts.setUp` and so on — and the accounts are right.
* `fetches_of_fetch` — so they are when a gate was fetched, with one ticket more.
-/

namespace ResilientHttp

/-- A ticket, and the key under which its gate was fetched. -/
structure Holder where
  ticket : Ticket
  key : String

namespace Limiter

variable {permits place other number : Nat} {limiter after : Limiter} {ticket : Ticket} {key : String}
  {semaphore : Semaphore} {holders : List Holder}

/-- The semaphore of the gate at a place. -/
def semaphore? (limiter : Limiter) (place : Nat) : Option Semaphore :=
  limiter.gates[place]?.map Gate.semaphore

/-- How many own the gate at a place. -/
def owners (limiter : Limiter) (place : Nat) : Nat := ownersIn limiter.gates place

/-- A ticket has asked at its gate: it holds a permit there or waits for one. -/
def Stands (limiter : Limiter) (ticket : Ticket) : Prop :=
  ∃ semaphore, limiter.semaphore? ticket.gate = some semaphore ∧ ticket.number ∈ semaphore.tickets

/-- There is at most one gate for a key and one key for a gate, every semaphore has all its permits, and
all numbers that will be given out are new. -/
structure Sound (permits : Nat) (limiter : Limiter) : Prop where
  limit : limiter.limit = permits
  keys : (limiter.hosts.map Prod.fst).Nodup
  places : (limiter.hosts.map Prod.snd).Nodup
  known : ∀ entry ∈ limiter.hosts, entry.2 < limiter.gates.length
  balanced : ∀ {place semaphore}, limiter.semaphore? place = some semaphore →
    semaphore.Balanced permits
  older : ∀ {place semaphore}, limiter.semaphore? place = some semaphore →
    ∀ number ∈ semaphore.tickets, number < limiter.next

/-- Certain tickets and the map are the owners of the gates: each gate counts them, the map still has the
gate of each ticket, and nobody else stands anywhere. -/
structure Accounts (holders : List Holder) (limiter : Limiter) : Prop where
  owned : ∀ place, limiter.owners place =
    (limiter.hosts.map Prod.snd).count place + (holders.map fun holder => holder.ticket.gate).count place
  mapped : ∀ holder ∈ holders, (holder.key, holder.ticket.gate) ∈ limiter.hosts
  present : ∀ {ticket}, limiter.Stands ticket → ∃ holder ∈ holders, holder.ticket = ticket

/-- What somebody with a ticket, or with none, may do to a limiter: all other tickets stand where they
stood, and those that hold a permit keep it. -/
structure Passes (permits : Nat) (mover : Option Ticket) (limiter after : Limiter) : Prop where
  sound : limiter.Sound permits → after.Sound permits
  next : limiter.next ≤ after.next
  length : limiter.gates.length ≤ after.gates.length
  stands : ∀ other, mover ≠ some other → (after.Stands other ↔ limiter.Stands other)
  admits : ∀ other, mover ≠ some other → limiter.admits other = true → after.admits other = true

theorem passes_refl (permits : Nat) (mover : Option Ticket) (limiter : Limiter) :
    limiter.Passes permits mover limiter :=
  ⟨id, Nat.le_refl _, Nat.le_refl _, fun _ _ => .rfl, fun _ _ => id⟩

theorem Passes.trans {mover : Option Ticket} {later : Limiter} (h : limiter.Passes permits mover after)
    (h' : after.Passes permits mover later) : limiter.Passes permits mover later where
  sound := h'.sound ∘ h.sound
  next := Nat.le_trans h.next h'.next
  length := Nat.le_trans h.length h'.length
  stands other different := (h'.stands other different).trans (h.stands other different)
  admits other different := h'.admits other different ∘ h.admits other different

/-- What nobody at the gates does, anybody might have done. -/
theorem Passes.anyone (h : limiter.Passes permits none after) (mover : Option Ticket) :
    limiter.Passes permits mover after :=
  ⟨h.sound, h.next, h.length, fun other _ => h.stands other nofun, fun other _ => h.admits other nofun⟩

theorem sound_ofLimit (permits : Nat) : (ofLimit permits).Sound permits where
  limit := rfl
  keys := List.nodup_nil
  places := List.nodup_nil
  known := List.forall_mem_nil _
  balanced := nofun
  older := nofun

theorem accounts_ofLimit (permits : Nat) : (ofLimit permits).Accounts [] where
  owned _ := rfl
  mapped := List.forall_mem_nil _
  present := by
    rintro ticket ⟨semaphore, ⟨⟩, -⟩

theorem Accounts.perm {others : List Holder} (h : limiter.Accounts holders) (perm : holders.Perm others) :
    limiter.Accounts others where
  owned place := by rw [h.owned, (perm.map _).count_eq]
  mapped holder mem := h.mapped holder (perm.mem_iff.mpr mem)
  present stands := by
    obtain ⟨holder, mem, same⟩ := h.present stands
    exact ⟨holder, perm.mem_iff.mp mem, same⟩

/-- A ticket holds a permit if its semaphore says so. -/
theorem admits_iff : limiter.admits ticket = true ↔
    ∃ semaphore, limiter.semaphore? ticket.gate = some semaphore ∧ ticket.number ∈ semaphore.holders := by
  rw [Limiter.admits, semaphore?]
  cases limiter.gates[ticket.gate]? <;> simp

theorem stands_of_admits (admits : limiter.admits ticket = true) : limiter.Stands ticket := by
  obtain ⟨semaphore, found, holds⟩ := admits_iff.mp admits
  exact ⟨semaphore, found, Semaphore.mem_tickets.mpr (.inl holds)⟩

namespace Sound

/-- Two entries with one key are one. -/
theorem eq_of_key (sound : limiter.Sound permits) {entry entry' : String × Nat}
    (mem : entry ∈ limiter.hosts) (mem' : entry' ∈ limiter.hosts) (same : entry.1 = entry'.1) :
    entry = entry' :=
  List.inj_on_of_nodup_map sound.keys mem mem' same

/-- Two entries with one gate are one. -/
theorem eq_of_place (sound : limiter.Sound permits) {entry entry' : String × Nat}
    (mem : entry ∈ limiter.hosts) (mem' : entry' ∈ limiter.hosts) (same : entry.2 = entry'.2) :
    entry = entry' :=
  List.inj_on_of_nodup_map sound.places mem mem' same

/-- The entry of a key is the one that is found. -/
theorem gate?_eq_some (sound : limiter.Sound permits) (mem : (key, place) ∈ limiter.hosts) :
    limiter.gate? key = some place := by
  rw [gate?]
  cases found : limiter.hosts.find? (·.1 = key) with
  | none => simpa using List.find?_eq_none.mp found _ mem
  | some entry =>
      have same : entry.1 = key := by simpa using List.find?_some found
      have own := sound.eq_of_key (List.mem_of_find?_eq_some found) mem same
      rw [own]
      rfl

/-- Nobody waits at a gate while a permit is free there. -/
theorem admits_of_free (sound : limiter.Sound permits) (stands : limiter.Stands ticket)
    (found : limiter.semaphore? ticket.gate = some semaphore) (free : semaphore.free ≠ 0) :
    limiter.admits ticket = true := by
  obtain ⟨own, found', there⟩ := stands
  obtain rfl := Option.some.inj (found.symm.trans found')
  have empty := (sound.balanced found).line.resolve_left free
  refine admits_iff.mpr ⟨semaphore, found, ?_⟩
  rcases Semaphore.mem_tickets.mp there with holds | waits
  · exact holds
  · rw [empty] at waits
    cases waits

end Sound

/-! ### One gate -/

section AtGate

variable {change : Gate → Gate}

theorem semaphore?_atGate (limiter : Limiter) (place other : Nat) (act : Semaphore → Semaphore)
    (acts : ∀ gate, (change gate).semaphore = act gate.semaphore) :
    (limiter.atGate place change).semaphore? other =
      if place = other then (limiter.semaphore? other).map act else limiter.semaphore? other := by
  rw [semaphore?, atGate, List.getElem?_modify, semaphore?]
  split <;> cases limiter.gates[other]? <;> simp [acts]

theorem owners_atGate (limiter : Limiter) (place other : Nat) (act : Nat → Nat)
    (acts : ∀ gate, (change gate).owners = act gate.owners)
    (none : limiter.gates[place]? = none → act 0 = 0) :
    (limiter.atGate place change).owners other =
      if place = other then act (limiter.owners other) else limiter.owners other := by
  rw [owners, ownersIn, atGate, List.getElem?_modify, owners, ownersIn]
  split
  · subst other
    cases found : limiter.gates[place]? with
    | none => exact (none found).symm
    | some gate => simp [acts]
  · cases limiter.gates[other]? <;> rfl

theorem length_atGate : (limiter.atGate place change).gates.length = limiter.gates.length :=
  List.length_modify ..

theorem semaphore?_ask : (limiter.ask ticket).semaphore? place =
    if ticket.gate = place then (limiter.semaphore? place).map (·.enter ticket.number)
    else limiter.semaphore? place :=
  semaphore?_atGate limiter ticket.gate place (·.enter ticket.number) fun _ => rfl

theorem semaphore?_leave : (limiter.leave ticket).semaphore? place =
    if ticket.gate = place then (limiter.semaphore? place).map (·.leave ticket.number)
    else limiter.semaphore? place :=
  semaphore?_atGate limiter ticket.gate place (·.leave ticket.number) fun _ => rfl

theorem semaphore?_drop : (limiter.drop ticket).semaphore? place = limiter.semaphore? place := by
  have unchanged := @semaphore?_atGate .drop limiter ticket.gate place id fun _ => rfl
  rwa [Option.map_id, id, ite_self] at unchanged

theorem owners_ask : (limiter.ask ticket).owners place = limiter.owners place := by
  have unchanged : (limiter.ask ticket).owners place = if ticket.gate = place then
      limiter.owners place else limiter.owners place :=
    owners_atGate limiter ticket.gate place id (fun _ => rfl) fun _ => rfl
  rwa [ite_self] at unchanged

theorem owners_leave : (limiter.leave ticket).owners place =
    if ticket.gate = place then limiter.owners place - 1 else limiter.owners place :=
  owners_atGate limiter ticket.gate place (· - 1) (fun _ => rfl) fun _ => rfl

theorem owners_drop : (limiter.drop ticket).owners place =
    if ticket.gate = place then limiter.owners place - 1 else limiter.owners place :=
  owners_atGate limiter ticket.gate place (· - 1) (fun _ => rfl) fun _ => rfl

/-- What passes at the semaphore of a ticket passes at the limiter. -/
theorem passes_atGate (act : Semaphore → Semaphore)
    (acts : ∀ gate, (change gate).semaphore = act gate.semaphore) (own : ticket.number < limiter.next)
    (passes : ∀ semaphore, limiter.semaphore? ticket.gate = some semaphore →
      semaphore.Passes permits ticket.number (act semaphore)) :
    limiter.Passes permits (some ticket) (limiter.atGate ticket.gate change) := by
  have found : ∀ {place after}, (limiter.atGate ticket.gate change).semaphore? place = some after →
      limiter.semaphore? place = some after ∨ place = ticket.gate ∧
        ∃ before, limiter.semaphore? ticket.gate = some before ∧ act before = after := by
    intro place after found
    rw [semaphore?_atGate limiter _ _ act acts] at found
    split at found
    · subst place
      exact .inr ⟨rfl, Option.map_eq_some_iff.mp found⟩
    · exact .inl found
  have apart : ∀ other : Ticket, some ticket ≠ some other → ticket.gate = other.gate →
      other.number ≠ ticket.number := by
    rintro ⟨gate, number⟩ different (rfl : ticket.gate = gate) (rfl : number = ticket.number)
    exact different rfl
  refine ⟨fun sound => ⟨sound.limit, sound.keys, sound.places, ?_, ?_, ?_⟩, Nat.le_refl _,
    Nat.le_of_eq length_atGate.symm, ?_, ?_⟩
  · intro entry mem
    rw [length_atGate]
    exact sound.known entry mem
  · intro place after here
    rcases found here with old | ⟨-, before, was, rfl⟩
    · exact sound.balanced old
    · exact (passes before was).balanced
  · intro place after here number mem
    rcases found here with old | ⟨-, before, was, rfl⟩
    · exact sound.older old number mem
    · by_cases same : number = ticket.number
      · exact same ▸ own
      · exact sound.older was number (((passes before was).tickets number same).mp mem)
  · intro other different
    rw [Stands, semaphore?_atGate limiter _ _ act acts]
    split
    · rename_i same
      simp only [Option.map_eq_some_iff, exists_exists_and_eq_and]
      refine exists_congr fun before => and_congr_right fun here => ?_
      exact (passes before (same ▸ here)).tickets other.number (apart other different same)
    · rfl
  · intro other different admits
    obtain ⟨before, here, holds⟩ := admits_iff.mp admits
    refine admits_iff.mpr ?_
    rw [semaphore?_atGate limiter _ _ act acts]
    split
    · rename_i same
      refine ⟨act before, by rw [here]; rfl, ?_⟩
      exact (passes before (same ▸ here)).holders other.number (apart other different same) holds
    · exact ⟨before, here, holds⟩

end AtGate

/-- Where all semaphores are the same and the map has no new entries, all is sound if it was. -/
theorem Sound.of_same (sound : limiter.Sound permits)
    (same : ∀ place, after.semaphore? place = limiter.semaphore? place)
    (limit : after.limit = limiter.limit) (hosts : after.hosts.Sublist limiter.hosts)
    (next : limiter.next ≤ after.next) (length : after.gates.length = limiter.gates.length) :
    after.Sound permits where
  limit := limit.trans sound.limit
  keys := sound.keys.sublist (hosts.map _)
  places := sound.places.sublist (hosts.map _)
  known entry mem := length ▸ sound.known entry (hosts.subset mem)
  balanced found := sound.balanced (same _ ▸ found)
  older found number mem := Nat.lt_of_lt_of_le (sound.older (same _ ▸ found) number mem) next

/-- Then all tickets stand where they stood. -/
theorem passes_of_same {mover : Option Ticket}
    (same : ∀ place, after.semaphore? place = limiter.semaphore? place)
    (limit : after.limit = limiter.limit) (hosts : after.hosts.Sublist limiter.hosts)
    (next : limiter.next ≤ after.next) (length : after.gates.length = limiter.gates.length) :
    limiter.Passes permits mover after where
  sound sound := sound.of_same same limit hosts next length
  next := next
  length := Nat.le_of_eq length.symm
  stands other _ := by rw [Stands, same, Stands]
  admits other _ := by
    rw [admits_iff, admits_iff, same]
    exact id

/-- A ticket that has not asked does nothing to the permits when it is dropped. -/
theorem passes_drop (mover : Option Ticket) (permits : Nat) (limiter : Limiter) (ticket : Ticket) :
    limiter.Passes permits mover (limiter.drop ticket) :=
  passes_of_same (fun _ => semaphore?_drop) rfl (List.Sublist.refl _) (Nat.le_refl _) length_atGate

theorem passes_ask (sound : limiter.Sound permits) (own : ticket.number < limiter.next)
    (absent : ¬ limiter.Stands ticket) : limiter.Passes permits (some ticket) (limiter.ask ticket) :=
  passes_atGate (·.enter ticket.number) (fun _ => rfl) own fun _ found =>
    (sound.balanced found).passes_enter fun there => absent ⟨_, found, there⟩

theorem passes_leave (sound : limiter.Sound permits) (stands : limiter.Stands ticket) :
    limiter.Passes permits (some ticket) (limiter.leave ticket) := by
  obtain ⟨semaphore, here, there⟩ := stands
  refine passes_atGate (·.leave ticket.number) (fun _ => rfl) (sound.older here _ there) fun other found => ?_
  obtain rfl := Option.some.inj (here.symm.trans found)
  exact (sound.balanced found).passes_leave there

/-- A ticket that has asked stands at its gate. -/
theorem stands_ask (known : ticket.gate < limiter.gates.length) : (limiter.ask ticket).Stands ticket := by
  have found : limiter.semaphore? ticket.gate = some limiter.gates[ticket.gate].semaphore := by
    rw [semaphore?, List.getElem?_eq_getElem known, Option.map_some]
  refine ⟨limiter.gates[ticket.gate].semaphore.enter ticket.number, ?_,
    Semaphore.mem_tickets_enter.mpr (.inl rfl)⟩
  rw [semaphore?_ask, if_pos rfl, found, Option.map_some]

/-- Who stands at the gates when one who stood there was dropped. -/
theorem stands_leave {other : Ticket} (sound : limiter.Sound permits) (stands : limiter.Stands ticket) :
    (limiter.leave ticket).Stands other ↔ limiter.Stands other ∧ other ≠ ticket := by
  by_cases own : ticket = other
  · subst own
    obtain ⟨semaphore, here, there⟩ := stands
    refine iff_of_false ?_ fun h => h.2 rfl
    rintro ⟨after, found, mem⟩
    rw [semaphore?_leave, if_pos rfl, here, Option.map_some] at found
    obtain rfl := Option.some.inj found
    exact ((Semaphore.mem_tickets_leave (sound.balanced here).nodup there).mp mem).2 rfl
  · have different : some ticket ≠ some other := fun same => own (Option.some.inj same)
    rw [(passes_leave sound stands).stands other different]
    exact (and_iff_left fun same => own same.symm).symm

/-! ### Letting go of gates -/

section Retain

variable {hosts : List (String × Nat)} {gates : List Gate}

theorem ownersIn_modify_of_ne (different : place ≠ other) (change : Gate → Gate) :
    ownersIn (gates.modify place change) other = ownersIn gates other := by
  rw [ownersIn, List.getElem?_modify, ownersIn]
  cases gates[other]? <;> simp [different]

theorem retain_eq_filter (places : (hosts.map Prod.snd).Nodup) :
    (retain hosts gates).1 = hosts.filter fun entry => 1 < ownersIn gates entry.2 := by
  induction hosts generalizing gates with
  | nil => rfl
  | cons entry later ih =>
      obtain ⟨away, places⟩ := List.nodup_cons.mp places
      rw [retain]
      split
      · rename_i shared
        rw [List.filter_cons_of_pos (by simpa using shared), ← ih places]
      · rename_i alone
        rw [List.filter_cons_of_neg (by simpa using alone), ih places]
        refine List.filter_congr fun kept mem => ?_
        have different : entry.2 ≠ kept.2 := fun same => away (same ▸ List.mem_map_of_mem mem)
        rw [ownersIn_modify_of_ne different]

/-- A gate that the map lets go of has one owner less, and nothing else changes. -/
theorem getElem?_retain (places : (hosts.map Prod.snd).Nodup) (place : Nat) :
    (retain hosts gates).2[place]? = gates[place]?.map fun gate =>
      if place ∈ hosts.map Prod.snd ∧ ¬ 1 < gate.owners then gate.drop else gate := by
  induction hosts generalizing gates with
  | nil => simp [retain]
  | cons entry later ih =>
      obtain ⟨away, places⟩ := List.nodup_cons.mp places
      rw [retain, List.map_cons]
      by_cases own : entry.2 = place
      · subst own
        cases found : gates[entry.2]? with
        | none => split <;> simp [ih places, found]
        | some gate =>
            have count : ownersIn gates entry.2 = gate.owners := by rw [ownersIn, found]; rfl
            rw [count]
            split
            · rename_i shared
              rw [ih places, found, Option.map_some, if_neg fun alone => away alone.1, Option.map_some,
                if_neg fun alone => alone.2 shared]
            · rename_i alone
              rw [ih places, List.getElem?_modify, found]
              simp [away, alone]
      · have different : place ≠ entry.2 := fun same => own same.symm
        simp only [List.mem_cons, different, false_or]
        split
        · exact ih places
        · rw [ih places, List.getElem?_modify]
          simp only [own, if_false, id_map']

theorem length_retain (hosts : List (String × Nat)) (gates : List Gate) :
    (retain hosts gates).2.length = gates.length := by
  induction hosts generalizing gates with
  | nil => rfl
  | cons entry later ih =>
      rw [retain]
      split
      · exact ih gates
      · rw [ih, List.length_modify]

end Retain

namespace Sound

variable (sound : limiter.Sound permits)

include sound

theorem hosts_prune : limiter.prune.hosts = limiter.hosts.filter fun entry =>
    1 < limiter.owners entry.2 :=
  retain_eq_filter sound.places

theorem semaphore?_prune (place : Nat) : limiter.prune.semaphore? place = limiter.semaphore? place := by
  rw [semaphore?, prune, getElem?_retain sound.places, semaphore?, Option.map_map]
  refine congrArg (Option.map · _) (funext fun gate => ?_)
  dsimp only [Function.comp_apply]
  split <;> rfl

theorem owners_prune (place : Nat) : limiter.prune.owners place =
    if place ∈ limiter.hosts.map Prod.snd ∧ ¬ 1 < limiter.owners place then limiter.owners place - 1
    else limiter.owners place := by
  rw [owners, ownersIn, prune, getElem?_retain sound.places, owners, ownersIn]
  cases limiter.gates[place]? with
  | none => exact (ite_self 0).symm
  | some gate =>
      simp only [Option.map_some, Option.elim_some]
      split <;> rename_i alone
      · exact (if_pos alone).symm
      · exact (if_neg alone).symm

theorem passes_prune : limiter.Passes permits none limiter.prune := by
  refine passes_of_same sound.semaphore?_prune rfl ?_ (Nat.le_refl _) (length_retain ..)
  rw [sound.hosts_prune]
  exact List.filter_sublist

theorem prune : limiter.prune.Sound permits := sound.passes_prune.sound sound

end Sound

/-! ### The accounts -/

section Accounts

/-- A gate that the map has and that a ticket owns has two owners at least. -/
theorem Accounts.one_lt_owners (accounts : limiter.Accounts holders) {holder : Holder}
    (mem : holder ∈ holders) : 1 < limiter.owners holder.ticket.gate := by
  have mapped : 0 < (limiter.hosts.map Prod.snd).count holder.ticket.gate :=
    List.count_pos_iff.mpr (List.mem_map_of_mem (accounts.mapped holder mem))
  have held : 0 < (holders.map fun holder => holder.ticket.gate).count holder.ticket.gate :=
    List.count_pos_iff.mpr (List.mem_map_of_mem mem)
  rw [accounts.owned]
  omega

/-- A gate in the map that has two owners at least is owned by a ticket. -/
theorem Accounts.exists_holder (accounts : limiter.Accounts holders) (sound : limiter.Sound permits)
    (shared : 1 < limiter.owners place) : ∃ holder ∈ holders, holder.ticket.gate = place := by
  have once := sound.places.count (a := place)
  rw [accounts.owned] at shared
  have held : 0 < (holders.map fun holder => holder.ticket.gate).count place := by
    split at once <;> omega
  exact List.mem_map.mp (List.count_pos_iff.mp held)

/-- The map lets go of no gate that a ticket owns, and the accounts are right after it. -/
theorem Accounts.prune (accounts : limiter.Accounts holders) (sound : limiter.Sound permits) :
    limiter.prune.Accounts holders where
  owned place := by
    have once := sound.places.count (a := place)
    have kept := sound.prune.places.count (a := place)
    rw [sound.owners_prune, kept, accounts.owned, once]
    have mem_prune : place ∈ limiter.prune.hosts.map Prod.snd ↔
        place ∈ limiter.hosts.map Prod.snd ∧ 1 < limiter.owners place := by
      rw [sound.hosts_prune]
      simp only [List.mem_map, List.mem_filter, decide_eq_true_eq]
      constructor
      · rintro ⟨entry, ⟨mem, shared⟩, rfl⟩
        exact ⟨⟨entry, mem, rfl⟩, shared⟩
      · rintro ⟨⟨entry, mem, rfl⟩, shared⟩
        exact ⟨entry, ⟨mem, shared⟩, rfl⟩
    rw [accounts.owned, once] at mem_prune
    simp only [mem_prune]
    by_cases there : place ∈ limiter.hosts.map Prod.snd
    · by_cases shared : 0 < (holders.map fun holder => holder.ticket.gate).count place
      · simp [there, shared]
      · simp [there, Nat.eq_zero_of_not_pos shared]
    · simp [there]
  mapped holder mem := by
    rw [sound.hosts_prune]
    refine List.mem_filter.mpr ⟨accounts.mapped holder mem, ?_⟩
    exact decide_eq_true (accounts.one_lt_owners mem)
  present := by
    rintro ticket ⟨semaphore, found, there⟩
    rw [sound.semaphore?_prune] at found
    exact accounts.present ⟨semaphore, found, there⟩

/-- The map keeps the keys of the tickets, and no others. -/
theorem Accounts.mem_keys_prune (accounts : limiter.Accounts holders) (sound : limiter.Sound permits) :
    key ∈ limiter.prune.hosts.map Prod.fst ↔ key ∈ holders.map Holder.key := by
  constructor
  · rw [sound.hosts_prune, List.mem_map]
    rintro ⟨entry, mem, rfl⟩
    obtain ⟨mem, shared⟩ := List.mem_filter.mp mem
    obtain ⟨holder, there, same⟩ := accounts.exists_holder sound (of_decide_eq_true shared)
    have own := sound.eq_of_place (accounts.mapped holder there) mem same
    exact List.mem_map.mpr ⟨holder, there, congrArg Prod.fst own⟩
  · intro mem
    obtain ⟨holder, there, rfl⟩ := List.mem_map.mp mem
    exact List.mem_map.mpr ⟨_, (accounts.prune sound).mapped holder there, rfl⟩

/-- Asking changes no owners. -/
theorem Accounts.ask {holder : Holder} (accounts : limiter.Accounts holders)
    (mem : holder ∈ holders) : (limiter.ask holder.ticket).Accounts holders := by
  refine ⟨fun place => owners_ask.trans (accounts.owned place), accounts.mapped, ?_⟩
  rintro ⟨gate, number⟩ ⟨semaphore, found, there⟩
  rw [semaphore?_ask] at found
  split at found
  · rename_i same
    obtain ⟨before, here, rfl⟩ := Option.map_eq_some_iff.mp found
    rcases Semaphore.mem_tickets_enter.mp there with own | old
    · refine ⟨holder, mem, ?_⟩
      cases same
      cases own
      rfl
    · exact accounts.present ⟨before, here, old⟩
  · exact accounts.present ⟨semaphore, found, there⟩

section Last

variable {holder : Holder} (accounts : limiter.Accounts (holder :: holders))

include accounts

theorem Accounts.count_cons (place : Nat) :
    (if holder.ticket.gate = place then limiter.owners place - 1 else limiter.owners place) =
      (limiter.hosts.map Prod.snd).count place +
        (holders.map fun holder => holder.ticket.gate).count place := by
  rw [accounts.owned, List.map_cons, List.count_cons]
  by_cases own : holder.ticket.gate = place
  · simp [own]
  · simp [own]

/-- Of those who stood at the gates, one is no longer among the owners. -/
theorem Accounts.present_cons {other : Ticket} (stands : limiter.Stands other)
    (different : other ≠ holder.ticket) : ∃ holder ∈ holders, holder.ticket = other := by
  obtain ⟨own, mem, rfl⟩ := accounts.present stands
  rcases List.mem_cons.mp mem with rfl | mem
  · exact absurd rfl different
  · exact ⟨own, mem, rfl⟩

theorem Accounts.leave (sound : limiter.Sound permits) (stands : limiter.Stands holder.ticket) :
    (limiter.leave holder.ticket).Accounts holders where
  owned place := owners_leave.trans (accounts.count_cons place)
  mapped other mem := accounts.mapped other (List.mem_cons_of_mem _ mem)
  present there := by
    obtain ⟨old, different⟩ := (stands_leave sound stands).mp there
    exact accounts.present_cons old different

theorem Accounts.drop (absent : ¬ limiter.Stands holder.ticket) :
    (limiter.drop holder.ticket).Accounts holders where
  owned place := owners_drop.trans (accounts.count_cons place)
  mapped other mem := accounts.mapped other (List.mem_cons_of_mem _ mem)
  present := by
    rintro other ⟨semaphore, found, there⟩
    rw [semaphore?_drop] at found
    have stands : limiter.Stands other := ⟨semaphore, found, there⟩
    exact accounts.present_cons stands fun same => absent (same ▸ stands)

end Last

end Accounts

/-! ### Fetching a gate -/

/-- What comes of fetching the gate of a key with a ticket: nobody else is concerned, the number of the
ticket is new, the map has the gate and those that tickets own, and the accounts have one ticket more. -/
structure Fetches (permits : Nat) (key : String) (limiter : Limiter) (ticket : Ticket) (after : Limiter) :
    Prop where
  passes : limiter.Passes permits none after
  fresh : limiter.next ≤ ticket.number
  older : ticket.number < after.next
  known : ticket.gate < after.gates.length
  keys : ∀ other, other ∈ after.hosts.map Prod.fst ↔
    other = key ∨ other ∈ limiter.prune.hosts.map Prod.fst
  accounts : ∀ {holders}, limiter.Accounts holders → after.Accounts (⟨ticket, key⟩ :: holders)

/-- A gate that was just fetched is not asked yet. -/
theorem Fetches.absent (h : limiter.Fetches permits key ticket after) (sound : limiter.Sound permits) :
    ¬ after.Stands ticket := by
  rw [h.passes.stands ticket nofun]
  rintro ⟨semaphore, found, there⟩
  exact Nat.not_le.mpr (sound.older found _ there) h.fresh

/-- When the map has let go of gates, what remains to be done for a gate to be fetched. -/
theorem fetches_of_prune (sound : limiter.Sound permits)
    (passes : limiter.prune.Passes permits none after) (next : after.next = limiter.next + 1)
    (known : place < after.gates.length)
    (keys : ∀ other, other ∈ after.hosts.map Prod.fst ↔
      other = key ∨ other ∈ limiter.prune.hosts.map Prod.fst)
    (accounts : ∀ {holders}, limiter.prune.Accounts holders →
      after.Accounts (⟨⟨place, limiter.next⟩, key⟩ :: holders)) :
    limiter.Fetches permits key ⟨place, limiter.next⟩ after where
  passes := sound.passes_prune.trans passes
  fresh := Nat.le_refl _
  older := next ▸ Nat.lt_succ_self _
  known := known
  keys := keys
  accounts now := accounts (now.prune sound)

/-- The limiter when a gate has one owner more. -/
def share (limiter : Limiter) (place : Nat) : Limiter :=
  { limiter.atGate place .clone with next := limiter.next + 1 }

section Share

theorem semaphore?_share : (limiter.share place).semaphore? other = limiter.semaphore? other := by
  have unchanged := @semaphore?_atGate .clone limiter place other id fun _ => rfl
  rwa [Option.map_id, id, ite_self] at unchanged

theorem owners_share (known : place < limiter.gates.length) : (limiter.share place).owners other =
    if place = other then limiter.owners other + 1 else limiter.owners other := by
  refine owners_atGate limiter place other (· + 1) (fun _ => rfl) fun none => ?_
  rw [List.getElem?_eq_getElem known] at none
  cases none

theorem passes_share : limiter.Passes permits none (limiter.share place) :=
  passes_of_same (fun _ => semaphore?_share) rfl (List.Sublist.refl _) (Nat.le_succ _) length_atGate

theorem Accounts.share (accounts : limiter.Accounts holders) (mem : (key, place) ∈ limiter.hosts)
    (known : place < limiter.gates.length) :
    (limiter.share place).Accounts (⟨⟨place, number⟩, key⟩ :: holders) where
  owned other := by
    rw [owners_share known, accounts.owned, List.map_cons, List.count_cons]
    by_cases own : place = other <;> simp [own, Limiter.share, atGate, Nat.add_assoc]
  mapped := List.forall_mem_cons.mpr ⟨mem, accounts.mapped⟩
  present := by
    rintro ticket ⟨semaphore, found, there⟩
    obtain ⟨holder, mem, own⟩ := accounts.present ⟨semaphore, semaphore?_share ▸ found, there⟩
    exact ⟨holder, List.mem_cons_of_mem _ mem, own⟩

end Share

/-- The limiter when a gate was set up for a key, which somebody owns besides the map. -/
def setUp (limiter : Limiter) (key : String) : Limiter :=
  { limiter with
    hosts := (key, limiter.gates.length) :: limiter.hosts
    gates := limiter.gates ++ [⟨2, .ofPermits limiter.limit⟩]
    next := limiter.next + 1 }

section SetUp

theorem getElem?_setUp : (limiter.setUp key).gates[other]? =
    if other = limiter.gates.length then some ⟨2, .ofPermits limiter.limit⟩ else limiter.gates[other]? := by
  rw [setUp, List.getElem?_append]
  split
  · rw [if_neg (by omega)]
  · split
    · simp [*]
    · rw [List.getElem?_eq_none (by simp; omega), List.getElem?_eq_none (by omega)]

theorem semaphore?_setUp : (limiter.setUp key).semaphore? other =
    if other = limiter.gates.length then some (.ofPermits limiter.limit) else limiter.semaphore? other := by
  rw [semaphore?, getElem?_setUp, semaphore?]
  split <;> rfl

theorem owners_setUp : (limiter.setUp key).owners other =
    if other = limiter.gates.length then 2 else limiter.owners other := by
  rw [owners, ownersIn, getElem?_setUp, owners, ownersIn]
  split <;> rfl

/-- Nobody has stood at the new gate before, and nobody does. -/
theorem stands_setUp : (limiter.setUp key).Stands ticket ↔ limiter.Stands ticket := by
  by_cases own : ticket.gate = limiter.gates.length
  · refine iff_of_false ?_ ?_
    · rintro ⟨semaphore, found, there⟩
      rw [semaphore?_setUp, if_pos own] at found
      cases found
      cases there
    · rintro ⟨semaphore, found, -⟩
      rw [semaphore?, List.getElem?_eq_none (Nat.le_of_eq own.symm)] at found
      cases found
  · rw [Stands, semaphore?_setUp, if_neg own, Stands]

/-- No entry has the place of the new gate. -/
theorem Sound.notMem_places (sound : limiter.Sound permits) :
    limiter.gates.length ∉ limiter.hosts.map Prod.snd := by
  intro mem
  obtain ⟨entry, mem, same⟩ := List.mem_map.mp mem
  exact Nat.ne_of_lt (sound.known entry mem) same

theorem Sound.setUp (sound : limiter.Sound permits) (new : key ∉ limiter.hosts.map Prod.fst) :
    (limiter.setUp key).Sound permits where
  limit := sound.limit
  keys := List.nodup_cons.mpr ⟨new, sound.keys⟩
  places := List.nodup_cons.mpr ⟨sound.notMem_places, sound.places⟩
  known := by
    rw [Limiter.setUp, List.length_append]
    exact List.forall_mem_cons.mpr
      ⟨Nat.lt_succ_self _, fun entry mem => Nat.lt_succ_of_lt (sound.known entry mem)⟩
  balanced found := by
    rw [semaphore?_setUp] at found
    split at found
    · cases found
      exact sound.limit ▸ Semaphore.balanced_ofPermits limiter.limit
    · exact sound.balanced found
  older found number there := by
    rw [semaphore?_setUp] at found
    split at found
    · cases found
      cases there
    · exact Nat.lt_succ_of_lt (sound.older found number there)

theorem passes_setUp (new : key ∉ limiter.hosts.map Prod.fst) :
    limiter.Passes permits none (limiter.setUp key) where
  sound sound := sound.setUp new
  next := Nat.le_succ _
  length := by
    rw [setUp, List.length_append]
    exact Nat.le_add_right ..
  stands _ _ := stands_setUp
  admits other _ admits := by
    obtain ⟨semaphore, found, holds⟩ := admits_iff.mp admits
    have different : other.gate ≠ limiter.gates.length := by
      intro own
      rw [semaphore?, List.getElem?_eq_none (Nat.le_of_eq own.symm)] at found
      cases found
    refine admits_iff.mpr ⟨semaphore, ?_, holds⟩
    rw [semaphore?_setUp, if_neg different]
    exact found

theorem Accounts.setUp (accounts : limiter.Accounts holders) (sound : limiter.Sound permits) :
    (limiter.setUp key).Accounts (⟨⟨limiter.gates.length, number⟩, key⟩ :: holders) where
  owned other := by
    rw [owners_setUp, accounts.owned, Limiter.setUp, List.map_cons, List.map_cons, List.count_cons,
      List.count_cons]
    split
    · subst other
      have noHolder : limiter.gates.length ∉ holders.map fun holder => holder.ticket.gate := by
        intro mem
        obtain ⟨holder, mem, same⟩ := List.mem_map.mp mem
        exact sound.notMem_places (List.mem_map.mpr ⟨_, accounts.mapped holder mem, same⟩)
      simp [List.count_eq_zero.mpr sound.notMem_places, List.count_eq_zero.mpr noHolder]
    · rename_i different
      simp [Ne.symm different]
  mapped := List.forall_mem_cons.mpr
    ⟨List.mem_cons_self, fun holder mem => List.mem_cons_of_mem _ (accounts.mapped holder mem)⟩
  present there := by
    obtain ⟨holder, mem, own⟩ := accounts.present (stands_setUp.mp there)
    exact ⟨holder, List.mem_cons_of_mem _ mem, own⟩

end SetUp

/-- Where there is a limit that a semaphore can have, whoever fetches a gate is given a ticket. -/
theorem exists_fetch (key : String) (positive : limiter.limit ≠ 0) (countable : limiter.limit ≤ maxPermits) :
    ∃ ticket after, limiter.fetch key = (.ok (some ticket), after) := by
  rw [fetch, if_neg positive]
  dsimp only
  split
  · exact ⟨_, _, rfl⟩
  · rw [if_pos (show limiter.prune.limit ≤ maxPermits from countable)]
    exact ⟨_, _, rfl⟩

/-- Whoever is given a ticket has fetched a gate. -/
theorem fetches_of_fetch (sound : limiter.Sound permits)
    (h : limiter.fetch key = (.ok (some ticket), after)) :
    limiter.Fetches permits key ticket after := by
  unfold fetch at h
  dsimp only at h
  split at h
  · cases h
  · cases found : limiter.prune.gate? key with
    | some place =>
        rw [found] at h
        cases h
        obtain ⟨entry, first, rfl⟩ := Option.map_eq_some_iff.mp found
        obtain rfl : entry.1 = key := by simpa using List.find?_some first
        have mem := List.mem_of_find?_eq_some first
        have known := sound.prune.known entry mem
        refine fetches_of_prune sound passes_share rfl (Nat.lt_of_lt_of_eq known length_atGate.symm)
          (fun other => ⟨.inr, ?_⟩) fun accounts => accounts.share mem known
        rintro (rfl | old)
        · exact List.mem_map_of_mem mem
        · exact old
    | none =>
        rw [found] at h
        dsimp only at h
        split at h
        · cases h
          have new : key ∉ limiter.prune.hosts.map Prod.fst := by
            intro mem
            obtain ⟨entry, mem, same⟩ := List.mem_map.mp mem
            have other := List.find?_eq_none.mp (Option.map_eq_none_iff.mp found) entry mem
            exact other (decide_eq_true same)
          refine fetches_of_prune sound (passes_setUp new) rfl ?_ (fun other => List.mem_cons)
            fun accounts => accounts.setUp sound.prune
          rw [List.length_append]
          exact Nat.lt_succ_self _
        · cases h

end Limiter
end ResilientHttp

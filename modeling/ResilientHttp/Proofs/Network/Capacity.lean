import ResilientHttp.Client.Builder
import ResilientHttp.Proofs.Client.Deadline
import ResilientHttp.Proofs.Network.Alone
import ResilientHttp.Proofs.Network.Permits

/-!
What a gate can let through. A limit is any number of 64 bits, and a semaphore counts no further than
`Limiter.maxPermits`. Whether a gate can be set up is a matter of the limit alone, not of what has been going
on: here any requests come, whatever becomes of them (`Network.requests`).

* `Visits.exists_visits` — where the limit can be counted, each request is given a ticket, so a history of
  requests is one of visits.
* `Network.ungated` — where there is no limit or one that cannot be counted, nobody is given a ticket, and
  there are no gates at any time.
* `Network.gate_at_hand` — both for a request that comes after any history.
-/

namespace ResilientHttp

variable {σ ε α : Type}

/-- Where there is no limit, nothing is fetched. -/
theorem Limiter.fetch_ofLimit_zero (key : String) : (ofLimit 0).fetch key = (.ok none, ofLimit 0) :=
  rfl

/-- Where the limit cannot be counted, no gate is set up. -/
theorem Limiter.fetch_ofLimit {limit : Nat} (tooMany : maxPermits < limit) (key : String) :
    (ofLimit limit).fetch key = (.error tooManyPermits, ofLimit limit) := by
  have limited : (ofLimit limit).limit ≠ 0 := Nat.ne_zero_of_lt tooMany
  have uncounted : ¬ (ofLimit limit).prune.limit ≤ maxPermits := Nat.not_le.mpr tooMany
  rw [fetch, if_neg limited]
  exact if_neg uncounted

namespace Network

variable (network : Network σ) (gates : Part σ Limiter)

/-- What may happen at an executor with any limit: requests come, the owners of responses handle them, and
others leave the gates alone. -/
def requests : Crowd.Rules Request σ Event (Option (Response σ Event)) where
  goes := Task.Acts
  joins _ request task := task = network.serve gates request
  follows value task := ∃ response, value = some response ∧ Handles response task
  others := gates.Untouched

variable {network gates} {request : Request} {world : World σ}

/-! ### Without gates -/

/-- A response can be given up without a word to the gates. -/
def Unticketed (gates : Part σ Limiter) (value : Option (Response σ Event)) : Prop :=
  ∀ response, value = some response → response.held.Keeps gates.Untouched

theorem unticketed_none : Unticketed gates (none : Option (Response σ Event)) := by
  rintro response ⟨⟩

theorem untouched_none : (Cleanup.none : Cleanup σ Event).Keeps gates.Untouched :=
  Cleanup.keeps_none gates.untouched_refl

theorem keeps_readBody_none (request : Request) :
    (readBody request (.none : Cleanup σ Event)).Keeps gates.Untouched fun _ => True := by
  cases hbody : request.body with
  | none =>
      rw [readBody, hbody]
      trivial
  | some body =>
      rw [readBody_of_some hbody]
      refine Task.keeps_proceed (request.context.keeps_run untouched_none (body.keeps_collect untouched_none))
        (fun _ => trivial) fun read _ => ?_
      cases read with
      | error fault => exact (Task.keeps_release untouched_none).bind fun _ _ => trivial
      | ok octets => trivial

/-- An exchange at no gate leaves the gates alone. -/
theorem keeps_exchange_none (apart : network.Moves gates.Untouched) (request : Request) :
    ((network.exchange request .none).bind fun outcome =>
      .done outcome.toOption).Keeps gates.Untouched (Unticketed gates) := by
  have exchanges : (network.exchange request .none).Keeps gates.Untouched
      fun outcome => Unticketed gates outcome.toOption := by
    rw [exchange_eq]
    refine (keeps_readBody_none request).bind fun read _ => ?_
    cases read with
    | error error => exact unticketed_none
    | ok octets =>
        dsimp only
        rw [Task.holding_none]
        refine Task.keeps_proceed (request.context.keeps_run untouched_none
          (apart request.method request.url request.headers octets)) (fun _ => unticketed_none) ?_
        intro outcome held
        cases outcome with
        | error fault => exact (Task.keeps_release untouched_none).bind fun _ _ => unticketed_none
        | ok response =>
            rintro _ ⟨⟩ world
            exact held response rfl world
  exact exchanges.bind fun _ unticketed => unticketed

/-- Neither does anything that the owner of a response does with it. -/
theorem keeps_of_handles {response : Response σ Event}
    {task : Task σ Event (Option (Response σ Event))} (handles : Handles response task)
    (held : response.held.Keeps gates.Untouched) : task.Keeps gates.Untouched (Unticketed gates) := by
  have reads := Response.keeps_bytes held
  cases handles with
  | read => exact reads.bind fun _ _ => unticketed_none
  | @readUnder context => exact (context.keeps_run held reads).bind fun _ _ => unticketed_none
  | drop => exact (Task.keeps_release held).bind fun _ _ => unticketed_none

/-- Nobody fetches a gate where there are none and none can be set up. -/
theorem received_ungated {limit : Nat} (apart : network.Moves gates.Untouched)
    (bound : limit = 0 ∨ Limiter.maxPermits < limit) (empty : gates.read world = .ofLimit limit)
    (request : Request) :
    ((gates.read world).fetch (Limiter.keyOf request.url)).2 = gates.read world ∧
      (network.received gates request world).Keeps gates.Untouched (Unticketed gates) := by
  rw [received, empty]
  rcases bound with rfl | tooMany
  · rw [Limiter.fetch_ofLimit_zero]
    exact ⟨rfl, keeps_exchange_none apart request⟩
  · rw [Limiter.fetch_ofLimit tooMany]
    exact ⟨rfl, trivial⟩

/-- The discipline of requests at no gate. -/
def ungated (lawful : gates.Lawful) (apart : network.Moves gates.Untouched) {limit : Nat}
    (bound : limit = 0 ∨ Limiter.maxPermits < limit) : Crowd.Discipline (network.requests gates) where
  sound world := gates.read world = .ofLimit limit
  good _ _ task := task.Keeps gates.Untouched (Unticketed gates)
  apart _ _ := True
  moves _ := gates.Untouched
  symm := id
  joins := by
    rintro world later request task next empty rfl acts
    rw [serve_eq] at acts
    cases acts with
    | change =>
        obtain ⟨same, keeps⟩ := received_ungated apart bound empty request
        exact ⟨⟨(lawful.read_write _ world).trans same, gates.onward_write _ world⟩, keeps⟩
  fresh _ _ _ := trivial
  goes := by
    rintro world later request task next - keeps acts
    obtain ⟨moves, rest⟩ := keeps.acts acts
    rcases moves with rfl | moves
    · exact ⟨gates.untouched_refl later, rest⟩
    · exact ⟨moves, rest⟩
  follows := by
    rintro world request value next - unticketed ⟨response, rfl, handles⟩
    exact keeps_of_handles handles (unticketed response rfl)
  still _ := gates.untouched_refl
  gives _ keeps := keeps.1 _
  others := id
  lasts untouched empty := Eq.trans untouched.1 empty
  undisturbed _ _ := id

end Network

/-! ### Through gates -/

namespace Visits

variable {network : Network σ} {gates : Part σ Limiter} {permits : Nat} {visits : Visits σ}
  {actor : Option Request} {start crowd after : Crowd Request σ Event (Option (Response σ Event))}

/-- A visit as a request, without its ticket. -/
def request (member : Member Visit σ Event (Option (Response σ Event))) :
    Member Request σ Event (Option (Response σ Event)) :=
  ⟨member.label.request, member.task⟩

/-- Visits as requests, without their tickets. -/
def requests (visits : Visits σ) : Crowd Request σ Event (Option (Response σ Event)) :=
  ⟨visits.world, visits.members.map request⟩

/-- One of many requests is one of the visits. -/
theorem exists_visit {members : List (Member Visit σ Event (Option (Response σ Event)))}
    {front behind : List (Member Request σ Event (Option (Response σ Event)))} {own : Request}
    {task : Task σ Event (Option (Response σ Event))}
    (split : members.map request = front ++ ⟨own, task⟩ :: behind) :
    ∃ before visit after, members = before ++ ⟨visit, task⟩ :: after ∧
      before.map request = front ∧ visit.request = own ∧ after.map request = behind := by
  obtain ⟨before, rest, rfl, ahead, rest'⟩ := List.map_eq_append_iff.mp split
  obtain ⟨member, after, rfl, same, later⟩ := List.map_eq_cons_iff.mp rest'
  cases same
  exact ⟨before, member.label, after, rfl, ahead, rfl, later⟩

/-- What happens to requests happens to visits, as long as the limit can be counted. -/
theorem exists_step (sound : (gates.read visits.world).Sound permits) (positive : permits ≠ 0)
    (countable : permits ≤ Limiter.maxPermits)
    (step : Crowd.Step (network.requests gates) actor (requests visits) after) :
    ∃ visit later, Crowd.Step (network.visits gates) visit visits later ∧ requests later = after := by
  obtain ⟨world, members⟩ := visits
  generalize seen : requests ⟨world, members⟩ = crowd at step
  cases step with
  | @joined _ _ _ own _ _ joins acts =>
      obtain ⟨rfl, rfl⟩ := Crowd.mk.inj seen
      obtain rfl := joins
      obtain ⟨ticket, entered, fetches⟩ :=
        Limiter.exists_fetch (Limiter.keyOf own.url) (sound.limit ▸ positive) (sound.limit ▸ countable)
      have joins : (network.visits gates).joins world ⟨own, ticket⟩ (network.serve gates own) :=
        ⟨rfl, entered, fetches⟩
      refine ⟨_, _, .joined joins acts, ?_⟩
      rw [requests, List.map_append]
      rfl
  | @went _ _ front behind own task next acts =>
      obtain ⟨rfl, split⟩ := Crowd.mk.inj seen
      obtain ⟨before, visit, later, rfl, rfl, rfl, rfl⟩ := exists_visit split
      have goes : (network.visits gates).goes task world next _ := acts
      refine ⟨_, _, .went goes, ?_⟩
      rw [requests, List.map_append]
      rfl
  | @followed _ front behind own value next follows =>
      obtain ⟨rfl, split⟩ := Crowd.mk.inj seen
      obtain ⟨before, visit, later, rfl, rfl, rfl, rfl⟩ := exists_visit split
      have handles : (network.visits gates).follows value next := follows
      refine ⟨_, _, .followed handles, ?_⟩
      rw [requests, List.map_append]
      rfl
  | abandoned =>
      obtain ⟨rfl, split⟩ := Crowd.mk.inj seen
      obtain ⟨before, visit, later, rfl, rfl, rfl, rfl⟩ := exists_visit split
      refine ⟨_, _, .abandoned, ?_⟩
      rw [requests, List.map_append]
  | others quiet =>
      obtain ⟨rfl, rfl⟩ := Crowd.mk.inj seen
      exact ⟨_, _, .others quiet, rfl⟩

/-- A history of requests is one of visits, as long as the limit can be counted. -/
theorem exists_visits (lawful : gates.Lawful) (apart : network.Moves gates.Untouched)
    (positive : permits ≠ 0) (countable : permits ≤ Limiter.maxPermits) (alone : start.members = [])
    (fresh : gates.read start.world = .ofLimit permits)
    (reaches : Crowd.Reaches (network.requests gates) start crowd) :
    ∃ visits : Visits σ, Crowd.Reaches (network.visits gates) ⟨start.world, []⟩ visits ∧
      requests visits = crowd := by
  induction reaches with
  | refl =>
      refine ⟨⟨start.world, []⟩, .refl, ?_⟩
      rw [requests, List.map_nil, ← alone]
  | tail _ step ih =>
      obtain ⟨visits, reached, rfl⟩ := ih
      obtain ⟨actor, step⟩ := step
      obtain ⟨holds, -⟩ := holds_of_reaches lawful apart rfl fresh reached
      obtain ⟨visit, later, next, rfl⟩ := exists_step holds.sound positive countable step
      exact ⟨later, .tail reached ⟨visit, next⟩, rfl⟩

end Visits

/-! ### Whatever has been going on -/

namespace Network

variable {network : Network σ} {gates : Part σ Limiter} {limit : Nat} {request : Request}
  {start crowd : Crowd Request σ Event (Option (Response σ Event))}

section History

variable (lawful : gates.Lawful) (apart : network.Moves gates.Untouched) (alone : start.members = [])
  (fresh : gates.read start.world = .ofLimit limit)
  (reaches : Crowd.Reaches (network.requests gates) start crowd)

include lawful apart alone fresh reaches

/-- Where no gate can be set up there is none at any time. -/
theorem read_of_reaches (bound : limit = 0 ∨ Limiter.maxPermits < limit) :
    gates.read crowd.world = .ofLimit limit := by
  have begins : (ungated lawful apart bound).Holds start :=
    ⟨fresh, by simp [alone], by simp [alone]⟩
  have lasts : ∀ (actor : Option Request)
      (crowd after : Crowd Request σ Event (Option (Response σ Event))),
      (ungated lawful apart bound).Holds crowd → Crowd.Step (network.requests gates) actor crowd after →
      True → True := fun _ _ _ _ _ _ => trivial
  exact (Crowd.Discipline.reaches lasts reaches begins trivial).1.sound

/-- Where gates can be set up all of them keep the limit, and their owners are counted. -/
theorem accounts_of_reaches (positive : limit ≠ 0) (countable : limit ≤ Limiter.maxPermits) :
    (gates.read crowd.world).Sound limit ∧ ∃ holders, (gates.read crowd.world).Accounts holders := by
  obtain ⟨visits, reached, rfl⟩ :=
    Visits.exists_visits lawful apart positive countable alone fresh reaches
  obtain ⟨holds, accounts⟩ := Visits.holds_of_reaches lawful apart rfl fresh reached
  exact ⟨holds.sound, _, accounts⟩

end History

/-- A request at the executor fetches its gate first, and goes on by what it was given. -/
theorem acts_executor {world : World σ} {given : Except String (Option Ticket)} {entered : Limiter}
    (fetches : (gates.read world).fetch (Limiter.keyOf request.url) = (given, entered)) :
    (executor network gates request).Acts world (network.goOnWith gates request given)
      (gates.write (fun limiter => (limiter.fetch (Limiter.keyOf request.url)).2) world) := by
  have first : ((gates.read world).fetch (Limiter.keyOf request.url)).1 = given := congrArg Prod.fst fetches
  rw [executor_eq, ← first]
  exact .change

/-- How a request is received at an executor that was made with settings, whatever has been going on there.
The first thing that it does is to fetch its gate. If the settings bound nothing, there are no gates, and the
request is exchanged at once. If they set a bound that can be counted, the request is given a ticket for the
gate of its host and port, and this gate and all others have just as many permits. A bound that cannot be
counted is taken as well, and then each request makes the executor panic. -/
theorem gate_at_hand (tuning : Tuning) (lawful : gates.Lawful) (apart : network.Moves gates.Untouched)
    (alone : start.members = [])
    (fresh : gates.read start.world = .ofLimit (Sender.tuned tuning : Sender α).limit)
    (reaches : Crowd.Reaches (network.requests gates) start crowd) (request : Request) :
    let limiter := gates.read crowd.world
    let key := Limiter.keyOf request.url
    let after := gates.write (fun limiter => (limiter.fetch key).2) crowd.world
    (tuning.maxPerHost = 0 →
      limiter.gates = [] ∧ limiter.fetch key = (.ok none, limiter) ∧
        (executor network gates request).Acts crowd.world (network.exchange request .none) after) ∧
    (tuning.maxPerHost ≠ 0 → tuning.maxPerHost.toNat ≤ Limiter.maxPermits →
      ∃ ticket entered, limiter.fetch key = (.ok (some ticket), entered) ∧
        (key, ticket.gate) ∈ entered.hosts ∧ (∃ gate, entered.gates[ticket.gate]? = some gate) ∧
        (∀ gate ∈ entered.gates, gate.semaphore.Balanced tuning.maxPerHost.toNat) ∧
        (executor network gates request).Acts crowd.world
          ((request.context.run (fetched gates ticket) (acquire gates ticket)).proceed
            fun _ => network.exchange request (leaving gates ticket)) after) ∧
    (Limiter.maxPermits < tuning.maxPerHost.toNat →
      limiter.fetch key = (.error Limiter.tooManyPermits, limiter) ∧
        (executor network gates request).Acts crowd.world (.panic Limiter.tooManyPermits) after) := by
  intro limiter key after
  have fresh : gates.read start.world = .ofLimit tuning.maxPerHost.toNat := fresh
  refine ⟨fun none => ?_, fun some countable => ?_, fun tooMany => ?_⟩
  · have zero : tuning.maxPerHost.toNat = 0 := by rw [none]; rfl
    have empty : limiter = .ofLimit 0 := by
      rw [← zero]
      exact read_of_reaches lawful apart alone fresh reaches (.inl zero)
    have fetches : limiter.fetch key = (.ok Option.none, limiter) := by rw [empty]; rfl
    exact ⟨by rw [empty]; rfl, fetches, acts_executor fetches⟩
  · have positive : tuning.maxPerHost.toNat ≠ 0 := fun zero => some (UInt64.toNat_inj.mp zero)
    obtain ⟨sound, holders, accounts⟩ :=
      accounts_of_reaches lawful apart alone fresh reaches positive countable
    obtain ⟨ticket, entered, fetches⟩ : ∃ ticket entered, limiter.fetch key = (.ok (.some ticket), entered) :=
      Limiter.exists_fetch key (sound.limit ▸ positive) (sound.limit ▸ countable)
    have fetched := Limiter.fetches_of_fetch sound fetches
    have mapped := (fetched.accounts accounts).mapped ⟨ticket, key⟩ List.mem_cons_self
    have known := List.getElem?_eq_getElem fetched.known
    refine ⟨ticket, entered, fetches, mapped, ⟨_, known⟩, fun gate mem => ?_, acts_executor fetches⟩
    obtain ⟨place, found⟩ := List.mem_iff_getElem?.mp mem
    have there : entered.semaphore? place = .some gate.semaphore := by
      rw [Limiter.semaphore?, found]
      rfl
    exact (fetched.passes.sound sound).balanced there
  · have empty : limiter = .ofLimit tuning.maxPerHost.toNat :=
      read_of_reaches lawful apart alone fresh reaches (.inr tooMany)
    have fetches : limiter.fetch key = (.error Limiter.tooManyPermits, limiter) := by
      rw [empty]
      exact Limiter.fetch_ofLimit tooMany key
    exact ⟨fetches, acts_executor fetches⟩

/-! ### Two clients -/

/-- The second request of two to a site with one permit is given a ticket for the gate of the first. -/
theorem gate_at_hand_second :
    let first := (Visits.answering.serve Site.gates (.toSite none ⟨0, none⟩)).turn
      (Site.world ⟨[], .ofLimit 1⟩)
    ∃ ticket entered,
      (Site.gates.read first.2).fetch "site.test:80" = (.ok (some ticket), entered) ∧
        ("site.test:80", ticket.gate) ∈ entered.hosts ∧
        ∀ gate ∈ entered.gates, gate.semaphore.Balanced 1 := by
  intro first
  have begun : (Visits.answering.requests Site.gates).goes
      (Visits.answering.serve Site.gates (.toSite none ⟨0, none⟩)) (Site.world ⟨[], .ofLimit 1⟩) _ _ :=
    .change
  have reaches : Crowd.Reaches (Visits.answering.requests Site.gates)
      ⟨Site.world ⟨[], .ofLimit 1⟩, []⟩ ⟨first.2, [⟨.toSite none ⟨0, none⟩, first.1⟩]⟩ :=
    .trans (.single ⟨_, .joined rfl begun⟩) (Crowd.reaches_turn rfl [] [] _ _ _)
  obtain ⟨-, received, -⟩ := gate_at_hand (α := Empty)
    { Tuning.default with maxPerHost := 1 } Visits.lawful_siteGates Visits.moves_answering rfl rfl reaches
    (.toSite none ⟨0, none⟩)
  obtain ⟨ticket, entered, fetches, mapped, -, balanced, -⟩ := received (by decide) (by decide)
  exact ⟨ticket, entered, fetches, mapped, balanced⟩

/-- A client with a bound that cannot be counted. -/
def unbounded : ClientBuilder Empty :=
  (ClientBuilder.new ⟨0, none⟩).apply (.tune (.maxPerHost 2305843009213693952))

/-- Such a client can be made, and its first request makes the executor panic. -/
theorem unbounded_panics :
    ∃ plan, unbounded.build = .ok plan ∧ plan.limit = 2305843009213693952 ∧
      (((plan.client Empty.elim Visits.answering Site.gates).execute (.toSite none ⟨0, none⟩)).course
        (Site.world ⟨[], .ofLimit plan.limit⟩)).outcome = .panicked Limiter.tooManyPermits :=
  ⟨_, rfl, rfl, rfl⟩

end Network
end ResilientHttp

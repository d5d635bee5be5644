import ResilientHttp.Proofs.Http.Body
import ResilientHttp.Proofs.Retry.Pace

/-!
Retrying calls on time: what the pace of a call (`RetryPolicy.Paces`) comes to in every run.

* `Paces.goesOn`, `Paces.handed_pos` — a call is over some time unless an exchange never is, and it sends
  something if its body can be read.
* `Paces.returns` — an outcome that ends the call is returned as soon as it is known, and so is the
  failure of the last attempt; nothing follows either of them (`Latest.handed_le`).
* `retrying_keepsPace` — the law of every run on time.
-/

namespace ResilientHttp

variable {σ : Type}

/-- Both worlds have the same cancellation tokens, and timers of the same reach. -/
def World.SameBounds (world after : World σ) : Prop :=
  after.tokens = world.tokens ∧ after.longestTimer = world.longestTimer

theorem World.sameBounds_refl (world : World σ) : World.SameBounds world world := ⟨rfl, rfl⟩

theorem World.SameBounds.trans {world middle after : World σ} (h : World.SameBounds world middle)
    (h' : World.SameBounds middle after) : World.SameBounds world after :=
  ⟨h'.1.trans h.1, h'.2.trans h.2⟩

namespace RetryPolicy

/-- What is written in a journal stays there. -/
def Extends (world after : World (Noted σ)) : Prop :=
  world.journal.handed <+: after.journal.handed ∧ world.journal.answered <+: after.journal.answered

theorem Extends.trans {world middle after : World (Noted σ)} (h : Extends world middle)
    (h' : Extends middle after) : Extends world after :=
  ⟨h.1.trans h'.1, h.2.trans h'.2⟩

theorem extends_of_quiet {world after : World (Noted σ)} (same : after.journal = world.journal) :
    Extends world after := by
  rw [Extends, same]
  exact ⟨List.prefix_refl _, List.prefix_refl _⟩

/-- How a call proceeds that is begun in a certain world, in all its runs on time. -/
structure KeepsPace (policy : RetryPolicy) (sink : Sink) (base : Executor σ)
    (others : World (Noted σ) → World (Noted σ) → Prop) (request : Request) (world : World σ) :
    Prop where
  /-- It is the call itself that proceeds so, with a journal written besides. -/
  recorded : Task.Recorded (Except.map Response.noted) (policy.retrying sink base request)
    (policy.retrying sink base.recording request)
  /-- Its body is read as fast as its chunks come. -/
  buffered : ∀ body, request.body = some body →
    ((body.collect .none : Task σ Event ChunkResult).course world).finish =
      request.bufferedAt world.now
  /-- A request is sent as soon as the body has been read, if it can be. -/
  sends : ∀ octets, request.replayed = .ok octets →
    ∃ first, ((policy.retrying sink base.recording request).course
        (world.noted .empty)).world.journal.handed[0]? = some first ∧
      first.1.now = request.bufferedAt world.now
  /-- No other is sent than the first one when the body has been read, and each later one when the wait
  after the attempt before has passed. -/
  spaced : ∀ {events left after},
    Task.OnTime others (policy.retrying sink base.recording request) (world.noted .empty) events left
      after → policy.Spaced request (request.bufferedAt world.now) after.journal
  /-- Besides its body and its outcomes the call waits for nothing but that. -/
  waits : ∀ {events wake held next stop},
    Task.OnTime others (policy.retrying sink base.recording request) (world.noted .empty) events
      (.rest wake held next) stop →
      policy.Waiting request (request.bufferedAt world.now) stop.journal wake.instant stop.now
  /-- Left to itself anywhere, it is over some time, unless an exchange never is. -/
  goesOn : ∀ {events left after},
    Task.OnTime others (policy.retrying sink base.recording request) (world.noted .empty) events left
      after →
      (∃ result, (left.course after).outcome = .value result) ∨
        (left.course after).world.journal.handed.length =
          (left.course after).world.journal.answered.length + 1
  /-- When it is over, it is so in one of these ways at one of these instants. -/
  ends : ∀ {events result after},
    Task.OnTime others (policy.retrying sink base.recording request) (world.noted .empty) events
      (.done result) after →
      policy.EndsAt request (request.bufferedAt world.now) after.journal result after.now
  /-- An outcome that ends the call is returned as soon as it is known, and so is the failure of the last
  attempt. -/
  returns : ∀ {events left after known attempt},
    Task.OnTime others (policy.retrying sink base.recording request) (world.noted .empty) events left
      after → policy.Latest request after.journal known attempt →
      (policy.isTerminal known.2 = true ∨ attempt = policy.maxAttempts.toNat) →
      ∃ result, (left.course after).outcome = .value result ∧
        (left.course after).finish = known.1.now ∧
        policy.EndsAt request (request.bufferedAt world.now) after.journal result known.1.now

section Law

variable {policy : RetryPolicy} {sink : Sink} {base : Executor σ} {request : Request}
  {start now : Instant} {others : World (Noted σ) → World (Noted σ) → Prop}

section Final

variable {journal later : Journal σ} {known : World σ × ExchangeResult σ} {attempt : Nat}
  {result : ExchangeResult (Noted σ)} (latest : policy.Latest request journal known attempt)
  (final : policy.isTerminal known.2 = true ∨ attempt = policy.maxAttempts.toNat)

theorem EndsAt.paired (h : policy.EndsAt request start journal result now) :
    journal.answered.length = journal.handed.length := by
  cases h with
  | unreadable _ empty => rw [empty]; rfl
  | terminal latest => exact latest.paired
  | exhausted _ _ latest => exact latest.paired

include latest final

/-- After an outcome that ends the call, or that of the last attempt, nothing more is handed over. -/
theorem Latest.handed_le (answered : journal.answered <+: later.answered)
    (spaced : policy.Spaced request start later) : later.handed.length ≤ journal.handed.length := by
  refine Nat.le_of_not_lt fun more => ?_
  obtain ⟨tail, same⟩ := answered
  have some := latest.length_pos
  have place : journal.answered.length - 1 + 1 = journal.handed.length := by rw [← latest.paired]; omega
  obtain ⟨other, answer, number, found, failed, notLast, -⟩ :=
    spaced.next (journal.answered.length - 1) _ (by rw [place]; exact List.getElem?_eq_getElem more)
  have own : later.answered[journal.answered.length - 1]? = .some known := by
    rw [← same, List.getElem?_append_left (by omega), ← List.getLast?_eq_getElem?]
    exact latest.known
  have sameAnswer : answer = known := Option.some.inj (found.symm.trans own)
  have sameNumber : other = attempt := Option.some.inj (number.symm.trans latest.number)
  rcases final with terminal | last
  · rw [sameAnswer, terminal] at failed
    cases failed
  · exact Nat.ne_of_lt notLast (sameNumber.trans last)

/-- A call that is over after such an outcome was over when it was known. -/
theorem EndsAt.eq_now (h : policy.EndsAt request start journal result now) : now = known.1.now := by
  cases h with
  | unreadable _ empty =>
      have some := latest.known
      rw [empty] at some
      cases some
  | terminal same => rw [Option.some.inj (same.known.symm.trans latest.known)]
  | @exhausted _ other number _ _ same failed =>
      obtain rfl : other = known := Option.some.inj (same.known.symm.trans latest.known)
      obtain rfl : number = attempt := Option.some.inj (same.number.symm.trans latest.number)
      rcases final with terminal | last
      · rw [terminal] at failed
        cases failed
      · rw [restAfter, if_neg (Nat.not_lt.mpr (Nat.le_of_eq last.symm)), Nat.add_zero]

end Final

section Left

variable {world : World (Noted σ)} {left : Task (Noted σ) Event (ExchangeResult (Noted σ))}
  (paces : policy.Paces request start others left world)
  (unhindered : ∀ {events rest after}, Task.OnTime others left world events rest after →
    request.Unhindered after)

include paces unhindered

/-- What is left of a call is over some time, unless an exchange never is. -/
theorem Paces.goesOn :
    (∃ result, (left.course world).outcome = .value result ∧
      policy.EndsAt request start (left.course world).world.journal result
        (left.course world).finish) ∨
      (left.course world).world.journal.handed.length =
        (left.course world).world.journal.answered.length + 1 := by
  rcases (paces.of_course unhindered).2 with ending | never
  · exact .inl ending
  · exact .inr never.forever

/-- It sends something if its body can be read. -/
theorem Paces.handed_pos {octets : Option Octets} (readable : request.replayed = .ok octets) :
    0 < (left.course world).world.journal.handed.length := by
  rcases paces.goesOn unhindered with ⟨result, -, ending⟩ | underway
  · have answered : ∀ {known attempt},
        policy.Latest request (left.course world).world.journal known attempt →
        0 < (left.course world).world.journal.handed.length := by
      intro known attempt latest
      exact latest.paired ▸ latest.length_pos
    generalize (left.course world).finish = now at ending
    cases ending with
    | unreadable fault =>
        rw [readable] at fault
        cases fault
    | terminal latest => exact answered latest
    | exhausted _ _ latest => exact answered latest
  · omega

/-- After an outcome that ends the call, or that of the last attempt, it is over at once. -/
theorem Paces.returns {known : World σ × ExchangeResult σ} {attempt : Nat}
    (apart : ∀ world later : World (Noted σ), others world later → later.journal = world.journal)
    (grows : left.Keeps Extends fun _ => True)
    (latest : policy.Latest request world.journal known attempt)
    (final : policy.isTerminal known.2 = true ∨ attempt = policy.maxAttempts.toNat) :
    ∃ result, (left.course world).outcome = .value result ∧
      (left.course world).finish = known.1.now ∧
      policy.EndsAt request start world.journal result known.1.now := by
  obtain ⟨rest, run, -⟩ := Task.exists_onTime_course others left world
  have spaced := (paces.of_course unhindered).1
  obtain ⟨handed, answered⟩ : Extends world (left.course world).world := by
    refine grows.stays_of_run (Extends world) (fun _ _ => Extends.trans) (fun _ after grown act => ?_)
      (fun _ _ => id) ⟨List.prefix_refl _, List.prefix_refl _⟩ run
    rwa [Extends, apart _ _ act]
  have noMore := latest.handed_le final answered spaced
  have allHanded := handed.eq_of_length_le noMore
  have paired := latest.paired
  rcases paces.goesOn unhindered with ⟨result, outcome, ending⟩ | underway
  · have allAnswered := answered.eq_of_length_le
      (Nat.le_of_eq (by rw [ending.paired, ← allHanded, paired]))
    have same : (left.course world).world.journal = world.journal := by
      cases h : world.journal
      cases h' : (left.course world).world.journal
      rw [h, h'] at allHanded allAnswered
      cases allHanded
      cases allAnswered
      rfl
    rw [same] at ending
    have now := ending.eq_now latest final
    exact ⟨result, outcome, now, now ▸ ending⟩
  · have some := answered.length_le
    omega

end Left

/-- What a call writes in its journal stays there. -/
theorem keeps_extends (timeless : base.Timeless) :
    (policy.retrying sink base.recording request).Keeps Extends fun _ => True := by
  have moves : base.recording.MovesOn (fun _ => True) Extends := by
    refine (Executor.timeless_iff_movesOn.mp timeless).recording (fun world request _ => ?_)
      (fun world outcome => ?_) fun _ _ _ same => extends_of_quiet same
    · exact ⟨List.prefix_append _ _, List.prefix_refl _⟩
    · exact ⟨List.prefix_refl _, List.prefix_append _ _⟩
  have kept := policy.movesOn_retrying sink (fun _ => extends_of_quiet rfl) (fun _ _ _ => id) moves
  exact (kept request trivial).mono (fun _ _ => id) fun _ _ => trivial

/-- A call over an executor that does not set the clock keeps the pace of its policy, whatever the
others do beside it, if its context never ends and timers are exact. -/
theorem retrying_keepsPace (policy : RetryPolicy) (sink : Sink) (timeless : base.Timeless)
    (apart : ∀ world later : World (Noted σ), others world later → later.journal = world.journal)
    (request : Request) (world : World σ)
    (unhindered : ∀ {events left after},
      Task.OnTime others (policy.retrying sink base.recording request) (world.noted .empty) events left
        after → request.Unhindered after) :
    policy.KeepsPace sink base others request world := by
  have paces : policy.Paces request (request.bufferedAt world.now) others
      (policy.retrying sink base.recording request) (world.noted .empty) := by
    have fresh : (world.noted .empty).journal = .empty := world.journal_noted .empty
    exact paces_retrying apart timeless fresh
  have paced : ∀ {events left after}, Task.OnTime others
      (policy.retrying sink base.recording request) (world.noted .empty) events left after →
      policy.Paces request (request.bufferedAt world.now) others left after :=
    fun run => paces.of_run run unhindered
  constructor
  case recorded => exact policy.recorded_retrying sink base request
  case buffered =>
    intro body hbody
    have timers : world.lasting = Duration.toNanos := funext (World.lasting_of_exact (unhindered .here).2)
    rw [Course.finish, Body.course_collect, Request.bufferedAt, hbody, timers]
  case sends =>
    intro octets readable
    have some := paces.handed_pos unhindered readable
    have first := List.getElem?_eq_getElem some
    exact ⟨_, first, (paces.of_course unhindered).1.first _ first⟩
  case spaced =>
    intro events left after run
    exact (paced run).now
  case waits =>
    intro events wake held next stop run
    exact (paced run stop .refl).2.1
  case goesOn =>
    intro events left after run
    rcases (paced run).goesOn fun onward => unhindered (run.trans onward) with ⟨result, outcome, -⟩ | underway
    · exact .inl ⟨result, outcome⟩
    · exact .inr underway
  case ends =>
    intro events result after run
    exact (paced run).2
  case returns =>
    intro events left after known attempt run latest final
    have grows : left.Keeps Extends fun _ => True := (keeps_extends timeless).of_punctual run
    exact (paced run).returns (fun onward => unhindered (run.trans onward)) apart grows latest final

/-- Where nobody cancels its context, which has no deadline, and nobody touches the timers, which are exact,
nothing hinders a call. -/
theorem unhindered_of_uncancelled {world : World σ} {after : World (Noted σ)}
    {left : Task (Noted σ) Event (ExchangeResult (Noted σ))} {events : List (Instant × Event)}
    (moves : base.MovesOn (fun _ => True) World.SameBounds)
    (spares : ∀ world later, others world later → World.SameBounds world later)
    (uncancelled : world.tokens.isCancelled request.context.token = false)
    (unlimited : request.context.deadline = none) (exact : world.Exact)
    (run : Task.OnTime others (policy.retrying sink base.recording request) (world.noted .empty) events
      left after) : request.Unhindered after := by
  have recorded : base.recording.MovesOn (fun _ => True) World.SameBounds :=
    moves.recording (fun _ _ _ => ⟨rfl, rfl⟩) (fun _ _ => ⟨rfl, rfl⟩) fun _ _ same _ => same
  have keeps := policy.movesOn_retrying sink World.sameBounds_refl (fun _ _ _ => id) recorded
  have same : World.SameBounds (world.noted .empty) after :=
    (keeps request trivial).stays_of_run (World.SameBounds (world.noted .empty))
      (fun _ _ same kept => same.trans kept) (fun _ _ same act => same.trans (spares _ _ act))
      (fun _ _ => id) (World.sameBounds_refl _) run
  refine ⟨Context.endedIn?_eq_none_iff.mpr ⟨?_, ?_⟩, same.2.trans exact⟩
  · rw [same.1]
    exact uncancelled
  · rw [unlimited]
    rfl

end Law

/-! ### A site that is overloaded for some time -/

/-- A site that takes five milliseconds for each answer and is overloaded up to an instant. -/
def overloadedUntil (instant : Instant) : Executor Unit := fun _ =>
  (Task.sleep .none (.ofMillis 5)).bind fun _ =>
    .look fun world => .done (.ok (.new ⟨if world.now < instant then 503 else 200⟩ .empty))

theorem moves_overloadedUntil {kept : World Unit → World Unit → Prop}
    (same : ∀ world, kept world world) (instant : Instant) : (overloadedUntil instant).Moves kept := by
  refine fun request => (Task.keeps_sleep (Cleanup.keeps_none same) _).bind fun _ _ world => ?_
  rintro response ⟨⟩
  exact same

/-- The second attempt finds no URL in its place, and the third one is sent when the first wait is
over. -/
theorem keepsPace_overloadedUntil :
    let policy := (RetryPolicy.doubling 2 (.ofMillis 40)).withFailover ["mirror"]
    let request := Request.toSite (some (.stream [.pause (.ofMillis 3), .data [97]])) ⟨0, none⟩
    let others : World (Noted Unit) → World (Noted Unit) → Prop := fun world later =>
      later.journal = world.journal ∧ World.SameBounds world later
    let start : World Unit := ⟨0, none, ⟨[⟨none, false⟩]⟩, .empty, ()⟩
    let call := policy.retrying .tracing (overloadedUntil 50000000).recording request
    (overloadedUntil 50000000).Timeless ∧
      (∀ world later, others world later → later.journal = world.journal) ∧
      (∀ {events left after}, Task.OnTime others call (start.noted .empty) events left after →
        request.Unhindered after) ∧
      policy.KeepsPace .tracing (overloadedUntil 50000000) others request start ∧
      (call.course (start.noted .empty)).world.journal.handed.map (fun handed => handed.1.now) =
        [3000000, 48000000] ∧
      (call.course (start.noted .empty)).finish = 53000000 := by
  intro policy request others start call
  have timeless : (overloadedUntil 50000000).Timeless :=
    moves_overloadedUntil (fun world => show World.SameTime world world from rfl) _
  have apart : ∀ world later, others world later → later.journal = world.journal := fun _ _ => And.left
  have exact : start.Exact := rfl
  have unhindered : ∀ {events left after},
      Task.OnTime others call (start.noted .empty) events left after → request.Unhindered after :=
    fun run => unhindered_of_uncancelled
      (fun request _ => moves_overloadedUntil World.sameBounds_refl _ request) (fun _ _ => And.right)
      (by decide) rfl exact run
  exact ⟨timeless, apart, unhindered,
    retrying_keepsPace policy .tracing timeless apart request start unhindered,
    by decide +kernel, by decide +kernel⟩

end RetryPolicy
end ResilientHttp

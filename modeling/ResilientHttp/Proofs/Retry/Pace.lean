import ResilientHttp.Proofs.Recording
import ResilientHttp.Proofs.Retry.Call
import ResilientHttp.Proofs.Retry.Deadline
import ResilientHttp.Proofs.Task.Timely

/-!
The pace of a retrying call. Its first request is sent when its body has been read, and each later one
when the wait after the attempt before has passed. The wait is that of the number of the attempt, and
attempts that send nothing have numbers too, but take no time.

* `Latest` — what the journal tells of the last attempt; `Spaced` — the instants of the requests;
  `Waiting` — what a call waits for; `EndsAt` — how it is over, and when.
* `Ready` — where a call stands when an attempt is due. `Ready.skip` and `Ready.fail` lead from one
  attempt to the next.
* `paces_attempt` — the step; `paces_attempts`, `paces_retrying` — the loop, and the whole call.
-/

namespace ResilientHttp

variable {σ : Type}

/-- When the body of a request has been read that is begun to be read at an instant. -/
def Request.bufferedAt (request : Request) (begun : Instant) : Instant :=
  match request.body with
  | none => begun
  | some body => begun + body.readingTime Duration.toNanos

/-- Nothing hinders a call: its context lives, and timers of any length are exact. -/
def Request.Unhindered (request : Request) (world : World σ) : Prop :=
  request.context.Lives world ∧ world.Exact

/-- What is handed over is what was handed over before, or the new request behind it. -/
theorem Journal.getElem?_hand {journal : Journal σ} {world : World σ} {request : Request} {place : Nat}
    {other : World σ × Request} (mem : (journal.hand world request).handed[place]? = some other) :
    journal.handed[place]? = some other ∨
      place = journal.handed.length ∧ other = (world, request) := by
  rw [hand, List.getElem?_append] at mem
  split at mem
  · exact .inl mem
  · rename_i beyond
    rw [List.getElem?_singleton] at mem
    split at mem
    · rename_i first
      exact .inr ⟨by omega, (Option.some.inj mem).symm⟩
    · cases mem

namespace RetryPolicy

/-- How long a call waits after a failed attempt before it goes on. -/
def restAfter (policy : RetryPolicy) (attempt : Nat) : Nat :=
  if attempt < policy.maxAttempts.toNat then (policy.delayAfter attempt).toNanos else 0

/-- The numbers of the attempts of a call that send something, in order. -/
def numbers (policy : RetryPolicy) (own : Url) : List Nat :=
  policy.sending own (policy.maxAttempts.toNat + 1)

/-- What was handed over was answered; this is the last outcome, and the number of the attempt that it
came of. -/
structure Latest (policy : RetryPolicy) (request : Request) (journal : Journal σ)
    (known : World σ × ExchangeResult σ) (attempt : Nat) : Prop where
  paired : journal.answered.length = journal.handed.length
  known : journal.answered.getLast? = some known
  number : (policy.numbers request.url)[journal.answered.length - 1]? = some attempt

/-- The requests that were handed over are those of the attempts that send one, each handed over when it
was due. -/
structure Spaced (policy : RetryPolicy) (request : Request) (start : Instant)
    (journal : Journal σ) : Prop where
  /-- Each request is that of an attempt. -/
  turns : ∀ (place : Nat) (handed : World σ × Request), journal.handed[place]? = some handed →
    ∃ attempt, (policy.numbers request.url)[place]? = some attempt ∧
      policy.turn? request.url attempt = some handed.2.url
  /-- The first one is due at the start. -/
  first : ∀ handed : World σ × Request, journal.handed[0]? = some handed → handed.1.now = start
  /-- A later one follows an attempt that failed and that was not the last one, and it is due when the
  wait after that attempt has passed. -/
  next : ∀ (place : Nat) (handed : World σ × Request), journal.handed[place + 1]? = some handed →
    ∃ attempt known, (policy.numbers request.url)[place]? = some attempt ∧
      journal.answered[place]? = some known ∧ policy.isTerminal known.2 = false ∧
      attempt < policy.maxAttempts.toNat ∧
      handed.1.now = known.1.now + (policy.delayAfter attempt).toNanos

/-- What a call waits for at an instant, if its rest ends by itself at `wake` or never: for its body, for
an outcome, or for the next attempt after one that failed and was not the last one. -/
inductive Waiting (policy : RetryPolicy) (request : Request) (start : Instant) (journal : Journal σ)
    (wake : Option Instant) (now : Instant) : Prop where
  | reading {instant : Instant} :
      journal = .empty → wake = some instant → instant ≤ start → now ≤ start →
      Waiting policy request start journal wake now
  | exchanging :
      journal.handed.length = journal.answered.length + 1 →
      Waiting policy request start journal wake now
  | pausing {known : World σ × ExchangeResult σ} {attempt : Nat} {instant : Instant} :
      policy.Latest request journal known attempt → policy.isTerminal known.2 = false →
      attempt < policy.maxAttempts.toNat → wake = some instant →
      instant ≤ known.1.now + (policy.delayAfter attempt).toNanos →
      now ≤ known.1.now + (policy.delayAfter attempt).toNanos →
      Waiting policy request start journal wake now

/-- How a call whose context lives can be over, and when: its body could not be read, the last outcome
ended it and is returned at once, or the schedule was gone through to its end. -/
inductive EndsAt (policy : RetryPolicy) (request : Request) (start : Instant) (journal : Journal σ) :
    ExchangeResult (Noted σ) → Instant → Prop where
  | unreadable {fault : IoError} :
      request.replayed = .error fault → journal = .empty →
      EndsAt policy request start journal (.error (.requestBody fault)) start
  | terminal {known : World σ × ExchangeResult σ} {attempt : Nat} :
      policy.Latest request journal known attempt → policy.isTerminal known.2 = true →
      EndsAt policy request start journal (known.2.map Response.noted) known.1.now
  | exhausted {octets : Option Octets} {known : World σ × ExchangeResult σ} {attempt : Nat} :
      request.replayed = .ok octets →
      policy.Underway request octets (policy.maxAttempts.toNat + 1) journal →
      policy.Latest request journal known attempt → policy.isTerminal known.2 = false →
      EndsAt policy request start journal
        (.error (Failure.exhausted (.ofNat journal.requests.length) (some (Failure.of known.2))))
        (known.1.now + policy.restAfter attempt)

/-- Where a call stands when an attempt is due. -/
structure Ready (policy : RetryPolicy) (request : Request) (octets : Option Octets) (start : Instant)
    (count : Nat) (sent : UInt32) (last : Option Failure) (journal : Journal σ) (due : Instant) : Prop
    extends Reached policy request octets count sent last journal where
  spaced : policy.Spaced request start journal
  due : (journal = .empty ∧ due = start) ∨
    ∃ known attempt, policy.Latest request journal known attempt ∧ attempt < count ∧
      due = known.1.now + policy.restAfter attempt

section Stands

variable {policy : RetryPolicy} {request : Request} {octets : Option Octets} {start due : Instant}
  {count : Nat} {sent : UInt32} {last : Option Failure} {journal : Journal σ} {handed : World σ}
  {url : Url}

theorem spaced_empty (policy : RetryPolicy) (request : Request) (start : Instant) :
    policy.Spaced request start (Journal.empty : Journal σ) where
  turns := by simp [Journal.empty]
  first := by simp [Journal.empty]
  next := by simp [Journal.empty]

/-- An outcome changes nothing about when the requests were handed over. -/
theorem Spaced.answer (h : policy.Spaced request start journal) (after : World σ)
    (outcome : ExchangeResult σ) : policy.Spaced request start (journal.answer after outcome) where
  turns := h.turns
  first := h.first
  next := by
    intro place handed mem
    obtain ⟨attempt, known, number, answered, rest⟩ := h.next place handed mem
    have inBounds := (List.getElem?_eq_some_iff.mp answered).1
    refine ⟨attempt, known, number, ?_, rest⟩
    rwa [Journal.answer, List.getElem?_append_left inBounds]

theorem ready_empty (policy : RetryPolicy) (request : Request) (octets : Option Octets)
    (start : Instant) :
    policy.Ready request octets start 0 0 none (Journal.empty : Journal σ) start :=
  ⟨reached_empty policy request octets, spaced_empty policy request start, .inl ⟨rfl, rfl⟩⟩

theorem Underway.length_handed (h : policy.Underway request octets count journal) :
    journal.handed.length = (policy.turns request.url count).length := by
  have same := congrArg List.length h.requests
  simpa [Journal.requests, copies] using same

theorem Underway.length_answered (h : policy.Underway request octets count journal) :
    journal.answered.length = journal.handed.length := by
  simpa [Journal.outcomes, Journal.requests] using h.paired

theorem Latest.length_pos {known : World σ × ExchangeResult σ} {attempt : Nat}
    (h : policy.Latest request journal known attempt) : 0 < journal.answered.length :=
  List.length_pos_of_mem (List.mem_of_getLast? h.known)

/-- Between two attempts no outcome has ended the call. -/
theorem Underway.failed_of_latest {known : World σ × ExchangeResult σ} {attempt : Nat}
    (h : policy.Underway request octets count journal)
    (latest : policy.Latest request journal known attempt) : policy.isTerminal known.2 = false :=
  h.failed _ (List.mem_map_of_mem (List.mem_of_getLast? latest.known))

/-- An attempt that sends nothing takes no time. -/
theorem Ready.skip (h : policy.Ready request octets start count sent last journal due)
    (empty : policy.turn? request.url count = none) :
    policy.Ready request octets start (count + 1) sent last journal due := by
  refine ⟨h.toReached.skip empty, h.spaced, ?_⟩
  rcases h.due with first | ⟨known, attempt, latest, lt, same⟩
  · exact .inl first
  · exact .inr ⟨known, attempt, latest, Nat.lt_succ_of_lt lt, same⟩

section Turn

variable (h : policy.Ready request octets start count sent last journal due)
  (turn : policy.turn? request.url count = some url) (lt : count < policy.maxAttempts.toNat + 1)

include h turn lt

/-- The number of the attempt is that of the request which it hands over. -/
theorem Ready.number :
    (policy.numbers request.url)[journal.handed.length]? = some count := by
  rw [h.length_handed]
  exact sending_getElem? turn lt

theorem Ready.latest (handed after : World σ) (outcome : ExchangeResult σ) :
    policy.Latest request ((journal.hand handed (request.rebind url octets)).answer after outcome)
      (after, outcome) count where
  paired := by simp [Journal.answer, Journal.hand, h.length_answered]
  known := List.getLast?_concat
  number := by
    have place : ((journal.hand handed (request.rebind url octets)).answer after
        outcome).answered.length - 1 = journal.handed.length := by
      simp [Journal.answer, Journal.hand, h.length_answered]
    rw [place]
    exact h.number turn lt

/-- The request of an attempt is handed over when it is due. -/
theorem Ready.hand (now : handed.now = due) :
    policy.Spaced request start (journal.hand handed (request.rebind url octets)) where
  turns := by
    intro place other mem
    rcases Journal.getElem?_hand mem with old | ⟨rfl, rfl⟩
    · exact h.spaced.turns place other old
    · exact ⟨count, h.number turn lt, turn⟩
  first := by
    intro other mem
    rcases Journal.getElem?_hand mem with old | ⟨none, rfl⟩
    · exact h.spaced.first other old
    · rcases h.due with ⟨-, same⟩ | ⟨known, attempt, latest, -, -⟩
      · exact now.trans same
      · have some := latest.length_pos
        rw [latest.paired, ← none] at some
        exact absurd some (Nat.lt_irrefl 0)
  next := by
    intro place other mem
    rcases Journal.getElem?_hand mem with old | ⟨last, rfl⟩
    · exact h.spaced.next place other old
    · rcases h.due with ⟨rfl, -⟩ | ⟨known, attempt, latest, below, same⟩
      · cases last
      · have before : place = journal.answered.length - 1 := by rw [latest.paired, ← last]; rfl
        have failed := h.failed_of_latest latest
        have notLast : attempt < policy.maxAttempts.toNat := by omega
        rw [restAfter, if_pos notLast] at same
        refine ⟨attempt, known, ?_, ?_, failed, notLast, now.trans same⟩
        · rw [before]
          exact latest.number
        · rw [before, Journal.hand, ← List.getLast?_eq_getElem?]
          exact latest.known

/-- After an attempt that has not ended the call the next one is due when the wait has passed. -/
theorem Ready.fail {after : World σ} {outcome : ExchangeResult σ}
    (live : request.context.endedIn? handed = none) (now : handed.now = due)
    (failed : policy.isTerminal outcome = false) :
    policy.Ready request octets start (count + 1) (sent + 1) (some (Failure.of outcome))
      ((journal.hand handed (request.rebind url octets)).answer after outcome)
      (after.now + policy.restAfter count) :=
  ⟨h.toReached.fail turn live failed, (h.hand turn lt now).answer after outcome,
    .inr ⟨(after, outcome), count, h.latest turn lt handed after outcome, Nat.lt_succ_self count, rfl⟩⟩

end Turn

/-- When the schedule was gone through to its end, the call is over without a further wait. -/
theorem Ready.endsAt
    (h : policy.Ready request octets start (policy.maxAttempts.toNat + 1) sent last journal due)
    (readable : request.replayed = .ok octets) :
    policy.EndsAt request start journal (.error (Failure.exhausted sent last)) due := by
  rcases h.due with ⟨rfl, -⟩ | ⟨known, attempt, latest, -, same⟩
  · have some := length_turns_pos policy request.url policy.maxAttempts.toNat
    rw [← h.length_handed] at some
    exact absurd some (Nat.lt_irrefl 0)
  · have remembered : last = some (Failure.of known.2) := by
      rw [h.remembered, Journal.outcomes, List.getLast?_map, latest.known]
      rfl
    rw [same, remembered, h.counted]
    exact .exhausted readable h.toUnderway latest (h.failed_of_latest latest)

/-- A deadline only makes a rest shorter. -/
theorem Waiting.bounded {wake : Option Instant} {now : Instant}
    (h : policy.Waiting request start journal wake now) (deadline : Option Instant) :
    policy.Waiting request start journal (Context.earlier wake deadline) now := by
  cases h with
  | reading empty wake le now =>
      obtain ⟨other, sooner, same⟩ := Context.earlier_le_left _ deadline
      exact .reading empty (wake ▸ same) (Nat.le_trans sooner le) now
  | exchanging one => exact .exchanging one
  | pausing latest failed notLast wake le now =>
      obtain ⟨other, sooner, same⟩ := Context.earlier_le_left _ deadline
      exact .pausing latest failed notLast (wake ▸ same) (Nat.le_trans sooner le) now

/-- Without an end only an exchange is waited for. -/
theorem Waiting.forever {now : Instant} (h : policy.Waiting request start journal none now) :
    journal.handed.length = journal.answered.length + 1 := by
  cases h with
  | reading _ wake => cases wake
  | exchanging one => exact one
  | pausing _ _ _ wake => cases wake

end Stands

/-! ### The loop -/

/-- A part of a call keeps the pace, whatever the others do. -/
def Paces (policy : RetryPolicy) (request : Request) (start : Instant)
    (others : World (Noted σ) → World (Noted σ) → Prop)
    (part : Task (Noted σ) Event (ExchangeResult (Noted σ))) (world : World (Noted σ)) : Prop :=
  part.EnsuresOnTime others request.Unhindered
    (fun world => policy.Spaced request start world.journal)
    (fun wake world => policy.Waiting request start world.journal wake world.now)
    (fun result world => policy.EndsAt request start world.journal result world.now) world

section Loop

variable {policy : RetryPolicy} {sink : Sink} {base : Executor σ} {request : Request}
  {octets : Option Octets} {start : Instant} {others : World (Noted σ) → World (Noted σ) → Prop}
  {world : World (Noted σ)}

theorem ensuresOnTime_logRetry {lives always : World σ → Prop} {waits : Option Instant → World σ → Prop}
    {others : World σ → World σ → Prop} {post : Unit → World σ → Prop} {world : World σ}
    {record : LogRecord} (now : always world) (h : post () world) :
    (policy.logRetry sink record).EnsuresOnTime others lives always waits post world := by
  unfold logRetry
  split
  · exact ⟨now, now, h⟩
  · exact ⟨now, h⟩

/-- A failed outcome is discarded at once. -/
theorem ensuresOnTime_discard {lives always : World (Noted σ) → Prop}
    {waits : Option Instant → World (Noted σ) → Prop} {post : Unit → World (Noted σ) → Prop}
    {outcome : ExchangeResult σ} (timeless : ExchangeResult.Timeless outcome)
    (steady : ∀ after, after.journal = world.journal → always after)
    (h : ∀ after, after.journal = world.journal → after.now = world.now → post () after) :
    (ExchangeResult.discard (outcome.map Response.noted)).EnsuresOnTime others lives always waits post
      world := by
  cases outcome with
  | error error => exact ⟨steady _ rfl, h _ rfl rfl⟩
  | ok response =>
      have same : (response.held.noted.effect world).now = world.now := timeless response rfl world.plain
      exact ⟨steady _ rfl, Task.ensuresOnTime_emitAll _ (steady _ rfl) (h _ rfl same)⟩

section Apart

variable (apart : ∀ world later : World (Noted σ), others world later → later.journal = world.journal)

include apart

/-- After a failed attempt the next one follows when the wait has passed. -/
theorem paces_afterFailure {known : World σ × ExchangeResult σ} {left attempt : Nat} {url : Url}
    {failure : Failure} {again : Task (Noted σ) Event (ExchangeResult (Noted σ))}
    (total : attempt + left = policy.maxAttempts.toNat)
    (spaced : policy.Spaced request start world.journal)
    (latest : policy.Latest request world.journal known attempt)
    (failed : policy.isTerminal known.2 = false) (now : world.now = known.1.now)
    (h : ∀ after : World (Noted σ), after.journal = world.journal →
      after.now = known.1.now + policy.restAfter attempt →
      policy.Paces request start others again after) :
    policy.Paces request start others
      (policy.afterFailure sink (request.withBody none) left attempt url failure again) world := by
  cases left with
  | zero =>
      have last : ¬ attempt < policy.maxAttempts.toNat := by omega
      rw [restAfter, if_neg last, Nat.add_zero] at h
      rw [afterFailure_zero]
      exact h world rfl now
  | succ left =>
      have notLast : attempt < policy.maxAttempts.toNat := by omega
      rw [restAfter, if_pos notLast] at h
      have steady : ∀ after : World (Noted σ), after.journal = world.journal →
          policy.Spaced request start after.journal := by
        intro after same
        rwa [same]
      rw [afterFailure_succ, pause, Task.proceed, Task.bind_assoc]
      refine .bind (ensuresOnTime_logRetry spaced ?_)
      refine Task.EnsuresOnTime.proceed (fun _ => And.left) (fun _ _ waits => waits.bounded _)
        spaced fun _ => ?_
      refine Task.ensuresOnTime_sleep (fun after => after.journal = world.journal)
        (fun _ => And.right) (fun _ _ same act => (apart _ _ act).trans same) (fun _ _ same => same)
        (fun after same _ => steady after same) (fun after same before => ?_) h rfl (by rw [now])
      rw [same]
      exact .pausing latest failed notLast rfl (Nat.le_refl _) before

section Attempts

variable {left attempt : Nat} {sent : UInt32} {last : Option Failure} {journal : Journal σ}
  (timeless : base.Timeless) (total : attempt + left = policy.maxAttempts.toNat)

include total

/-- What follows an exchange keeps the pace if the next attempt does. -/
theorem paces_settle {due : Instant} {handed : World σ} {outcome : ExchangeResult σ} {url : Url}
    {again : Failure → Task (Noted σ) Event (ExchangeResult (Noted σ))}
    (ready : policy.Ready request octets start attempt sent last journal due)
    (turn : policy.turn? request.url attempt = some url)
    (live : request.context.endedIn? handed = none) (now : handed.now = due)
    (timeless : ExchangeResult.Timeless outcome)
    (same : world.journal =
      (journal.hand handed (request.rebind url octets)).answer world.plain outcome)
    (next : ∀ failure (after : World (Noted σ)),
      policy.Ready request octets start (attempt + 1) (sent + 1) (some failure) after.journal
        after.now →
      policy.Paces request start others (again failure) after) :
    policy.Paces request start others
      (policy.settle sink (request.withBody none) left attempt url again
        (outcome.map Response.noted)) world := by
  have lt : attempt < policy.maxAttempts.toNat + 1 := by omega
  have spaced : policy.Spaced request start world.journal := by
    rw [same]
    exact (ready.hand turn lt now).answer _ _
  have latest : policy.Latest request world.journal (world.plain, outcome) attempt := by
    rw [same]
    exact ready.latest turn lt _ _ _
  cases terminal : policy.isTerminal outcome with
  | true =>
      rw [settle_of_isTerminal (by simpa using terminal)]
      exact ⟨spaced, .terminal latest terminal⟩
  | false =>
      rw [settle_of_not_isTerminal (by simpa using terminal), Failure.of_map_noted]
      refine .bind (ensuresOnTime_discard timeless (fun after kept => by rwa [kept]) ?_)
      intro later kept clock
      rw [← kept] at spaced latest
      refine paces_afterFailure apart total spaced latest terminal clock ?_
      intro after kept' due
      refine next _ after ?_
      rw [kept'.trans kept, same, due]
      exact ready.fail turn lt live now terminal

include timeless

/-- One attempt keeps the pace if the next one does. -/
theorem paces_attempt
    (ready : policy.Ready request octets start attempt sent last world.journal world.now)
    (next : ∀ sent last (after : World (Noted σ)),
      policy.Ready request octets start (attempt + 1) sent last after.journal after.now →
      policy.Paces request start others
        (policy.attempts sink base.recording (request.withBody none) octets left (attempt + 1) sent
          last) after) :
    policy.Paces request start others
      (policy.attempts sink base.recording (request.withBody none) octets (left + 1) attempt sent last)
      world := by
  rw [attempts_succ]
  refine Task.EnsuresOnTime.proceed_check (fun _ => And.left) ready.spaced fun _ => ?_
  cases htarget : policy.target (request.withBody none).url (policy.slot attempt) with
  | error cause =>
      have empty : policy.turn? request.url attempt = none := by
        rw [← toOption_target]
        exact congrArg Except.toOption htarget
      exact ⟨ready.spaced, next _ _ world (ready.skip empty)⟩
  | ok url =>
      have turn : policy.turn? request.url attempt = some url := by
        rw [← toOption_target]
        exact congrArg Except.toOption htarget
      have lt : attempt < policy.maxAttempts.toNat + 1 := by omega
      refine Task.EnsuresOnTime.proceed (fun _ => And.left) (fun _ _ waits => waits.bounded _)
        ready.spaced fun live => ?_
      -- While the request is with the executor the journal tells of it and of no outcome.
      have spaced : policy.Spaced request start
          (world.journal.hand world.plain (request.rebind url octets)) :=
        ready.hand turn lt rfl
      have underway : ∀ after : World (Noted σ),
          after.journal = world.journal.hand world.plain (request.rebind url octets) →
          policy.Spaced request start after.journal ∧
            ∀ wake, policy.Waiting request start after.journal wake after.now := by
        intro after same
        rw [same]
        refine ⟨spaced, fun _ => .exchanging ?_⟩
        simp [Journal.hand, ready.length_answered]
      refine ⟨ready.spaced, .bind ?_⟩
      refine (timeless _).noted.ensuresOnTime
        (fun after => after.journal = world.journal.hand world.plain (request.rebind url octets))
        (fun _ _ same kept => kept.2.trans same) (fun _ _ same act => (apart _ _ act).trans same)
        (fun _ _ same => same) (fun after same => (underway after same).1)
        (fun _ after same => (underway after same).2 _) ?_ rfl
      intro outcome after same held
      refine ⟨(underway after same).1, ?_⟩
      have answered : (after.plain.noted (after.journal.answer after.plain outcome)).journal =
          (world.journal.hand world.plain (request.rebind url octets)).answer after.plain outcome := by
        rw [World.journal_noted, same]
      have plainLive : request.context.endedIn? world.plain = none := live.1
      have known : policy.Spaced request start
          (after.plain.noted (after.journal.answer after.plain outcome)).journal := by
        rw [answered]
        exact spaced.answer _ _
      exact ⟨known, paces_settle apart total ready turn plainLive rfl held answered fun _ => next _ _⟩

end Attempts

section Call

variable (timeless : base.Timeless)

include timeless

/-- The attempts of a call, from the middle on. -/
theorem paces_attempts {left attempt : Nat} {sent : UInt32} {last : Option Failure}
    (readable : request.replayed = .ok octets)
    (total : attempt + left = policy.maxAttempts.toNat + 1)
    (ready : policy.Ready request octets start attempt sent last world.journal world.now) :
    policy.Paces request start others
      (policy.attempts sink base.recording (request.withBody none) octets left attempt sent last)
      world := by
  induction left generalizing attempt sent last world with
  | zero =>
      obtain rfl : attempt = policy.maxAttempts.toNat + 1 := total
      rw [attempts_zero]
      exact ⟨ready.spaced, ready.endsAt readable⟩
  | succ left ih =>
      refine paces_attempt apart timeless (by omega) ready fun _ _ _ ready => ?_
      exact ih (by omega) ready

/-- A whole call keeps the pace if nothing was handed over before. -/
theorem paces_retrying (fresh : world.journal = .empty) :
    policy.Paces request (request.bufferedAt world.now) others
      (policy.retrying sink base.recording request) world := by
  have begin : ∀ (octets : Option Octets) (after : World (Noted σ)),
      request.replayed = .ok octets → after.journal = .empty →
      after.now = request.bufferedAt world.now →
      policy.Paces request (request.bufferedAt world.now) others
        (policy.attempts sink base.recording (request.withBody none) octets
          (policy.maxAttempts.toNat + 1) 0 0 none) after := by
    intro octets after readable empty now
    refine paces_attempts apart timeless readable (Nat.zero_add _) ?_
    rw [empty, now]
    exact ready_empty policy request octets _
  cases hbody : request.body with
  | none =>
      rw [retrying_of_none hbody]
      exact begin none world (by rw [Request.replayed, hbody]) fresh (by rw [Request.bufferedAt, hbody])
  | some body =>
      have steady : ∀ after : World (Noted σ), after.journal = .empty →
          policy.Spaced request (request.bufferedAt world.now) after.journal := by
        intro after empty
        rw [empty]
        exact spaced_empty policy request _
      rw [retrying_of_some hbody]
      refine Task.EnsuresOnTime.proceed (fun _ => And.left) (fun _ _ waits => waits.bounded _)
        (steady world fresh) fun _ => ?_
      have buffered : request.bufferedAt world.now = world.now + body.readingTime Duration.toNanos := by
        rw [Request.bufferedAt, hbody]
      refine body.ensuresOnTime_collect (fun after => after.journal = .empty)
        (fun _ => And.right) (fun _ _ empty act => (apart _ _ act).trans empty) (fun _ _ empty => empty)
        (fun after empty _ => steady after empty)
        (fun instant after empty before sooner => .reading empty rfl sooner before) ?_ fresh buffered
      intro after empty now
      have replayed : request.replayed = body.content.map some := by rw [Request.replayed, hbody]
      cases content : body.content with
      | error fault =>
          rw [content] at replayed
          have ending : policy.EndsAt request (request.bufferedAt world.now) after.journal
              (.error (.requestBody fault)) after.now := by
            rw [now]
            exact .unreadable replayed empty
          exact ⟨steady after empty, ending⟩
      | ok octets =>
          rw [content] at replayed
          exact begin (some octets) after replayed empty now

end Call
end Apart
end Loop

end RetryPolicy
end ResilientHttp

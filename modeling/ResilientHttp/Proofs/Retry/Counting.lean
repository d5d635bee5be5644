import ResilientHttp.Proofs.Retry.Nested
import ResilientHttp.Proofs.Retry.Wasted

/-!
Counts of 32 bits. A policy tells in 32 bits how many retries it allows, the log tells the number of an
attempt, and the error of a call that uses up its attempts tells how many requests were sent. Retries and
numbers of attempts stay in that range. The count of requests is greater by one than that of the retries,
and of all that a call can count it is the only one that may leave the range.

* `overflows_iff` — it leaves the range just where the rotation has as many places as there are counts.
* `toNat_ofNat_eq_iff`, `toNat_ofNat_of_mem_numbers`, `toNat_add_one_of_announced` — what is counted right.
* `counted_of_run` — the law of every run.
* `Concludes.exhausted_of_failed` — how a call is over in which all attempts have failed, for the call that
  does leave the range.
-/

namespace ResilientHttp

variable {σ ε α : Type}

/-- What holds in a world, and is left by all that a task keeps to and by the others, holds at each moment of
a run and at its end. -/
theorem Task.Keeps.forall_of_run {kept rely : World σ → World σ → Prop} {good : α → Prop}
    {task left : Task σ ε α} {world after : World σ} {moments : List (Moment σ ε)}
    (holds : World σ → Prop) (own : ∀ world after, holds world → kept world after → holds after)
    (others : ∀ world later, holds world → rely world later → holds later)
    (keeps : task.Keeps kept good) (now : holds world)
    (run : Run rely task world moments left after) :
    (∀ moment ∈ moments, holds moment.world) ∧ holds after := by
  induction run with
  | here => exact ⟨nofun, now⟩
  | look _ ih =>
      obtain ⟨each, final⟩ := ih (keeps _) now
      exact ⟨List.forall_mem_cons.mpr ⟨now, each⟩, final⟩
  | change _ ih => exact ih (keeps.2 _) (own _ _ now (keeps.1 _))
  | emit _ ih =>
      obtain ⟨each, final⟩ := ih keeps now
      exact ⟨List.forall_mem_cons.mpr ⟨now, each⟩, final⟩
  | wake related _ _ ih => exact ih keeps.2 (others _ _ now related)

namespace RetryPolicy

variable {policy : RetryPolicy} {sink : Sink} {base : Executor σ} {request : Request} {own : Url}

/-- The requests of a call may be more than can be counted: as many attempts are allowed as there are counts,
and each of them has a URL in its place. -/
def Overflows (policy : RetryPolicy) (own : Url) : Prop :=
  policy.maxAttempts.toNat + 1 = UInt32.size ∧ ∀ index < UInt32.size, policy.turn? own index ≠ none

theorem maxAttempts_lt (policy : RetryPolicy) : policy.maxAttempts.toNat < UInt32.size :=
  policy.maxAttempts.toNat_lt_size

/-- Nothing is left out of the first attempts just if each has a URL in its place. -/
theorem length_turns_eq_iff {count : Nat} :
    (policy.turns own count).length = count ↔ ∀ index < count, policy.turn? own index ≠ none := by
  have all := List.countP_eq_length (p := fun index => (policy.turn? own index).isSome)
    (l := List.range count)
  rw [List.length_range] at all
  rw [turns, List.length_filterMap_eq_countP, all]
  simp [Option.isSome_iff_ne_none]

theorem overflows_iff : policy.Overflows own ↔ (policy.rotation own).length = UInt32.size := by
  have le := policy.length_turns_le own (policy.maxAttempts.toNat + 1)
  have bound := policy.maxAttempts_lt
  rw [Overflows, rotation]
  constructor
  · rintro ⟨all, turns⟩
    rw [all]
    exact length_turns_eq_iff.mpr turns
  · intro full
    have all : policy.maxAttempts.toNat + 1 = UInt32.size := by omega
    rw [all] at full
    exact ⟨all, length_turns_eq_iff.mp full⟩

/-- If every endpoint is a URL, it is a matter of the retries that are allowed. -/
theorem Parses.overflows_iff (parses : policy.Parses) (own : Url) :
    policy.Overflows own ↔ policy.maxAttempts.toNat + 1 = UInt32.size := by
  refine ⟨And.left, fun all => ⟨all, fun index _ => ?_⟩⟩
  obtain ⟨url, turn⟩ := parses.exists_turn own index
  rw [turn]
  exact Option.some_ne_none url

/-- What leaves the range is counted as nothing. -/
theorem ofNat_eq_zero_of_overflows (h : policy.Overflows own) :
    UInt32.ofNat (policy.rotation own).length = 0 := by
  rw [overflows_iff.mp h]
  rfl

theorem toNat_ofNat_eq_iff :
    (UInt32.ofNat (policy.rotation own).length).toNat = (policy.rotation own).length ↔
      ¬ policy.Overflows own := by
  constructor
  · intro right overflows
    rw [ofNat_eq_zero_of_overflows overflows, overflows_iff.mp overflows] at right
    exact absurd right (by decide)
  · intro fits
    have le := policy.length_turns_le own (policy.maxAttempts.toNat + 1)
    have bound := policy.maxAttempts_lt
    rw [RetryPolicy.overflows_iff, rotation] at fits
    rw [rotation]
    exact UInt32.toNat_ofNat_of_lt' (by omega)

/-- When all attempts were made, one of them was answered last. -/
theorem Underway.exists_last {octets : Option Octets} {journal : Journal σ}
    (h : policy.Underway request octets (policy.maxAttempts.toNat + 1) journal) :
    ∃ outcome, journal.outcomes.getLast? = some outcome := by
  have sends := policy.length_turns_pos request.url policy.maxAttempts.toNat
  rw [← h.length_handed, ← h.length_answered] at sends
  have some : journal.outcomes ≠ [] := by
    rw [Journal.outcomes, Ne, List.map_eq_nil_iff]
    exact List.ne_nil_of_length_pos sends
  exact ⟨_, List.getLast?_eq_some_getLast some⟩

/-- A call that uses up its attempts has gone through its rotation, and reports how long that is, in 32
bits. -/
theorem Concludes.counts {past : List (Moment (Noted σ) Event)} {journal : Journal σ} {sent : UInt32}
    {status : Option Status} {source : Option ClientError}
    (h : policy.Concludes request past journal (.error (.retriesExhausted sent status source))) :
    journal.handed.length = (policy.rotation request.url).length ∧
      sent = .ofNat (policy.rotation request.url).length := by
  obtain ⟨⟨octets, under⟩, reported⟩ := h.of_exhausted
  have handed : journal.handed.length = (policy.rotation request.url).length := under.length_handed
  have length : journal.requests.length = journal.handed.length := List.length_map _
  obtain ⟨outcome, last⟩ := under.exists_last
  rw [last, Option.map_some, exhausted_of, length, handed] at reported
  exact ⟨handed, (ClientError.retriesExhausted.inj reported).1⟩

theorem le_of_mem_numbers {attempt : Nat} (h : attempt ∈ policy.numbers own) :
    attempt ≤ policy.maxAttempts.toNat :=
  Nat.le_of_lt_succ (List.mem_range.mp (List.mem_filter.mp h).1)

/-- The number of an attempt is one of 32 bits. -/
theorem toNat_ofNat_of_mem_numbers {attempt : Nat} (h : attempt ∈ policy.numbers own) :
    (UInt32.ofNat attempt).toNat = attempt :=
  UInt32.toNat_ofNat_of_lt' (Nat.lt_of_le_of_lt (le_of_mem_numbers h) policy.maxAttempts_lt)

/-- A retry is announced with the number of the attempt before it, counted from one, and that is one of 32
bits too. -/
theorem toNat_add_one_of_announced {attempt : Nat} {sent : World σ × Request}
    {known : World σ × ExchangeResult σ} {told : List (Moment σ Event)}
    (h : policy.Announced sink attempt sent known told) :
    (UInt32.ofNat attempt + 1).toNat = attempt + 1 := by
  have lt := notLast_of_announced h
  have bound := policy.maxAttempts_lt
  rw [← UInt32.ofNat_one, ← UInt32.ofNat_add]
  exact UInt32.toNat_ofNat_of_lt' (by omega)

/-- What a call counts, in every run. It sends no more requests than one for each retry that is allowed and
one more. The numbers of its attempts go up to that of the retries that are allowed, so they are of 32 bits,
and so are the numbers that retries are announced with. When it reports that its attempts are used up, all
places of its rotation were gone through, and the count of requests is the right one unless there are as many
of them as there are counts; then the call reports that it has sent none. It does report, or is over in
another way, if its exchanges end. -/
theorem counted_of_run (policy : RetryPolicy) (sink : Sink) (base : Executor σ) (request : Request) :
    (∀ (world after : World (Noted σ)) (moments : List (Moment (Noted σ) Event))
      (left : Task (Noted σ) Event (ExchangeResult (Noted σ))), world.journal = .empty →
      Task.Run World.Alongside (policy.retrying sink base.recording request) world moments left after →
      after.journal.handed.length ≤ policy.maxAttempts.toNat + 1 ∧
      (∀ place attempt sent known, policy.Made request.url after.journal place attempt sent known →
        attempt ≤ policy.maxAttempts.toNat ∧ (UInt32.ofNat attempt).toNat = attempt ∧
          (policy.Announced sink attempt sent known (interlude (place + 1) moments) →
            (UInt32.ofNat attempt + 1).toNat = attempt + 1)) ∧
      ∀ sent status source, left = .done (.error (.retriesExhausted sent status source)) →
        after.journal.handed.length = (policy.rotation request.url).length ∧
          (sent.toNat = after.journal.handed.length ↔ ¬ policy.Overflows request.url) ∧
          (policy.Overflows request.url →
            sent = 0 ∧ after.journal.handed.length = UInt32.size)) ∧
    ((∀ request world, (base request).Returns world) →
      ∀ world, (policy.retrying sink base request).Returns world) := by
  refine ⟨fun world after moments left fresh run => ?_, policy.returns_retrying sink request⟩
  have ensured := conforms_of_run fresh run
  refine ⟨?_, fun place attempt sent known made => ?_, ?_⟩
  · have le := ensured.now.length_le
    rw [numbers, length_sending] at le
    exact le.trans (policy.length_turns_le _ _)
  · have mem := List.mem_of_getElem? made.number
    exact ⟨le_of_mem_numbers mem, toNat_ofNat_of_mem_numbers mem, toNat_add_one_of_announced⟩
  · rintro sent status source rfl
    obtain ⟨handed, rfl⟩ := ensured.2.counts
    rw [handed]
    exact ⟨rfl, toNat_ofNat_eq_iff, fun overflows =>
      ⟨ofNat_eq_zero_of_overflows overflows, overflows_iff.mp overflows⟩⟩

/-- Two requests are counted right. -/
theorem counted_refused :
    let request := Request.toSite none ⟨0, none⟩
    let call := (constant 1 .zero).retrying .tracing (Transport.refusing ()).recording request
    (2 : UInt32).toNat =
      (call.course (Transport.quietWorld.noted .empty)).world.journal.handed.length := by
  intro request call
  have closed : (call.course (Transport.quietWorld.noted .empty)).outcome =
      .value (.error (.retriesExhausted 2 none (some (.connection "refused")))) := rfl
  have counted := (counted_of_run (constant 1 .zero) .tracing (Transport.refusing ()) request).1 _ _ _ _
    rfl (Task.run_moments World.alongside_allowsWaiting closed)
  exact (counted.2.2 2 none (some (.connection "refused")) rfl).2.1.mpr fun overflows =>
    absurd overflows.1 (by decide)

/-! ### A call that is not counted -/

/-- How a call is over whose context lives, if no outcome has ended it. -/
theorem Concludes.exhausted_of_failed {past : List (Moment (Noted σ) Event)} {journal : Journal σ}
    {result : ExchangeResult (Noted σ)} {octets : Option Octets}
    (h : policy.Concludes request past journal result) (readable : request.replayed = .ok octets)
    (live : ∀ ending, ¬ request.context.SeenEnded past ending)
    (failed : ∀ outcome ∈ journal.outcomes, policy.isTerminal outcome = false) :
    policy.Underway request octets (policy.maxAttempts.toNat + 1) journal ∧
      result = .error (Failure.exhausted (.ofNat journal.requests.length)
        (journal.outcomes.getLast?.map Failure.of)) := by
  cases h with
  | unreadable unread => cases readable.symm.trans unread
  | ended seen => exact absurd seen (live _)
  | terminal outcomes _ terminal =>
      have notTerminal := failed _ (outcomes ▸ List.mem_concat_self)
      cases terminal.symm.trans notTerminal
  | exhausted readable' under =>
      obtain rfl := Except.ok.inj (readable'.symm.trans readable)
      exact ⟨under, rfl⟩

/-- Nobody was there so far, and nobody has cancelled anything. -/
def Refused (world : World (Noted Unit)) : Prop :=
  world.tokens = Transport.quietWorld.tokens ∧
    ∀ outcome ∈ world.journal.outcomes, outcome = .error (.connection "refused")

theorem movesOn_refused : (Transport.refusing ()).recording.MovesOn (fun _ => True)
    fun world after => Refused world → Refused after := by
  refine fun _ _ => ⟨fun world refused => refused, fun _ =>
    ⟨fun world ⟨tokens, refused⟩ => ⟨tokens, ?_⟩, fun _ => ?_⟩⟩
  · intro outcome mem
    rw [World.journal_noted, Journal.outcomes_answer] at mem
    rcases List.mem_append.mp mem with before | new
    · exact refused outcome before
    · exact List.mem_singleton.mp new
  · exact ExchangeResult.Keeps.error _

section Refusing

variable {octets : Option Octets} (readable : request.replayed = .ok octets)
  (context : request.context = ⟨0, none⟩)

include readable context

/-- At a place where nobody is, a call goes through its whole rotation, however long that is. -/
theorem exhausted_refusing (policy : RetryPolicy) (sink : Sink) :
    let course := (policy.retrying sink (Transport.refusing ()).recording request).course
      (Transport.quietWorld.noted .empty)
    course.world.journal.handed.length = (policy.rotation request.url).length ∧
      course.outcome = .value (.error (.retriesExhausted (.ofNat (policy.rotation request.url).length)
        none (some (.connection "refused")))) := by
  intro course
  have answers : ∀ request world, ((Transport.refusing ()).recording request).Returns world :=
    fun _ _ => ⟨_, rfl⟩
  obtain ⟨result, returned⟩ :=
    policy.returns_retrying sink request answers (Transport.quietWorld.noted .empty)
  -- Alone a call lets only time pass, which takes nothing back.
  let rely : World (Noted Unit) → World (Noted Unit) → Prop := fun world later =>
    later.tokens = world.tokens ∧ later.journal = world.journal
  have waiting : Task.AllowsWaiting rely := ⟨fun _ => ⟨rfl, rfl⟩, fun _ _ _ => ⟨rfl, rfl⟩⟩
  have keeps := policy.movesOn_retrying sink (fun _ => id) (fun _ _ _ => id) movesOn_refused request
    trivial
  obtain ⟨each, -, refused⟩ := keeps.forall_of_run Refused (fun _ _ holds kept => kept holds)
    (fun world later holds (same : rely world later) =>
      ⟨same.1.trans holds.1, same.2 ▸ holds.2⟩)
    ⟨rfl, List.forall_mem_nil _⟩ (Task.run_moments waiting returned)
  have live : ∀ ending, ¬ request.context.SeenEnded
      ((policy.retrying sink (Transport.refusing ()).recording request).moments
        (Transport.quietWorld.noted .empty)) ending := by
    rintro ending ⟨moment, mem, ended⟩
    rw [context, Context.endedIn?, Context.ended?, (each moment mem).1] at ended
    cases ended
  have concludes := (conforms_of_run rfl (Task.run_moments World.alongside_allowsWaiting returned)).2
  obtain ⟨under, rfl⟩ := concludes.exhausted_of_failed readable live fun outcome mem => by
    rw [refused outcome mem]
    rfl
  have handed : course.world.journal.handed.length = (policy.rotation request.url).length :=
    under.length_handed
  have length : course.world.journal.requests.length = (policy.rotation request.url).length :=
    (List.length_map _).trans handed
  obtain ⟨outcome, last⟩ := under.exists_last
  obtain rfl := refused outcome (List.mem_of_getLast? last)
  refine ⟨handed, ?_⟩
  rw [returned, last, length]
  rfl

end Refusing

/-- A policy that allows as many retries as it can. -/
def tireless : RetryPolicy := .constant 4294967295 .zero

/-- At a place where nobody is, a call sends one request more than there are counts, and reports that it has
sent none. -/
theorem tireless_uncounted :
    let request := Request.toSite none ⟨0, none⟩
    let course := (tireless.retrying .tracing (Transport.refusing ()).recording request).course
      (Transport.quietWorld.noted .empty)
    course.world.journal.handed.length = 4294967296 ∧
      course.outcome = .value (.error (.retriesExhausted 0 none (some (.connection "refused")))) := by
  intro request course
  have parses : tireless.Parses := List.forall_mem_nil _
  have full : (tireless.rotation request.url).length = UInt32.size :=
    overflows_iff.mp ((parses.overflows_iff _).mpr (by decide))
  have readable : request.replayed = .ok none := rfl
  have exhausted := exhausted_refusing readable rfl tireless .tracing
  rwa [full] at exhausted

end RetryPolicy
end ResilientHttp

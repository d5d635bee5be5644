import ResilientHttp.Proofs.Retry.Logging
import ResilientHttp.Proofs.Retry.Targets

/-!
Retries that nothing comes of. Whether a retry is logged and waited for is decided by the number of the
attempt that failed, and whether another request is sent by the rest of the rotation. The two differ where
the rest of the rotation holds no URL.

* `Wastes` — a retry was logged or waited for, and no request followed.
* `notLast_of_announced`, `Follows.notLast_of_waited` — neither follows the last attempt that is allowed.
* `Underway.turn?_eq_none_iff` — when the last request is that of an earlier attempt.
* `Concludes.exists_final` — how a call is over that its context did not end.
* `retries_of_run` — just the calls waste a retry that use up their attempts and whose last attempt has no
  URL in its place; all others log one retry less than they send requests.
-/

namespace ResilientHttp

variable {σ : Type}

namespace RetryPolicy

/-- The retry after a failed attempt was logged. -/
def Announced (policy : RetryPolicy) (sink : Sink) (attempt : Nat) (sent : World σ × Request)
    (known : World σ × ExchangeResult σ) (told : List (Moment σ Event)) : Prop :=
  policy.retryLog sink attempt sent.2 known.2 ≠ [] ∧
    known.2.released ++ policy.retryLog sink attempt sent.2 known.2 <+: told.filterMap Moment.event

/-- A retry was wasted: after a failed attempt it was logged or waited for, and no request followed. -/
def Wastes (policy : RetryPolicy) (sink : Sink) (own : Url) (journal : Journal σ)
    (moments : List (Moment (Noted σ) Event)) : Prop :=
  ∃ place attempt sent known, policy.Made own journal place attempt sent known ∧
    policy.isTerminal known.2 = false ∧ journal.handed.length = place + 1 ∧
    (policy.Announced sink attempt sent known (interlude (place + 1) moments) ∨
      policy.Waited attempt known (interlude (place + 1) moments))

/-- What a call has told after one of its outcomes. -/
def toldAfter (moments : List (Moment (Noted σ) Event)) (place : Nat) : List Event :=
  (interlude (place + 1) moments).filterMap Moment.event

/-- How many records a call has written to its sink. -/
def records (sink : Sink) (journal : Journal σ) (moments : List (Moment (Noted σ) Event)) : Nat :=
  ((List.range journal.answered.length).flatMap (toldAfter moments)).countP sink.isRecord

section Place

variable {policy : RetryPolicy} {sink : Sink} {own : Url} {request : Request} {octets : Option Octets}
  {journal : Journal σ} {place attempt : Nat} {sent : World σ × Request}
  {known : World σ × ExchangeResult σ} {complete : Prop} {told : List (Moment σ Event)}
  {moments : List (Moment (Noted σ) Event)}

theorem notLast_of_announced (h : policy.Announced sink attempt sent known told) :
    attempt < policy.maxAttempts.toNat :=
  Nat.lt_of_not_le fun last => h.1 (if_neg fun goesOn => Nat.not_lt.mpr last goesOn.2)

/-- After the last attempt a call does not wait. -/
theorem Follows.notLast_of_waited (h : policy.Follows sink own place attempt sent known complete told)
    (waited : policy.Waited attempt known told) : attempt < policy.maxAttempts.toNat := by
  refine Nat.lt_of_not_le fun last => ?_
  obtain ⟨moment, mem, silent, -⟩ := waited
  obtain ⟨event, -, rfl⟩ := List.mem_map.mp ((h.last last).subset mem)
  cases silent

/-- How many records follow a failed attempt. -/
theorem Follows.countP_isRecord (h : policy.Follows sink own place attempt sent known True told)
    (discreet : ∀ event ∈ known.2.released, sink.isRecord event = false) :
    (told.filterMap Moment.event).countP sink.isRecord =
      (policy.retryLog sink attempt sent.2 known.2).length := by
  have released : known.2.released.countP sink.isRecord = 0 :=
    List.countP_eq_zero.mpr fun event mem => by simp [discreet event mem]
  have passing : (policy.skipped own (place + 1) (policy.maxAttempts.toNat + 1)).countP sink.isRecord =
      0 := by
    refine List.countP_eq_zero.mpr fun event mem => ?_
    obtain ⟨attempt, -, traced⟩ := List.mem_filterMap.mp mem
    split at traced
    · split at traced
      · cases traced
        simp
      · cases traced
    · cases traced
  have logged : (policy.retryLog sink attempt sent.2 known.2).countP sink.isRecord =
      (policy.retryLog sink attempt sent.2 known.2).length := by
    unfold retryLog
    split <;> simp
  rw [h.whole trivial, List.countP_append, List.countP_append, released, passing, logged, Nat.zero_add,
    Nat.add_zero]

theorem length_retryLog (logs : policy.logging = true) (next : Request) (outcome : ExchangeResult σ) :
    (policy.retryLog sink attempt next outcome).length =
      if attempt < policy.maxAttempts.toNat then 1 else 0 := by
  simp only [retryLog, logs, true_and]
  split <;> rfl

/-- When all attempts were made, the last request is that of the last attempt, unless that has no URL in its
place. -/
theorem Underway.turn?_eq_none_iff
    (under : policy.Underway request octets (policy.maxAttempts.toNat + 1) journal)
    (made : policy.Made request.url journal place attempt sent known)
    (last : journal.handed.length = place + 1) :
    policy.turn? request.url policy.maxAttempts.toNat = none ↔
      attempt < policy.maxAttempts.toNat := by
  obtain ⟨mem, turn⟩ := List.mem_filter.mp (List.mem_of_getElem? made.number)
  have le : attempt ≤ policy.maxAttempts.toNat := Nat.le_of_lt_succ (List.mem_range.mp mem)
  constructor
  · intro none
    refine Nat.lt_of_le_of_ne le fun same => ?_
    rw [same, none] at turn
    cases turn
  · intro lt
    cases turn : policy.turn? request.url policy.maxAttempts.toNat with
    | none => rfl
    | some url =>
        have all := under.length_handed
        rw [last, turns_succ, turn, List.length_append, Option.toList_some, List.length_singleton] at all
        have number := sending_getElem? turn (Nat.lt_succ_self _)
        rw [← Nat.succ.inj all] at number
        exact absurd (Option.some.inj (made.number.symm.trans number)) (Nat.ne_of_lt lt)

end Place

section Run

variable {policy : RetryPolicy} {sink : Sink} {base : Executor σ} {request : Request}
  {world after : World (Noted σ)} {moments : List (Moment (Noted σ) Event)}
  {result : ExchangeResult (Noted σ)}

/-- How a call is over that its context did not end, if it has sent something: the outcomes before the final
one have not ended it, and that one has, or the attempts are used up. -/
theorem Concludes.exists_final {journal : Journal σ}
    (h : policy.Concludes request moments journal result) (onSchedule : policy.OnSchedule request journal)
    (live : ∀ ending, ¬ request.context.SeenEnded moments ending) (sends : 0 < journal.handed.length) :
    ∃ final, journal.handed.length = final + 1 ∧ journal.answered.length = final + 1 ∧
      (∀ place < final, ∀ known, journal.answered[place]? = some known →
        policy.isTerminal known.2 = false) ∧
      ∀ known, journal.answered[final]? = some known →
        policy.isTerminal known.2 = true ∨
          policy.isTerminal known.2 = false ∧
            (∃ octets, policy.Underway request octets (policy.maxAttempts.toNat + 1) journal) ∧
              ∃ sent status source, result = .error (.retriesExhausted sent status source) := by
  cases h with
  | unreadable unread =>
      have none := onSchedule.requests
      rw [schedule, unread, List.prefix_nil, Journal.requests, List.map_eq_nil_iff] at none
      rw [none] at sends
      cases sends
  | ended seen => exact absurd seen (live _)
  | @terminal before last outcomes failed terminal paired =>
      have found : ∀ (place : Nat) known, journal.answered[place]? = some known →
          (before ++ [last])[place]? = some known.2 := by
        intro place known answered
        rw [← outcomes, Journal.outcomes, List.getElem?_map, answered]
        rfl
      have length : journal.answered.length = before.length + 1 := by
        simpa [Journal.outcomes] using congrArg List.length outcomes
      have same : journal.answered.length = journal.handed.length := by
        simpa [Journal.outcomes, Journal.requests] using paired
      refine ⟨before.length, same ▸ length, length, fun place lt known answered => ?_,
        fun known answered => .inl ?_⟩
      · have early := found place known answered
        rw [List.getElem?_append_left lt] at early
        exact failed _ (List.mem_of_getElem? early)
      · have late := found _ known answered
        rw [List.getElem?_concat_length] at late
        exact Option.some.inj late ▸ terminal
  | exhausted _ under =>
      have failed : ∀ (place : Nat) known, journal.answered[place]? = some known →
          policy.isTerminal known.2 = false :=
        fun place known answered => under.failed _ (List.mem_map_of_mem (List.mem_of_getElem? answered))
      obtain ⟨final, last⟩ := Nat.exists_eq_add_one_of_ne_zero (Nat.ne_of_gt sends)
      refine ⟨final, last, under.length_answered.trans last, fun place _ => failed place,
        fun known answered => .inr ⟨failed final known answered, ⟨_, under⟩, ?_⟩⟩
      cases journal.outcomes.getLast?.map Failure.of with
      | none => exact ⟨_, _, _, rfl⟩
      | some failure => cases failure <;> exact ⟨_, _, _, rfl⟩

section Over

variable {place attempt : Nat} {sent : World σ × Request} {known : World σ × ExchangeResult σ}
  (fresh : world.journal = .empty)
  (run : Task.Run World.Alongside (policy.retrying sink base.recording request) world moments
    (.done result) after)
  (live : ∀ ending, ¬ request.context.SeenEnded moments ending)

include fresh run live

/-- Whether a retry was wasted is told by the number of the attempt that the last request is of. -/
theorem wastes_iff_lt (made : policy.Made request.url after.journal place attempt sent known)
    (failed : policy.isTerminal known.2 = false) (last : after.journal.handed.length = place + 1) :
    policy.Wastes sink request.url after.journal moments ↔ attempt < policy.maxAttempts.toNat := by
  constructor
  · rintro ⟨place', attempt', sent', known', made', failed', last', goes⟩
    obtain rfl : place' = place := by omega
    obtain rfl : attempt' = attempt := Option.some.inj (made'.number.symm.trans made.number)
    rcases goes with announced | waited
    · exact notLast_of_announced announced
    · exact (follows_of_run fresh run live made' failed').notLast_of_waited waited
  · intro lt
    have waited := (follows_of_run fresh run live made failed).waited trivial lt
    exact ⟨place, attempt, sent, known, made, failed, last, .inr waited⟩

/-- Just the calls waste a retry that use up their attempts and have no URL in the place of the last one. -/
theorem wastes_iff_exhausted :
    policy.Wastes sink request.url after.journal moments ↔
      (∃ sent status source, result = .error (.retriesExhausted sent status source)) ∧
        policy.turn? request.url policy.maxAttempts.toNat = none := by
  have ensured := conforms_of_run fresh run
  constructor
  · intro wasted
    obtain ⟨place, attempt, sent, known, made, failed, last, -⟩ := id wasted
    have lt := (wastes_iff_lt fresh run live made failed last).mp wasted
    obtain ⟨final, handed, -, -, ends⟩ :=
      ensured.2.exists_final ensured.now live (last ▸ Nat.succ_pos place)
    obtain rfl : place = final := by omega
    rcases ends known made.answered with terminal | ⟨-, ⟨octets, under⟩, exhausted⟩
    · rw [failed] at terminal
      cases terminal
    · exact ⟨exhausted, (under.turn?_eq_none_iff made last).mpr lt⟩
  · rintro ⟨⟨count, status, source, rfl⟩, none⟩
    obtain ⟨octets, under⟩ := ensured.2.underway_of_exhausted
    have sends := policy.length_turns_pos request.url policy.maxAttempts.toNat
    rw [← under.length_handed] at sends
    obtain ⟨place, last⟩ := Nat.exists_eq_add_one_of_ne_zero (Nat.ne_of_gt sends)
    have inBounds : place < after.journal.answered.length := by
      rw [under.length_answered, last]
      exact Nat.lt_succ_self place
    obtain ⟨attempt, sent, made⟩ := exists_made_of_run fresh run (List.getElem?_eq_getElem inBounds)
    have lt := (under.turn?_eq_none_iff made last).mp none
    exact (wastes_iff_lt fresh run live made (under.failed _ made.mem) last).mpr lt

/-- After each failed attempt but the last one that is allowed a call writes one record. -/
theorem countP_toldAfter (made : policy.Made request.url after.journal place attempt sent known)
    (failed : policy.isTerminal known.2 = false) (logs : policy.logging = true)
    (discreet : ∀ event ∈ known.2.released, sink.isRecord event = false) :
    (toldAfter moments place).countP sink.isRecord =
      if attempt < policy.maxAttempts.toNat then 1 else 0 := by
  rw [toldAfter, (follows_of_run fresh run live made failed).countP_isRecord discreet,
    length_retryLog logs]

/-- A call writes a record for each of its requests, but not for the last one, unless it wastes a retry. -/
theorem records_of_run (logs : policy.logging = true) (sends : 0 < after.journal.handed.length)
    (discreet : ∀ known ∈ after.journal.answered, ∀ event ∈ known.2.released,
      sink.isRecord event = false) :
    (policy.Wastes sink request.url after.journal moments →
        records sink after.journal moments = after.journal.handed.length) ∧
      (¬ policy.Wastes sink request.url after.journal moments →
        records sink after.journal moments + 1 = after.journal.handed.length) := by
  have ensured := conforms_of_run fresh run
  obtain ⟨final, handed, answered, failed, ends⟩ := ensured.2.exists_final ensured.now live sends
  have made : ∀ place < final + 1, ∃ attempt sent known,
      policy.Made request.url after.journal place attempt sent known := by
    intro place lt
    obtain ⟨attempt, sent, made⟩ :=
      exists_made_of_run fresh run (List.getElem?_eq_getElem (answered ▸ lt))
    exact ⟨attempt, sent, _, made⟩
  -- An attempt that is followed by another request has failed, and was not the last one.
  have early : ∀ place ∈ List.range final, (toldAfter moments place).countP sink.isRecord = 1 := by
    intro place mem
    have lt : place < final := List.mem_range.mp mem
    obtain ⟨attempt, sent, known, here⟩ := made place (Nat.lt_succ_of_lt lt)
    obtain ⟨next, _, _, there⟩ := made (place + 1) (Nat.succ_lt_succ lt)
    have order := policy.numbers_lt request.url here.number there.number
    rw [countP_toldAfter fresh run live here (failed place lt known here.answered) logs
      (discreet known (List.mem_of_getElem? here.answered)), if_pos (by omega)]
  have all : records sink after.journal moments =
      final + (toldAfter moments final).countP sink.isRecord := by
    have each : (List.range final).map (List.countP sink.isRecord ∘ toldAfter moments) =
        List.replicate (List.range final).length 1 :=
      List.map_eq_replicate_iff.mpr early
    have ones : ((List.range final).flatMap (toldAfter moments)).countP sink.isRecord = final := by
      rw [List.countP_flatMap, each, List.sum_replicate_nat, List.length_range, Nat.mul_one]
    rw [records, answered, List.range_succ, List.flatMap_append, List.countP_append, ones]
    simp
  obtain ⟨attempt, sent, known, here⟩ := made final (Nat.lt_succ_self final)
  rw [all, handed]
  rcases ends known here.answered with terminal | ⟨failing, -⟩
  · have nothing := (recounts_of_run fresh run).now.terminal here terminal
    constructor
    · rintro ⟨place, _, _, other, there, failing, last, -⟩
      obtain rfl : place = final := by omega
      obtain rfl : other = known := Option.some.inj (there.answered.symm.trans here.answered)
      rw [terminal] at failing
      cases failing
    · intro
      simp [toldAfter, nothing]
  · have one := countP_toldAfter fresh run live here failing logs
      (discreet known (List.mem_of_getElem? here.answered))
    rw [wastes_iff_lt fresh run live here failing handed, one]
    constructor
    · intro lt
      rw [if_pos lt]
    · intro notLt
      rw [if_neg notLt]

/-- Which retries something comes of, in every run of a call to its end that its context has not brought
about. A retry is logged or waited for and no request follows in just the calls that use up their attempts
and have no URL in the place of the last attempt that the policy allows. If the policy logs, such a call
writes as many records as it sends requests, and any other call that sends something writes one less, as
long as the executor beneath writes none when an outcome is discarded. -/
theorem retries_of_run :
    (policy.Wastes sink request.url after.journal moments ↔
      (∃ sent status source, result = .error (.retriesExhausted sent status source)) ∧
        policy.turn? request.url policy.maxAttempts.toNat = none) ∧
    (policy.logging = true → 0 < after.journal.handed.length →
      (∀ known ∈ after.journal.answered, ∀ event ∈ known.2.released, sink.isRecord event = false) →
      (policy.Wastes sink request.url after.journal moments →
          records sink after.journal moments = after.journal.handed.length) ∧
        (¬ policy.Wastes sink request.url after.journal moments →
          records sink after.journal moments + 1 = after.journal.handed.length)) := by
  constructor
  · exact wastes_iff_exhausted fresh run live
  · intro logs sends discreet
    exact records_of_run fresh run live logs sends discreet

end Over
end Run

/-! ### A retry that is wasted -/

/-- A policy that allows one retry and has no URL for it. -/
def stranded : RetryPolicy := ((constant 1 (.ofMillis 100)).withFailover ["nowhere"]).withLogging true

/-- A call to a site that is overloaded. -/
def strandedCall : Task (Noted Site) Event (ExchangeResult (Noted Site)) :=
  stranded.retrying (.named "log") Site.recoveringExecutor.recording (.toSite none ⟨0, none⟩)

/-- The world in which the call is begun. -/
def strandedStart : World (Noted Site) := Site.recovering.world.noted .empty

theorem live_strandedCall : ∀ moment ∈ strandedCall.moments strandedStart,
    Context.endedIn? ⟨0, none⟩ moment.world = none := by
  decide +kernel

theorem outcome_strandedCall : (strandedCall.course strandedStart).outcome =
    .value (.error (.retriesExhausted 1 (some ⟨503⟩) none)) := rfl

theorem retries_strandedCall :
    stranded.Wastes (.named "log") (Request.toSite none ⟨0, none⟩).url
      (strandedCall.course strandedStart).world.journal (strandedCall.moments strandedStart) := by
  refine (retries_of_run rfl (Task.run_moments World.alongside_allowsWaiting outcome_strandedCall)
    ?_).1.mpr ⟨⟨1, some ⟨503⟩, none, rfl⟩, rfl⟩
  rintro ending ⟨moment, mem, ended⟩
  exact absurd (ended.symm.trans (live_strandedCall moment mem)) nofun

/-- One request is sent, one retry is logged and waited for, and then the call is over, though its context
goes on. -/
theorem strandedCall_wasted :
    (∀ moment ∈ strandedCall.moments strandedStart, Context.endedIn? ⟨0, none⟩ moment.world = none) ∧
      (strandedCall.course strandedStart).world.journal.handed.length = 1 ∧
      ((strandedCall.moments strandedStart).filterMap Moment.event).countP (Sink.named "log").isRecord =
        1 ∧
      (strandedCall.course strandedStart).finish = .ofMillis 105 ∧
      (strandedCall.course strandedStart).outcome =
        .value (.error (.retriesExhausted 1 (some ⟨503⟩) none)) := by
  refine ⟨live_strandedCall, ?_, ?_, ?_, outcome_strandedCall⟩ <;> decide +kernel

end RetryPolicy
end ResilientHttp

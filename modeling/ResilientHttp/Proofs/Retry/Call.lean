import ResilientHttp.Proofs.Retry.Rotation

/-!
A retrying call among others. The requests that a call hands over follow the schedule, each while the
context of the call had not ended (`OnSchedule`), and when the call is over it is over in one of four
ways (`Concludes`), whatever the executor beneath it and the others do.

* `conforms_attempt` — the step: an attempt conforms if the next one does, from wherever this one may
  lead. `Reached` is what holds between two attempts.
* `conforms_attempts`, `conforms_retrying` — the loop, and the whole call.
* `conforms_of_run` — the law of every run.
-/

namespace ResilientHttp.RetryPolicy

variable {σ : Type}

/-- What was handed over in a call so far: the first requests of the schedule, each at a moment at
which the context of the call had not ended. -/
structure OnSchedule (policy : RetryPolicy) (request : Request) (journal : Journal σ) : Prop where
  requests : journal.requests <+: policy.schedule request
  live : ∀ handed ∈ journal.handed, request.context.endedIn? handed.1 = none

/-- What a journal holds between two attempts: the requests of the attempts before, and as many
outcomes, none of which has ended the call. -/
structure Underway (policy : RetryPolicy) (request : Request) (octets : Option Octets) (count : Nat)
    (journal : Journal σ) : Prop where
  requests : journal.requests = policy.copies request octets count
  live : ∀ handed ∈ journal.handed, request.context.endedIn? handed.1 = none
  paired : journal.outcomes.length = journal.requests.length
  failed : ∀ outcome ∈ journal.outcomes, policy.isTerminal outcome = false

/-- Where a call stands before an attempt: the count of what was sent and the memory of the last
outcome tell what the journal holds. -/
structure Reached (policy : RetryPolicy) (request : Request) (octets : Option Octets) (count : Nat)
    (sent : UInt32) (last : Option Failure) (journal : Journal σ) : Prop
    extends Underway policy request octets count journal where
  counted : sent = .ofNat journal.requests.length
  remembered : last = journal.outcomes.getLast?.map Failure.of

/-- How a call can be over: its body could not be read, its context was seen to have ended, the last
outcome ended it, or the schedule was gone through to its end. -/
inductive Concludes (policy : RetryPolicy) (request : Request) (past : List (Moment (Noted σ) Event))
    (journal : Journal σ) : ExchangeResult (Noted σ) → Prop where
  | unreadable {fault : IoError} :
      request.replayed = .error fault →
      Concludes policy request past journal (.error (.requestBody fault))
  | ended {ending : ContextEnd} :
      request.context.SeenEnded past ending →
      Concludes policy request past journal (.error ending.error)
  | terminal {before : List (ExchangeResult σ)} {last : ExchangeResult σ} :
      journal.outcomes = before ++ [last] →
      (∀ outcome ∈ before, policy.isTerminal outcome = false) → policy.isTerminal last = true →
      journal.outcomes.length = journal.requests.length →
      Concludes policy request past journal (last.map Response.noted)
  | exhausted {octets : Option Octets} :
      request.replayed = .ok octets →
      Underway policy request octets (policy.maxAttempts.toNat + 1) journal →
      Concludes policy request past journal
        (.error (Failure.exhausted (.ofNat journal.requests.length)
          (journal.outcomes.getLast?.map Failure.of)))

/-- A part of a call keeps to the schedule and brings the call to one of its ends. -/
def Conforms (policy : RetryPolicy) (request : Request)
    (part : Task (Noted σ) Event (ExchangeResult (Noted σ))) (past : List (Moment (Noted σ) Event))
    (world : World (Noted σ)) : Prop :=
  part.Ensures World.Alongside (fun _ after => policy.OnSchedule request after.journal)
    (fun past result after => policy.Concludes request past after.journal result) past world

section Loop

variable {policy : RetryPolicy} {sink : Sink} {base : Executor σ} {request : Request}
  {octets : Option Octets} {journal : Journal σ}

theorem onSchedule_empty (policy : RetryPolicy) (request : Request) :
    policy.OnSchedule request (Journal.empty : Journal σ) :=
  ⟨List.nil_prefix, by simp [Journal.empty]⟩

theorem underway_empty (policy : RetryPolicy) (request : Request) (octets : Option Octets) :
    policy.Underway request octets 0 (Journal.empty : Journal σ) :=
  ⟨rfl, by simp [Journal.empty], rfl, by simp⟩

theorem Underway.onSchedule {count : Nat} (h : policy.Underway request octets count journal)
    (readable : request.replayed = .ok octets) (le : count ≤ policy.maxAttempts.toNat + 1) :
    policy.OnSchedule request journal := by
  refine ⟨?_, h.live⟩
  rw [h.requests, schedule, readable]
  exact isPrefix_copies le

/-- The targets of what was handed over are the first ones of the rotation. -/
theorem OnSchedule.urls (h : policy.OnSchedule request journal) :
    journal.requests.map Request.url <+: policy.rotation request.url := by
  have begins := h.requests.map Request.url
  unfold schedule at begins
  cases hreplayed : request.replayed with
  | error fault =>
      rw [hreplayed] at begins
      rw [List.prefix_nil.mp begins]
      exact List.nil_prefix
  | ok octets =>
      rw [hreplayed, urls_copies] at begins
      exact begins

/-- When all attempts were made, the whole rotation was gone through. -/
theorem Underway.urls (h : policy.Underway request octets (policy.maxAttempts.toNat + 1) journal) :
    journal.requests.map Request.url = policy.rotation request.url := by
  rw [h.requests, urls_copies, rotation]

/-- An attempt whose place in the rotation is empty passes. -/
theorem Underway.skip {count : Nat} (h : policy.Underway request octets count journal)
    (empty : policy.turn? request.url count = none) :
    policy.Underway request octets (count + 1) journal :=
  { h with requests := by rw [h.requests, copies_succ, empty]; simp }

/-- The request of an attempt is the next one of the schedule. -/
theorem Underway.hand {count : Nat} {world : World σ} {url : Url}
    (h : policy.Underway request octets count journal)
    (turn : policy.turn? request.url count = some url)
    (live : request.context.endedIn? world = none) :
    (journal.hand world (request.rebind url octets)).requests =
        policy.copies request octets (count + 1) ∧
      ∀ handed ∈ (journal.hand world (request.rebind url octets)).handed,
        request.context.endedIn? handed.1 = none := by
  refine ⟨by rw [Journal.requests_hand, h.requests, copies_succ, turn]; rfl, fun handed mem => ?_⟩
  rcases List.mem_append.mp mem with old | new
  · exact h.live handed old
  · rwa [List.mem_singleton.mp new]

/-- While an attempt is made, the journal stays on the schedule. -/
theorem Underway.onSchedule_of_exchanged {count : Nat} {after : Journal σ} {url : Url}
    (h : policy.Underway request octets count journal) (readable : request.replayed = .ok octets)
    (lt : count < policy.maxAttempts.toNat + 1) (turn : policy.turn? request.url count = some url)
    (exchanged : Journal.Exchanged request.context (request.rebind url octets) journal after) :
    policy.OnSchedule request after := by
  have next : policy.copies request octets (count + 1) <+: policy.schedule request := by
    rw [schedule, readable]
    exact isPrefix_copies lt
  cases exchanged with
  | idle => exact h.onSchedule readable (Nat.le_of_lt lt)
  | handed live =>
      obtain ⟨requests, allLive⟩ := h.hand turn live
      exact ⟨requests ▸ next, allLive⟩
  | answered live =>
      obtain ⟨requests, allLive⟩ := h.hand turn live
      exact ⟨by rwa [Journal.requests_answer, requests], allLive⟩

/-- After an attempt that has not ended the call, the next one can begin. -/
theorem Underway.fail {count : Nat} {handed after : World σ} {outcome : ExchangeResult σ} {url : Url}
    (h : policy.Underway request octets count journal)
    (turn : policy.turn? request.url count = some url)
    (live : request.context.endedIn? handed = none) (failed : policy.isTerminal outcome = false) :
    policy.Underway request octets (count + 1)
      ((journal.hand handed (request.rebind url octets)).answer after outcome) := by
  obtain ⟨requests, allLive⟩ := h.hand turn live
  refine ⟨requests, allLive, by simp [h.paired], fun other mem => ?_⟩
  rw [Journal.outcomes_answer, Journal.outcomes_hand] at mem
  rcases List.mem_append.mp mem with old | new
  · exact h.failed other old
  · rwa [List.mem_singleton.mp new]

theorem reached_empty (policy : RetryPolicy) (request : Request) (octets : Option Octets) :
    policy.Reached request octets 0 0 none (Journal.empty : Journal σ) :=
  ⟨underway_empty policy request octets, rfl, rfl⟩

theorem Reached.skip {count : Nat} {sent : UInt32} {last : Option Failure}
    (h : policy.Reached request octets count sent last journal)
    (empty : policy.turn? request.url count = none) :
    policy.Reached request octets (count + 1) sent last journal :=
  ⟨h.toUnderway.skip empty, h.counted, h.remembered⟩

theorem Reached.fail {count : Nat} {sent : UInt32} {last : Option Failure} {handed after : World σ}
    {outcome : ExchangeResult σ} {url : Url}
    (h : policy.Reached request octets count sent last journal)
    (turn : policy.turn? request.url count = some url)
    (live : request.context.endedIn? handed = none) (failed : policy.isTerminal outcome = false) :
    policy.Reached request octets (count + 1) (sent + 1) (some (Failure.of outcome))
      ((journal.hand handed (request.rebind url octets)).answer after outcome) :=
  ⟨h.toUnderway.fail turn live failed, by simp [h.counted], by simp⟩

/-! ### The loop -/

theorem ensures_logRetry {rely : World σ → World σ → Prop}
    {always : List (Moment σ Event) → World σ → Prop}
    {post : List (Moment σ Event) → Unit → World σ → Prop} {past : List (Moment σ Event)}
    {world : World σ} {record : LogRecord} (steady : ∀ past, always past world)
    (h : ∀ past, post past () world) :
    (policy.logRetry sink record).Ensures rely always post past world := by
  unfold logRetry
  split
  · exact ⟨steady _, steady _, h _⟩
  · exact ⟨steady _, h _⟩

section Steps

variable {always : List (Moment (Noted σ) Event) → World (Noted σ) → Prop}
  {past : List (Moment (Noted σ) Event)} {world : World (Noted σ)}
  (steady : ∀ past after, after.journal = world.journal → always past after)

include steady

/-- An outcome is discarded without a word to the executor. -/
theorem ensures_discard {post : List (Moment (Noted σ) Event) → Unit → World (Noted σ) → Prop}
    (outcome : ExchangeResult σ)
    (h : ∀ past after, after.journal = world.journal → post past () after) :
    (ExchangeResult.discard (outcome.map Response.noted)).Ensures World.Alongside always post past
      world := by
  cases outcome with
  | error error => exact ⟨steady _ _ rfl, h _ _ rfl⟩
  | ok response =>
      exact Task.ensures_release (steady _ _ rfl) (fun _ => steady _ _ rfl) fun _ => h _ _ rfl

/-- The next attempt follows a failed one after a pause, or after none if it is not the next to be
made; the executor is not asked for anything meanwhile. -/
theorem ensures_afterFailure
    {post : List (Moment (Noted σ) Event) → ExchangeResult (Noted σ) → World (Noted σ) → Prop}
    {left attempt : Nat} {url : Url} {failure : Failure}
    {again : Task (Noted σ) Event (ExchangeResult (Noted σ))}
    (ended : ∀ past ending after, after.journal = world.journal →
      request.context.SeenEnded past ending → post past (.error ending.error) after)
    (h : ∀ past after, after.journal = world.journal →
      again.Ensures World.Alongside always post past after) :
    (policy.afterFailure sink (request.withBody none) left attempt url failure again).Ensures
      World.Alongside always post past world := by
  cases left with
  | zero =>
      rw [afterFailure_zero]
      exact h past world rfl
  | succ left =>
      have still : (Task.sleep .none (policy.delayAfter attempt) : Task (Noted σ) Event Unit).Keeps
          World.SameJournal fun _ => True :=
        Task.keeps_sleep (Cleanup.keeps_none World.sameJournal_refl) _
      rw [afterFailure_succ, pause]
      refine .proceed (.bind (ensures_logRetry (fun past => steady past world rfl) fun past => ?_))
      exact Context.ensures_run_quiet still steady ended fun past _ after same _ => h past after same

end Steps

section Attempts

variable {left attempt : Nat} {sent : UInt32} {last : Option Failure}
  {past : List (Moment (Noted σ) Event)} {world : World (Noted σ)}
  (readable : request.replayed = .ok octets) (lt : attempt < policy.maxAttempts.toNat + 1)
  (reached : policy.Reached request octets attempt sent last journal)

include readable lt reached

/-- What follows an exchange conforms if the next attempt does. -/
theorem conforms_settle {handed answered : World σ} {outcome : ExchangeResult σ} {url : Url}
    {again : Failure → Task (Noted σ) Event (ExchangeResult (Noted σ))}
    (turn : policy.turn? request.url attempt = some url)
    (live : request.context.endedIn? handed = none)
    (same : world.journal =
      (journal.hand handed (request.rebind url octets)).answer answered outcome)
    (next : ∀ failure past after,
      policy.Reached request octets (attempt + 1) (sent + 1) (some failure) after.journal →
      policy.Conforms request (again failure) past after) :
    policy.Conforms request
      (policy.settle sink (request.withBody none) left attempt url again
        (outcome.map Response.noted)) past world := by
  cases terminal : policy.isTerminal outcome with
  | true =>
      have onSchedule : policy.OnSchedule request world.journal := by
        rw [same]
        exact reached.onSchedule_of_exchanged readable lt turn (.answered live)
      have outcomes : world.journal.outcomes = journal.outcomes ++ [outcome] := by simp [same]
      have paired : world.journal.outcomes.length = world.journal.requests.length := by
        simp [same, reached.paired]
      rw [settle_of_isTerminal (by simpa using terminal)]
      exact ⟨onSchedule, .terminal outcomes reached.failed terminal paired⟩
  | false =>
      have failed : policy.Reached request octets (attempt + 1) (sent + 1)
          (some (Failure.of outcome)) world.journal := by
        rw [same]
        exact reached.fail turn live terminal
      -- From here to the next attempt the journal stays as it is.
      have steady : ∀ after : World (Noted σ), after.journal = world.journal →
          policy.OnSchedule request after.journal := by
        intro after kept
        rw [kept]
        exact failed.onSchedule readable lt
      rw [settle_of_not_isTerminal (by simpa using terminal), Failure.of_map_noted]
      refine .bind (ensures_discard (fun _ => steady) outcome fun past later kept => ?_)
      refine ensures_afterFailure (fun _ after kept' => steady after (kept'.trans kept))
        (fun _ _ _ _ seen => .ended seen) ?_
      intro past after kept'
      refine next _ past after ?_
      rwa [kept'.trans kept]

/-- One attempt conforms if the next one does, wherever this one may lead. -/
theorem conforms_attempt (here : world.journal = journal)
    (next : ∀ sent last past (after : World (Noted σ)),
      policy.Reached request octets (attempt + 1) sent last after.journal →
      policy.Conforms request
        (policy.attempts sink base.recording (request.withBody none) octets left (attempt + 1) sent
          last) past after) :
    policy.Conforms request
      (policy.attempts sink base.recording (request.withBody none) octets (left + 1) attempt sent last)
      past world := by
  subst here
  have now := reached.onSchedule readable (Nat.le_of_lt lt)
  rw [attempts_succ]
  refine .proceed (Context.ensures_check (fun _ => now) (fun _ _ seen => Concludes.ended seen) ?_)
  intro past
  dsimp only
  cases htarget : policy.target (request.withBody none).url (policy.slot attempt) with
  | error cause =>
      have empty : policy.turn? request.url attempt = none := by
        rw [← toOption_target]
        exact congrArg Except.toOption htarget
      exact ⟨now, next _ _ _ world (reached.skip empty)⟩
  | ok url =>
      have turn : policy.turn? request.url attempt = some url := by
        rw [← toOption_target]
        exact congrArg Except.toOption htarget
      have steady : ∀ after, Journal.Exchanged request.context (request.rebind url octets)
          world.journal after → policy.OnSchedule request after :=
        fun _ => reached.onSchedule_of_exchanged readable lt turn
      refine .proceed (Context.ensures_run_recording base (fun _ after => steady after.journal)
        (fun _ _ _ _ seen => Concludes.ended seen) ?_ rfl)
      intro past handed answered outcome after live same
      exact conforms_settle readable lt reached turn live same fun _ => next _ _

end Attempts

/-- The attempts of a call, from the middle on. -/
theorem conforms_attempts {left attempt : Nat} {sent : UInt32} {last : Option Failure}
    {past : List (Moment (Noted σ) Event)} {world : World (Noted σ)}
    (readable : request.replayed = .ok octets)
    (total : attempt + left = policy.maxAttempts.toNat + 1)
    (reached : policy.Reached request octets attempt sent last world.journal) :
    policy.Conforms request
      (policy.attempts sink base.recording (request.withBody none) octets left attempt sent last)
      past world := by
  induction left generalizing attempt sent last past world with
  | zero =>
      obtain ⟨underway, rfl, rfl⟩ := reached
      obtain rfl : attempt = policy.maxAttempts.toNat + 1 := total
      rw [attempts_zero]
      exact ⟨underway.onSchedule readable (Nat.le_refl _), .exhausted readable underway⟩
  | succ left ih =>
      refine conforms_attempt readable (by omega) reached rfl ?_
      intro sent last past after reached
      exact ih (by omega) reached

/-- A whole call conforms if nothing was handed over before. -/
theorem conforms_retrying {past : List (Moment (Noted σ) Event)} {world : World (Noted σ)}
    (fresh : world.journal = .empty) :
    policy.Conforms request (policy.retrying sink base.recording request) past world := by
  have start : ∀ (octets : Option Octets) (past : List (Moment (Noted σ) Event))
      (after : World (Noted σ)), request.replayed = .ok octets → after.journal = .empty →
      policy.Conforms request
        (policy.attempts sink base.recording (request.withBody none) octets
          (policy.maxAttempts.toNat + 1) 0 0 none) past after := by
    intro octets past after readable empty
    refine conforms_attempts readable (Nat.zero_add _) ?_
    rw [empty]
    exact reached_empty policy request octets
  cases hbody : request.body with
  | none =>
      rw [retrying_of_none hbody]
      exact start none past world (by rw [Request.replayed, hbody]) fresh
  | some body =>
      have steady : ∀ (past : List (Moment (Noted σ) Event)) (after : World (Noted σ)),
          after.journal = world.journal → policy.OnSchedule request after.journal := by
        intro _ after same
        rw [same, fresh]
        exact onSchedule_empty policy request
      have reads : (body.collect .none : Task (Noted σ) Event ChunkResult).Keeps World.SameJournal
          fun result => result = body.content :=
        Body.keeps_collect (Cleanup.keeps_none World.sameJournal_refl) body
      rw [retrying_of_some hbody]
      refine .proceed (Context.ensures_run_quiet reads steady
        (fun _ _ _ _ seen => Concludes.ended seen) ?_)
      intro past result after same content
      have replayed : request.replayed = result.map some := by
        rw [Request.replayed, hbody, content]
      cases result with
      | error fault => exact ⟨steady past after same, .unreadable replayed⟩
      | ok octets => exact start (some octets) past after replayed (same.trans fresh)

/-- What holds in every run of a call: what is left of it conforms. -/
theorem conforms_of_run {world after : World (Noted σ)} {moments : List (Moment (Noted σ) Event)}
    {left : Task (Noted σ) Event (ExchangeResult (Noted σ))} (fresh : world.journal = .empty)
    (run : Task.Run World.Alongside (policy.retrying sink base.recording request) world moments left
      after) :
    policy.Conforms request left moments after :=
  Task.Ensures.of_run (conforms_retrying fresh : policy.Conforms request _ [] world) run

end Loop
end ResilientHttp.RetryPolicy

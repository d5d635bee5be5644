import ResilientHttp.Proofs.Recording
import ResilientHttp.Proofs.Retry.Call
import ResilientHttp.Proofs.Site

/-!
What a call comes to while its context lives. Such a call ends in one of two ways (`Verdict`): with
the first outcome that is terminal, unchanged, and without a request after it; or, once the rotation
was gone through and no outcome was terminal, with an error that counts the requests and tells the
last outcome. `retrying_verdict` says so of every run among others, and that a call that is alone does
end whenever its exchanges do.
-/

namespace ResilientHttp

variable {σ ε : Type}

/-- The status of an outcome, if it is a response. -/
def ExchangeResult.status? : ExchangeResult σ → Option Status
  | .ok response => some response.status
  | .error _ => none

/-- The error of an outcome, if it is one. -/
def ExchangeResult.error? : ExchangeResult σ → Option ClientError
  | .ok _ => none
  | .error error => some error

theorem exhausted_of (sent : UInt32) (last : ExchangeResult σ) :
    Failure.exhausted sent (some (Failure.of last)) =
      .retriesExhausted sent last.status? last.error? := by
  cases last <;> rfl

/-- Of its journal a response takes nothing. -/
theorem Response.noted_inj {first second : Response σ ε} (h : first.noted = second.noted) :
    first = second := by
  obtain ⟨status, headers, url, body, ⟨effect, events⟩⟩ := first
  obtain ⟨status', headers', url', body', ⟨effect', events'⟩⟩ := second
  simp only [Response.noted, Cleanup.noted, Response.mk.injEq, Cleanup.mk.injEq] at h ⊢
  obtain ⟨rfl, rfl, rfl, rfl, sameEffect, rfl⟩ := h
  refine ⟨rfl, rfl, rfl, rfl, funext fun world => ?_, rfl⟩
  exact congrArg World.plain (congrFun sameEffect (world.noted .empty))

theorem ExchangeResult.map_noted_inj {first second : ExchangeResult σ}
    (h : first.map Response.noted = second.map Response.noted) : first = second := by
  cases first with
  | error error =>
      cases second with
      | error error' => simpa [Except.map] using h
      | ok response => cases h
  | ok response =>
      cases second with
      | error error => cases h
      | ok response' => exact congrArg Except.ok (Response.noted_inj (Except.ok.inj h))

/-- An outcome can be discarded at once. -/
theorem ExchangeResult.returns_discard (outcome : ExchangeResult σ) (world : World σ) :
    outcome.discard.Returns world := by
  cases outcome with
  | error error => exact Task.returns_done () world
  | ok response => exact Task.returns_release response.held world

namespace RetryPolicy

/-- What a call comes to that its context did not end. -/
inductive Verdict (policy : RetryPolicy) (request : Request) (journal : Journal σ) :
    ExchangeResult σ → Prop where
  | terminal {before : List (ExchangeResult σ)} {last : ExchangeResult σ} :
      journal.outcomes = before ++ [last] →
      (∀ outcome ∈ before, policy.isTerminal outcome = false) → policy.isTerminal last = true →
      journal.requests.length = journal.outcomes.length →
      journal.requests.map Request.url <+: policy.rotation request.url →
      Verdict policy request journal last
  | exhausted {before : List (ExchangeResult σ)} {last : ExchangeResult σ} {sent : UInt32} :
      journal.outcomes = before ++ [last] →
      (∀ outcome ∈ journal.outcomes, policy.isTerminal outcome = false) →
      journal.requests.length = journal.outcomes.length →
      journal.requests.map Request.url = policy.rotation request.url →
      sent.toNat = journal.requests.length → 0 < sent.toNat →
      sent.toNat ≤ policy.maxAttempts.toNat + 1 →
      Verdict policy request journal (.error (.retriesExhausted sent last.status? last.error?))

section Verdict

variable {policy : RetryPolicy} {request : Request} {journal : Journal σ}

/-- A call is never said to have failed without an attempt. -/
theorem Verdict.ne_untried {result : ExchangeResult σ}
    (h : policy.Verdict request journal result) (sent : UInt32) :
    result ≠ .error (.retriesExhausted sent none none) := by
  rintro rfl
  generalize hresult : (Except.error (.retriesExhausted sent none none) : ExchangeResult σ) = result
    at h
  cases h with
  | terminal _ _ terminal =>
      subst hresult
      cases terminal
  | exhausted =>
      rename_i before last _ _ _ _ _ _ _ _
      cases last <;> cases hresult

/-- A schedule that was gone through gives a verdict. -/
theorem Underway.verdict {octets : Option Octets} (counts : policy.maxAttempts.toNat < UInt32.size - 1)
    (h : policy.Underway request octets (policy.maxAttempts.toNat + 1) journal) :
    policy.Verdict request journal
      (.error (Failure.exhausted (.ofNat journal.requests.length)
        (journal.outcomes.getLast?.map Failure.of))) := by
  have length : journal.requests.length =
      (policy.turns request.url (policy.maxAttempts.toNat + 1)).length := by
    rw [h.requests, copies, List.length_map]
  have pos := policy.length_turns_pos request.url policy.maxAttempts.toNat
  have le := policy.length_turns_le request.url (policy.maxAttempts.toNat + 1)
  have count : (UInt32.ofNat journal.requests.length).toNat = journal.requests.length :=
    UInt32.toNat_ofNat_of_lt' (by omega)
  rcases List.eq_nil_or_concat journal.outcomes with none | ⟨before, last, outcomes⟩
  · have := h.paired
    rw [none, List.length_nil] at this
    omega
  · rw [List.concat_eq_append] at outcomes
    rw [outcomes, List.getLast?_concat, Option.map_some, exhausted_of]
    exact .exhausted outcomes h.failed h.paired.symm h.urls count (by omega) (by omega)

end Verdict

section Calls

variable {policy : RetryPolicy} {sink : Sink} {base : Executor σ} {request : Request}
  {octets : Option Octets}

/-- How a call can be over, without its journal beside the result. -/
theorem Concludes.verdict {past : List (Moment (Noted σ) Event)} {journal : Journal σ}
    {result : ExchangeResult (Noted σ)} (h : policy.Concludes request past journal result)
    (onSchedule : policy.OnSchedule request journal)
    (counts : policy.maxAttempts.toNat < UInt32.size - 1) (readable : request.replayed = .ok octets)
    (live : ∀ moment ∈ past, request.context.endedIn? moment.world = none) :
    ∃ plain : ExchangeResult σ,
      result = plain.map Response.noted ∧ policy.Verdict request journal plain := by
  cases h with
  | unreadable unread =>
      rw [unread] at readable
      cases readable
  | ended seen =>
      obtain ⟨moment, mem, ended⟩ := seen
      rw [live moment mem] at ended
      cases ended
  | terminal outcomes failed terminal paired =>
      exact ⟨_, rfl, .terminal outcomes failed terminal paired.symm onSchedule.urls⟩
  | exhausted _ underway => exact ⟨.error _, rfl, underway.verdict counts⟩

/-- Every run of a call that is over and in which the context of the call was never seen to have
ended gives a verdict. -/
theorem verdict_of_run {world after : World (Noted σ)} {moments : List (Moment (Noted σ) Event)}
    {result : ExchangeResult (Noted σ)} (counts : policy.maxAttempts.toNat < UInt32.size - 1)
    (readable : request.replayed = .ok octets) (fresh : world.journal = .empty)
    (run : Task.Run World.Alongside (policy.retrying sink base.recording request) world moments
      (.done result) after)
    (live : ∀ moment ∈ moments, request.context.endedIn? moment.world = none) :
    ∃ plain : ExchangeResult σ,
      result = plain.map Response.noted ∧ policy.Verdict request after.journal plain := by
  obtain ⟨onSchedule, concludes⟩ := conforms_of_run fresh run
  exact concludes.verdict onSchedule counts readable live

/-! ### Calls end -/

theorem returns_afterFailure {left attempt : Nat} {url : Url} {failure : Failure}
    {again : Task σ Event (ExchangeResult σ)} (h : ∀ world, again.Returns world) (world : World σ) :
    (policy.afterFailure sink request left attempt url failure again).Returns world := by
  cases left with
  | zero =>
      rw [afterFailure_zero]
      exact h world
  | succ left =>
      have logs : ∀ record, (policy.logRetry sink record : Task σ Event Unit).Returns world := by
        intro record
        unfold logRetry
        split <;> exact ⟨(), rfl⟩
      rw [afterFailure_succ]
      refine .proceed ((logs _).bind fun _ after => ?_) fun _ after => h after
      exact request.context.returns_run .none (Task.returns_sleep .none _ after)

theorem returns_attempts (answers : ∀ request world, (base request).Returns world)
    (left attempt : Nat) (sent : UInt32) (last : Option Failure) (world : World σ) :
    (policy.attempts sink base request octets left attempt sent last).Returns world := by
  induction left generalizing attempt sent last world with
  | zero =>
      rw [attempts_zero]
      exact Task.returns_done _ world
  | succ left ih =>
      rw [attempts_succ]
      refine (request.context.returns_check world).proceed ?_
      intro _ after
      cases policy.target request.url (policy.slot attempt) with
      | error cause => exact ih _ _ _ after
      | ok url =>
          refine .proceed (request.context.returns_run .none (answers _ after)) ?_
          intro outcome after
          cases terminal : policy.isTerminal outcome with
          | true =>
              rw [settle_of_isTerminal terminal]
              exact Task.returns_done _ after
          | false =>
              rw [settle_of_not_isTerminal terminal]
              refine (ExchangeResult.returns_discard outcome after).bind ?_
              intro _ later
              exact returns_afterFailure (fun world => ih _ _ _ world) later

/-- A call ends if every exchange does. -/
theorem returns_retrying (policy : RetryPolicy) (sink : Sink) (request : Request)
    (answers : ∀ request world, (base request).Returns world) (world : World σ) :
    (policy.retrying sink base request).Returns world := by
  cases hbody : request.body with
  | none =>
      rw [retrying_of_none hbody]
      exact returns_attempts answers _ 0 0 none world
  | some body =>
      rw [retrying_of_some hbody]
      refine .proceed (request.context.returns_run .none (body.returns_collect .none world)) ?_
      intro result after
      cases result with
      | error fault => exact Task.returns_done _ after
      | ok octets => exact returns_attempts answers _ 0 0 none after

/-- A call that is alone and over exchanges that end, whose body can be read and whose context lives,
ends with a verdict on what its executor was handed and gave. -/
theorem exists_verdict {world : World σ} (counts : policy.maxAttempts.toNat < UInt32.size - 1)
    (readable : request.replayed = .ok octets)
    (answers : ∀ request world, (base request).Returns world)
    (live : ∀ moment ∈ (policy.retrying sink base request).moments world,
      request.context.endedIn? moment.world = none) :
    ∃ result,
      ((policy.retrying sink base request).course world).outcome = .value result ∧
      policy.Verdict request
        ((policy.retrying sink base.recording request).course (world.noted .empty)).world.journal
        result := by
  obtain ⟨result, returned⟩ := policy.returns_retrying sink request answers world
  have recorded := policy.recorded_retrying sink base request
  have same := recorded.course (world.noted .empty)
  rw [World.plain_noted] at same
  have outcome := congrArg Course.outcome same
  simp only [Course.plain, Course.map] at outcome
  rw [returned, Outcome.map] at outcome
  -- The recorded call ends as the call itself does, so its course is a run with a verdict.
  have run := Task.run_moments World.alongside_allowsWaiting outcome
  obtain ⟨plain, mapped, verdict⟩ := verdict_of_run counts readable rfl run
    (recorded.forall_moments (request.context.endedIn? · = none) (world.noted .empty) live)
  obtain rfl := ExchangeResult.map_noted_inj mapped
  exact ⟨result, returned, verdict⟩

/-- What a call comes to whose body can be read and whose context lives. In every run among others
that is over, it is the verdict on what the executor was handed and gave; it never says that nothing
was tried. A call that is alone does end, if its exchanges do. -/
theorem retrying_verdict (counts : policy.maxAttempts.toNat < UInt32.size - 1)
    (readable : request.replayed = .ok octets) :
    (∀ (world after : World (Noted σ)) (moments : List (Moment (Noted σ) Event))
      (result : ExchangeResult (Noted σ)), world.journal = .empty →
      Task.Run World.Alongside (policy.retrying sink base.recording request) world moments
        (.done result) after →
      (∀ moment ∈ moments, request.context.endedIn? moment.world = none) →
      ∃ plain : ExchangeResult σ, result = plain.map Response.noted ∧
        policy.Verdict request after.journal plain ∧
        ∀ sent, plain ≠ .error (.retriesExhausted sent none none)) ∧
    ((∀ request world, (base request).Returns world) → ∀ world : World σ,
      (∀ moment ∈ (policy.retrying sink base request).moments world,
        request.context.endedIn? moment.world = none) →
      ∃ result,
        ((policy.retrying sink base request).course world).outcome = .value result ∧
        policy.Verdict request
          ((policy.retrying sink base.recording request).course (world.noted .empty)).world.journal
          result ∧
        ∀ sent, result ≠ .error (.retriesExhausted sent none none)) := by
  constructor
  · intro world after moments result fresh run live
    obtain ⟨plain, mapped, verdict⟩ := verdict_of_run counts readable fresh run live
    exact ⟨plain, mapped, verdict, verdict.ne_untried⟩
  · intro answers world live
    obtain ⟨result, returned, verdict⟩ := exists_verdict counts readable answers live
    exact ⟨result, returned, verdict, verdict.ne_untried⟩

/-- The verdict on a call to a site that is overloaded once. -/
theorem verdict_recovering :
    ∃ result,
      ((default.retrying .tracing Site.recoveringExecutor
        (.toSite none ⟨0, none⟩)).course Site.recoveringWorld).outcome = .value result ∧
      default.Verdict (.toSite none ⟨0, none⟩)
        ((default.retrying .tracing Site.recoveringExecutor.recording
          (.toSite none ⟨0, none⟩)).course (Site.recoveringWorld.noted .empty)).world.journal
        result ∧
      ∀ sent, result ≠ .error (.retriesExhausted sent none none) :=
  (retrying_verdict (by decide) rfl).2 (Script.returns_executor "site" (Site.script "site"))
    Site.recoveringWorld (by decide)

end Calls
end RetryPolicy
end ResilientHttp

import ResilientHttp.Proofs.Retry.Outcome
import ResilientHttp.Proofs.Retry.Stack
import ResilientHttp.Proofs.Retry.Targets
import ResilientHttp.Proofs.Retry.Undisguised

/-!
What an error says of the errors behind it. A call whose last request failed with an error ends with one
that keeps it, and that may keep another one in turn.

* `isTimeout_of_mem_causes`, `message_of_mem_causes` — a timeout stays a timeout through all layers, and a
  text ends with that of every error behind it.
* `status?_eq_none_iff` — which errors tell a status. Keeping an error is not among the ways to do so.
* `classified_of_run` — what follows for calls: all that an error says of itself is said by the one that
  keeps it, except for its status, which is lost with the first layer.
-/

namespace ResilientHttp

namespace ClientError

variable {error behind : ClientError}

/-- The error that is kept is the nearest one behind. -/
theorem causes_of_cause? {cause : ClientError} (h : error.cause? = some cause) :
    error.causes = cause :: cause.causes := by
  cases error with
  | retriesExhausted sent status source =>
      obtain rfl : source = some cause := h
      rfl
  | _ => cases h

theorem isTimeout_of_mem_causes (h : behind ∈ error.causes) : behind.isTimeout = error.isTimeout := by
  induction error using causes.induct with
  | case1 sent status source ih =>
      rcases List.mem_cons.mp h with rfl | deeper
      · rfl
      · exact ih deeper
  | case2 error keepsNone =>
      rw [causes] at h
      · cases h
      · exact keepsNone

/-- The text of an error that keeps another one ends with the text of that. -/
theorem message_keeping (sent : UInt32) (status : Option Status) (source : ClientError) :
    (retriesExhausted sent status (some source)).message =
      "retries exhausted after " ++ toString sent.toNat ++ " attempts: " ++ source.message :=
  message.eq_def _

theorem message_of_mem_causes (h : behind ∈ error.causes) :
    ∃ lead : String, error.message = lead ++ behind.message := by
  induction error using causes.induct with
  | case1 sent status source ih =>
      rcases List.mem_cons.mp h with rfl | deeper
      · exact ⟨_, message_keeping sent status behind⟩
      · obtain ⟨lead, text⟩ := ih deeper
        refine ⟨"retries exhausted after " ++ toString sent.toNat ++ " attempts: " ++ lead, ?_⟩
        rw [message_keeping, text, ← String.append_assoc]
  | case2 error keepsNone =>
      rw [causes] at h
      · cases h
      · exact keepsNone

/-- A status is told by an exchange that took one for an error, and by retries that were exhausted on one. -/
theorem status?_eq_none_iff :
    error.status? = none ↔
      (∀ status, error ≠ .transport (.refusedStatus status)) ∧
        ∀ sent status source, error ≠ .retriesExhausted sent (some status) source := by
  cases error with
  | transport fault => cases fault <;> simp [status?, TransportFault.status?]
  | retriesExhausted sent status source => cases status <;> simp [status?]
  | _ => simp [status?]

end ClientError

namespace RetryPolicy

variable {σ : Type} {policy : RetryPolicy} {sink : Sink} {base : Executor σ} {request : Request}
  {world after : World (Noted σ)} {moments : List (Moment (Noted σ) Event)} {sent : UInt32}
  {status : Option Status} {source : Option ClientError} {cause : ClientError}

/-- A call that uses up its attempts reports an error of its last request, and just that one. -/
theorem source_eq_some_iff (fresh : world.journal = .empty)
    (run : Task.Run World.Alongside (policy.retrying sink base.recording request) world moments
      (.done (.error (.retriesExhausted sent status source))) after) :
    source = some cause ↔ after.journal.outcomes.getLast? = some (.error cause) := by
  obtain ⟨-, reported⟩ := (conforms_of_run fresh run).2.of_exhausted
  cases last : after.journal.outcomes.getLast? with
  | none =>
      rw [last] at reported
      obtain ⟨-, -, rfl⟩ := ClientError.retriesExhausted.inj reported
      simp
  | some outcome =>
      rw [last, Option.map_some, exhausted_of] at reported
      obtain ⟨-, -, rfl⟩ := ClientError.retriesExhausted.inj reported
      cases outcome <;> simp [ExchangeResult.error?]

/-- A call whose last request failed with an error reports no status. -/
theorem status_of_run (fresh : world.journal = .empty)
    (run : Task.Run World.Alongside (policy.retrying sink base.recording request) world moments
      (.done (.error (.retriesExhausted sent status source))) after)
    (failed : after.journal.outcomes.getLast? = some (.error cause)) : status = none := by
  obtain ⟨-, reported⟩ := (conforms_of_run fresh run).2.of_exhausted
  rw [failed] at reported
  exact (ClientError.retriesExhausted.inj reported).2.1

/-- How an error is told through the layers that keep it. In every run of a call that uses up its attempts
and whose last request failed with an error, the call ends with an error that keeps just that one. Of all
the errors behind it, down to the last, it says as they do whether it was a timeout, and its text ends with
theirs. It tells no status; so it agrees with the error that it keeps if and only if that one tells none
either, being neither a status that was taken for an error nor retries that were exhausted on one. -/
theorem classified_of_run (fresh : world.journal = .empty)
    (run : Task.Run World.Alongside (policy.retrying sink base.recording request) world moments
      (.done (.error (.retriesExhausted sent status source))) after)
    (failed : after.journal.outcomes.getLast? = some (.error cause)) :
    let error := ClientError.retriesExhausted sent status source
    error.cause? = some cause ∧ error.sourceMessage? = some cause.message ∧
      error.causes = cause :: cause.causes ∧
      (∀ behind ∈ error.causes, behind.isTimeout = error.isTimeout ∧
        ∃ lead : String, error.message = lead ++ behind.message) ∧
      error.status? = none ∧
      (error.status? = cause.status? ↔
        (∀ status, cause ≠ .transport (.refusedStatus status)) ∧
          ∀ sent status source, cause ≠ .retriesExhausted sent (some status) source) := by
  intro error
  obtain rfl := (source_eq_some_iff fresh run).mpr failed
  obtain rfl := status_of_run fresh run failed
  refine ⟨rfl, rfl, ClientError.causes_of_cause? rfl, fun behind mem => ?_, rfl, ?_⟩
  · exact ⟨ClientError.isTimeout_of_mem_causes mem, ClientError.message_of_mem_causes mem⟩
  · rw [← ClientError.status?_eq_none_iff]
    exact eq_comm

/-! ### Two layers -/

/-- A policy that allows no retry. -/
def single : RetryPolicy := .constant 0 .zero

/-- Nobody answers in time. -/
def unanswered : Executor Unit := fun request =>
  .done (.error (.transport (.unanswered request.url true)))

/-- Every request is answered at once, with a status that asks for patience. -/
def overloaded : Executor Unit := fun _ => .done (.ok (.new ⟨503⟩ (.full [])))

/-- A timeout stays one through two layers. -/
theorem classified_unanswered :
    let request := Request.toSite none ⟨0, none⟩
    let fault := ClientError.transport (.unanswered request.url true)
    let error := ClientError.retriesExhausted 1 none (some (.retriesExhausted 1 none (some fault)))
    ((single.retrying .tracing (single.retrying .tracing unanswered).recording request).course
        (Transport.quietWorld.noted .empty)).outcome = .value (.error error) ∧
      fault ∈ error.causes ∧ ∀ behind ∈ error.causes, behind.isTimeout = error.isTimeout := by
  intro request fault error
  have closed : ((single.retrying .tracing (single.retrying .tracing unanswered).recording
      request).course (Transport.quietWorld.noted .empty)).outcome = .value (.error error) := rfl
  have run := Task.run_moments World.alongside_allowsWaiting closed
  have last := (source_eq_some_iff rfl run).mp rfl
  have kept := classified_of_run rfl run last
  refine ⟨closed, ?_, fun behind mem => (kept.2.2.2.1 behind mem).1⟩
  simp [error, ClientError.causes]

/-- A status that retries were exhausted on is lost with the first layer that keeps their error. -/
theorem layered_status_lost :
    let request := Request.toSite none ⟨0, none⟩
    let course := (single.retrying .tracing (single.retrying .tracing overloaded).recording
      request).course (Transport.quietWorld.noted .empty)
    let cause := ClientError.retriesExhausted 1 (some ⟨503⟩) none
    let error := ClientError.retriesExhausted 1 none (some cause)
    course.outcome = .value (.error error) ∧
      course.world.journal.outcomes.getLast? = some (.error cause) ∧
      cause.status? = some ⟨503⟩ ∧ error.status? = none := by
  intro request course cause error
  have closed : course.outcome = .value (.error error) := rfl
  have run := Task.run_moments World.alongside_allowsWaiting closed
  exact ⟨closed, (source_eq_some_iff rfl run).mp rfl, rfl, rfl⟩

end RetryPolicy
end ResilientHttp

import ResilientHttp.Proofs.Retry.Call
import ResilientHttp.Proofs.Site

/-!
Where the requests of a call go. Whatever the executor answers and whenever the context ends, the
targets of a call are the first ones of the rotation (`targets_of_run`); a call that reports that its
attempts are used up has gone through all of it. The law is about calls over a recording executor; by
`recorded_retrying` such a call does what the call itself does, and only writes a journal besides.
-/

namespace ResilientHttp.RetryPolicy

variable {σ : Type} {policy : RetryPolicy} {sink : Sink} {base : Executor σ} {request : Request}

/-- Only a call that has gone through its schedule reports that its attempts are used up, and what it
reports is what its journal tells. -/
theorem Concludes.of_exhausted {past : List (Moment (Noted σ) Event)} {journal : Journal σ}
    {sent : UInt32} {status : Option Status} {source : Option ClientError}
    (h : policy.Concludes request past journal (.error (.retriesExhausted sent status source))) :
    (∃ octets, policy.Underway request octets (policy.maxAttempts.toNat + 1) journal) ∧
      .retriesExhausted sent status source =
        Failure.exhausted (.ofNat journal.requests.length) (journal.outcomes.getLast?.map Failure.of) := by
  generalize hresult : (.error (.retriesExhausted sent status source) :
    ExchangeResult (Noted σ)) = result at h
  cases h with
  | unreadable => cases hresult
  | ended =>
      rename_i ending _
      cases ending <;> cases hresult
  | terminal _ _ terminal =>
      rw [← isTerminal_map_noted, ← hresult] at terminal
      cases terminal
  | exhausted _ underway => exact ⟨⟨_, underway⟩, Except.error.inj hresult⟩

theorem Concludes.underway_of_exhausted {past : List (Moment (Noted σ) Event)} {journal : Journal σ}
    {sent : UInt32} {status : Option Status} {source : Option ClientError}
    (h : policy.Concludes request past journal (.error (.retriesExhausted sent status source))) :
    ∃ octets, policy.Underway request octets (policy.maxAttempts.toNat + 1) journal :=
  h.of_exhausted.1

/-- The place of an attempt in the rotation is the target or one of the endpoints. -/
theorem slot_inBounds (policy : RetryPolicy) {index place : Nat}
    (h : (policy.slot index).val = place + 1) : place < policy.endpoints.length := by
  have inBounds := (policy.slot index).isLt
  rw [h] at inBounds
  exact Nat.lt_of_succ_lt_succ inBounds

/-- In every run of a call the targets of the requests that the executor is handed are the first ones
of the rotation, and all of them if the call reports that its attempts are used up. Every attempt has
its place in the rotation. -/
theorem targets_of_run {world after : World (Noted σ)} {moments : List (Moment (Noted σ) Event)}
    {left : Task (Noted σ) Event (ExchangeResult (Noted σ))} (fresh : world.journal = .empty)
    (run : Task.Run World.Alongside (policy.retrying sink base.recording request) world moments left
      after) :
    after.journal.requests.map Request.url <+: policy.rotation request.url ∧
      (∀ sent status source, left = .done (.error (.retriesExhausted sent status source)) →
        after.journal.requests.map Request.url = policy.rotation request.url) ∧
      policy.slotCount ≠ 0 ∧
      ∀ index, (policy.slot index).val = index % policy.slotCount ∧
        ∀ place, (policy.slot index).val = place + 1 → place < policy.endpoints.length := by
  have ensured := conforms_of_run fresh run
  refine ⟨ensured.now.urls, ?_, Nat.succ_ne_zero _, ?_⟩
  · rintro sent status source rfl
    obtain ⟨octets, underway⟩ := ensured.2.underway_of_exhausted
    exact underway.urls
  · intro index
    exact ⟨rfl, fun place => policy.slot_inBounds⟩

/-- Twice round a rotation with an endpoint that is no URL, at a site that is overloaded once. -/
theorem targets_recovering :
    let policy := (constant 1 .zero).withFailover ["nowhere"]
    let request := Request.toSite none ⟨0, none⟩
    let call := policy.retrying .tracing Site.recoveringExecutor.recording request
    let world := Site.recovering.world.noted .empty
    (call.course world).world.journal.requests.map Request.url = policy.rotation request.url :=
  (targets_of_run rfl (Task.run_moments World.alongside_allowsWaiting rfl)).2.1 1 (some ⟨503⟩) none
    rfl

end ResilientHttp.RetryPolicy

import ResilientHttp.Proofs.Retry.Replay
import ResilientHttp.Proofs.Retry.Report

/-!
Attempts multiply. What reaches the bottom of a stack in one call are copies of the request, aimed at
targets of the nested rotation, and there are no more of them than the product of the attempts that the
policies allow. If all of them fail, the whole rotation is gone through, and the error of the call counts
the attempts of each layer above the error of the layer below (`Transport.Exhausts`).

* `RetryPolicy.Attempted.sends`, `Transport.Called.sends` — what can be sent, for a loop and for a stack.
* `RetryPolicy.Attempted.exhausts`, `Transport.Called.exhausts` — what comes of it if nothing succeeds.
* `Transport.attempts_multiply` — both for every run of a call, and for a call that is alone.
-/

namespace ResilientHttp

variable {σ τ : Type}

/-- A request is another one but for its target: method, header fields and context are the same, and the
bodies hold the same octets. -/
structure Request.CopyOf (sent request : Request) : Prop where
  method : sent.method = request.method
  headers : sent.headers = request.headers
  context : sent.context = request.context
  octets : sent.body.map Body.octets = request.body.map Body.octets

namespace Request

variable {sent middle request : Request} {octets : Option Octets}

theorem copyOf_refl (request : Request) : request.CopyOf request := ⟨rfl, rfl, rfl, rfl⟩

theorem CopyOf.trans (h : sent.CopyOf middle) (h' : middle.CopyOf request) : sent.CopyOf request where
  method := h.method.trans h'.method
  headers := h.headers.trans h'.headers
  context := h.context.trans h'.context
  octets := h.octets.trans h'.octets

theorem octets_rebind (url : Url) : (request.rebind url octets).body.map Body.octets = octets := by
  cases octets with
  | none => rfl
  | some octets => exact congrArg some (List.append_nil octets)

theorem copyOf_rebind (url : Url) (readable : request.replayed = .ok octets) :
    (request.rebind url octets).CopyOf request :=
  ⟨rfl, rfl, rfl, by rw [octets_rebind, octets_of_replayed readable]⟩

/-- A request that was aimed anew can be sent again. -/
theorem replayed_rebind (url : Url) : (request.rebind url octets).replayed = .ok octets := by
  cases octets <;> rfl

end Request

namespace RetryPolicy

variable {policy : RetryPolicy} {below : Request → Report σ} {ended : ContextEnd → Prop}
  {request : Request} {octets : Option Octets} {left attempt : Nat} {sent : UInt32}
  {last : Option Failure} {requests : List Request} {outcomes : List (ExchangeResult σ)}
  {result : Option (ExchangeResult σ)}

/-- The targets of the attempts from some number on. -/
def turnsFrom (policy : RetryPolicy) (own : Url) (attempt left : Nat) : List Url :=
  (List.range' attempt left).filterMap (policy.turn? own)

theorem turnsFrom_zero (own : Url) (count : Nat) :
    policy.turnsFrom own 0 count = policy.turns own count := by
  rw [turnsFrom, turns, List.range_eq_range']

theorem turnsFrom_skip {own : Url} (turn : policy.turn? own attempt = none) :
    policy.turnsFrom own attempt (left + 1) = policy.turnsFrom own (attempt + 1) left := by
  rw [turnsFrom, List.range'_succ, List.filterMap_cons_none turn]
  rfl

theorem turnsFrom_turn {own url : Url} (turn : policy.turn? own attempt = some url) :
    policy.turnsFrom own attempt (left + 1) = url :: policy.turnsFrom own (attempt + 1) left := by
  rw [turnsFrom, List.range'_succ, List.filterMap_cons_some turn]
  rfl

/-- What a loop sends goes through the rotation, and for each turn through what the layer below makes of
its target. -/
theorem Attempted.sends {spread : Url → List Url} {good : Request → Prop}
    (h : policy.Attempted below ended request octets left attempt sent last requests outcomes result)
    (each : ∀ url requests outcomes result, below (request.rebind url octets) requests outcomes result →
      (requests.map Request.url).Sublist (spread url) ∧ ∀ sent ∈ requests, good sent) :
    (requests.map Request.url).Sublist ((policy.turnsFrom request.url attempt left).flatMap spread) ∧
      ∀ sent ∈ requests, good sent := by
  induction h with
  | underway | exhausted | ended => exact ⟨List.nil_sublist _, List.forall_mem_nil _⟩
  | skipped turn _ ih =>
      rw [turnsFrom_skip turn]
      exact ih
  | exchanging turn told | abandoned turn told _ | terminal turn told _ =>
      obtain ⟨sublist, goods⟩ := each _ _ _ _ told
      rw [turnsFrom_turn turn, List.flatMap_cons]
      exact ⟨sublist.trans (List.sublist_append_left _ _), goods⟩
  | failed turn told _ _ ih =>
      obtain ⟨sublist, goods⟩ := each _ _ _ _ told
      rw [turnsFrom_turn turn, List.flatMap_cons, List.map_append]
      exact ⟨sublist.append ih.1, List.forall_mem_append.mpr ⟨goods, ih.2⟩⟩

end RetryPolicy

/-- What reaches the bottom of a stack are copies of the request, and their targets are among those of the
nested rotation, in order. -/
theorem Transport.Called.sends {ended : ContextEnd → Prop} {stack : Transport τ} {request : Request}
    {requests : List Request} {outcomes : List (ExchangeResult σ)} {result : Option (ExchangeResult σ)}
    (h : stack.Called ended request requests outcomes result) :
    (requests.map Request.url).Sublist (stack.rotation request.url) ∧
      ∀ sent ∈ requests, sent.CopyOf request := by
  induction stack generalizing request requests outcomes result with
  | base sender =>
      cases h with
      | before => exact ⟨List.nil_sublist _, List.forall_mem_nil _⟩
      | underway | answered =>
          exact ⟨List.Sublist.refl _, List.forall_mem_singleton.mpr request.copyOf_refl⟩
  | retrying policy sink inner ih =>
      cases h with
      | reading | ended | unreadable => exact ⟨List.nil_sublist _, List.forall_mem_nil _⟩
      | attempted readable h =>
          rw [rotation, RetryPolicy.rotation, ← RetryPolicy.turnsFrom_zero]
          refine h.sends fun url requests outcomes result told => ?_
          obtain ⟨sublist, copies⟩ := ih told
          exact ⟨sublist, fun sent mem => (copies sent mem).trans (request.copyOf_rebind url readable)⟩

/-! ### If nothing succeeds -/

namespace ExchangeResult

/-- An outcome is an error that does not say that the context has ended. -/
def Fails : ExchangeResult σ → Prop
  | .ok _ => False
  | .error error => error.isContextError = false

instance : DecidablePred (Fails (σ := σ))
  | .ok _ => inferInstanceAs (Decidable False)
  | .error error => inferInstanceAs (Decidable (error.isContextError = false))

theorem Fails.exists_error {outcome : ExchangeResult σ} (h : outcome.Fails) :
    ∃ error, outcome = .error error ∧ error.isContextError = false := by
  cases outcome with
  | ok response => exact h.elim
  | error error => exact ⟨error, rfl, h⟩

end ExchangeResult

/-- The error of a stack whose attempts are used up, with the error of the last exchange behind it: each
layer counts all attempts that its policy allows, above the error of the layer below. -/
def Transport.Exhausts : Transport τ → ClientError → ClientError → Prop
  | .base _, last, error => error = last
  | .retrying policy _ inner, last, error =>
    ∃ attempts source, error = .retriesExhausted attempts none (some source) ∧
      attempts.toNat = policy.maxAttempts.toNat + 1 ∧ inner.Exhausts last source

namespace RetryPolicy

variable {policy : RetryPolicy} {below : Request → Report σ} {ended : ContextEnd → Prop}
  {request : Request} {octets : Option Octets} {left attempt : Nat} {sent : UInt32}
  {last : Option Failure} {requests : List Request} {outcomes : List (ExchangeResult σ)}
  {result : ExchangeResult σ}

/-- A loop in which nothing succeeds goes through its whole rotation, and for each turn through what the
layer below makes of its target. Its error counts the attempts above the error of the last one. -/
theorem Attempted.exhausts {spread : Url → List Url} {behind : ClientError → ClientError → Prop}
    (never : ∀ ending, ¬ ended ending) (parses : policy.Parses)
    (each : ∀ url requests outcomes outcome,
      below (request.rebind url octets) requests outcomes (some outcome) →
      (∀ outcome ∈ outcomes, outcome.Fails) →
      requests.map Request.url = spread url ∧
        ∃ error source, outcome = .error error ∧ error.isContextError = false ∧
          outcomes.getLast? = some (.error source) ∧ behind source error)
    (fails : ∀ outcome ∈ outcomes, outcome.Fails)
    (h : policy.Attempted below ended request octets left attempt sent last requests outcomes
      (some result)) :
    requests.map Request.url = (policy.turnsFrom request.url attempt left).flatMap spread ∧
      (left = 0 → outcomes = [] ∧ result = .error (Failure.exhausted sent last)) ∧
      (0 < left → ∃ error source, outcomes.getLast? = some (.error source) ∧ behind source error ∧
        result = .error (.retriesExhausted (sent + .ofNat left) none (some error))) := by
  generalize hresult : some result = closed at h
  induction h with
  | underway | exchanging => cases hresult
  | exhausted =>
      cases hresult
      exact ⟨rfl, fun _ => ⟨rfl, rfl⟩, fun more => absurd more (Nat.lt_irrefl _)⟩
  | ended seen => exact absurd seen (never _)
  | abandoned _ _ seen => exact absurd seen (never _)
  | @skipped _ attempt _ _ _ _ _ turn _ ih =>
      obtain ⟨url, turn'⟩ := parses.exists_turn request.url attempt
      cases turn.symm.trans turn'
  | terminal turn told terminal =>
      obtain ⟨-, error, source, rfl, plain, -⟩ := each _ _ _ _ told fails
      rw [isTerminal, plain] at terminal
      cases terminal
  | @failed left attempt sent _ _ _ _ _ _ _ _ turn told _ _ ih =>
      obtain ⟨failed, later⟩ := List.forall_mem_append.mp fails
      obtain ⟨urls, error, source, rfl, -, final, holds⟩ := each _ _ _ _ told failed
      obtain ⟨others, done, more⟩ := ih later hresult
      refine ⟨?_, fun none => absurd none (Nat.succ_ne_zero _), fun _ => ?_⟩
      · rw [List.map_append, urls, others, turnsFrom_turn turn, List.flatMap_cons]
      · cases left with
        | zero =>
            obtain ⟨rfl, rfl⟩ := done rfl
            exact ⟨error, source, by rw [List.append_nil, final], holds, rfl⟩
        | succ left =>
            obtain ⟨error, source, final, holds, rfl⟩ := more (Nat.succ_pos _)
            have count : sent + 1 + .ofNat (left + 1) = sent + .ofNat (left + 1 + 1) := by
              rw [UInt32.ofNat_add (left + 1), UInt32.add_assoc, UInt32.add_comm 1]
              rfl
            refine ⟨error, source, ?_, holds, by rw [count]⟩
            rw [List.getLast?_append, final]
            rfl

end RetryPolicy

namespace Transport

/-- The body of a request can be read, if there is a layer that reads it. -/
def Reads (stack : Transport τ) (request : Request) : Prop :=
  stack.policies ≠ [] → ∃ octets, request.replayed = .ok octets

/-- No policy of a stack counts beyond its range, and every endpoint is a URL. -/
def Regular (stack : Transport τ) : Prop :=
  ∀ policy ∈ stack.policies, policy.maxAttempts.toNat < UInt32.size - 1 ∧ policy.Parses

/-- A call to a stack in which nothing succeeds goes through the whole nested rotation. -/
theorem Called.exhausts {ended : ContextEnd → Prop} {stack : Transport τ} {request : Request}
    {requests : List Request} {outcomes : List (ExchangeResult σ)} {result : ExchangeResult σ}
    (never : ∀ ending, ¬ ended ending) (regular : stack.Regular) (reads : stack.Reads request)
    (fails : ∀ outcome ∈ outcomes, outcome.Fails)
    (h : stack.Called ended request requests outcomes (some result)) :
    requests.map Request.url = stack.rotation request.url ∧
      ∃ error last, result = .error error ∧ error.isContextError = false ∧
        outcomes.getLast? = some (.error last) ∧ stack.Exhausts last error := by
  induction stack generalizing request requests outcomes result with
  | base sender =>
      cases h with
      | answered =>
          obtain ⟨error, rfl, plain⟩ := (fails _ (List.mem_singleton.mpr rfl)).exists_error
          exact ⟨rfl, error, error, rfl, plain, rfl, rfl⟩
  | retrying policy sink inner ih =>
      obtain ⟨⟨counts, parses⟩, below⟩ := List.forall_mem_cons.mp regular
      cases h with
      | ended seen => exact absurd seen (never _)
      | unreadable unread =>
          obtain ⟨octets, readable⟩ := reads (List.cons_ne_nil _ _)
          cases unread.symm.trans readable
      | @attempted octets _ _ _ readable h =>
          obtain ⟨urls, -, some⟩ := h.exhausts never parses
            (fun url requests outcomes outcome told fails =>
              ih below (fun _ => ⟨octets, request.replayed_rebind url⟩) fails told) fails
          obtain ⟨error, last, final, behind, rfl⟩ := some (Nat.succ_pos _)
          refine ⟨?_, _, last, rfl, rfl, final, _, error, rfl, ?_, behind⟩
          · rw [urls, RetryPolicy.turnsFrom_zero]
            rfl
          · rw [UInt32.zero_add]
            exact UInt32.toNat_ofNat_of_lt' (Nat.add_lt_of_lt_sub counts)

/-! ### Calls to a stack -/

/-- How a call to a stack is over in which nothing has succeeded. -/
structure Exhausted {α : Type} (stack : Transport τ) (request : Request) (journal : Journal σ)
    (result : Except ClientError α) : Prop where
  count : journal.requests.length = stack.attempts
  urls : journal.requests.map Request.url = stack.rotation request.url
  failed : ∃ error last, result = .error error ∧ journal.outcomes.getLast? = some (.error last) ∧
    stack.Exhausts last error

section Calls

variable {run : τ → Executor σ} {stack : Transport τ} {request : Request}
  {world after : World (Noted σ)} {moments : List (Moment (Noted σ) Event)}

/-- Whatever a call to a stack has come to, the bottom of the stack has received no more than the product
of the attempts. -/
theorem bounded_of_run {left : Task (Noted σ) Event (ExchangeResult (Noted σ))}
    (fresh : world.journal = .empty)
    (runs : Task.Run World.Alongside (stack.execute (fun sender => (run sender).recording) request)
      world moments left after) :
    after.journal.requests.length ≤ stack.attempts ∧
      (after.journal.requests.map Request.url).Sublist (stack.rotation request.url) ∧
      ∀ sent ∈ after.journal.requests, sent.CopyOf request := by
  obtain ⟨result, -, told⟩ := called_of_run (fun _ => True) fresh runs fun _ _ => trivial
  obtain ⟨sublist, copies⟩ := told.sends
  refine ⟨?_, sublist, copies⟩
  calc
    after.journal.requests.length = (after.journal.requests.map Request.url).length :=
      (List.length_map _).symm
    _ ≤ (stack.rotation request.url).length := sublist.length_le
    _ ≤ stack.attempts := stack.length_rotation_le request.url

/-- If nothing succeeds and the context lives, a call to a stack that is over has used up all attempts. -/
theorem exhausted_of_run {result : ExchangeResult (Noted σ)} (regular : stack.Regular)
    (reads : stack.Reads request) (fresh : world.journal = .empty)
    (runs : Task.Run World.Alongside (stack.execute (fun sender => (run sender).recording) request)
      world moments (.done result) after)
    (live : ∀ moment ∈ moments, request.context.endedIn? moment.world = none)
    (fails : ∀ outcome ∈ after.journal.outcomes, outcome.Fails) :
    stack.Exhausted request after.journal result := by
  have never : ∀ ending, request.context.SeenEnded moments ending → False := by
    rintro ending ⟨moment, mem, ended⟩
    rw [live moment mem] at ended
    cases ended
  obtain ⟨plain, done, told⟩ := called_of_run (fun _ => False) fresh runs never
  obtain ⟨plain, rfl⟩ : ∃ value, plain = some value := by
    cases plain with
    | none => cases done
    | some value => exact ⟨value, rfl⟩
  cases done
  obtain ⟨urls, error, last, rfl, -, final, exhausts⟩ :=
    told.exhausts (fun _ => id) regular reads fails
  refine ⟨?_, urls, error, last, rfl, final, exhausts⟩
  rw [← List.length_map (f := Request.url), urls,
    stack.length_rotation _ fun policy mem => (regular policy mem).2]

/-- Alone and under a context that lives, a call to a stack in which nothing succeeds does end, with all
attempts used up. -/
theorem exists_exhausted (regular : stack.Regular) (reads : stack.Reads request)
    (answers : ∀ sender request world, (run sender request).Returns world) {world : World σ}
    (live : ∀ moment ∈ (stack.execute run request).moments world,
      request.context.endedIn? moment.world = none)
    (fails : ∀ outcome ∈ ((stack.execute (fun sender => (run sender).recording) request).course
      (world.noted .empty)).world.journal.outcomes, outcome.Fails) :
    ∃ result, ((stack.execute run request).course world).outcome = .value result ∧
      stack.Exhausted request
        ((stack.execute (fun sender => (run sender).recording) request).course
          (world.noted .empty)).world.journal result := by
  obtain ⟨result, returned⟩ := stack.returns_execute answers request world
  have recorded := stack.recordedBy_execute run request
  have outcome := congrArg Course.outcome (recorded.course (world.noted .empty))
  simp only [Course.plain, Course.map, World.plain_noted, returned, Outcome.map] at outcome
  -- The recorded call ends as the call itself does, so its course is a run that is over.
  have exhausted := exhausted_of_run regular reads rfl
    (Task.run_moments World.alongside_allowsWaiting outcome)
    (recorded.forall_moments (request.context.endedIn? · = none) (world.noted .empty) live) fails
  obtain ⟨error, last, failed, final, exhausts⟩ := exhausted.failed
  refine ⟨result, returned, exhausted.count, exhausted.urls, error, last, ?_, final, exhausts⟩
  cases result with
  | error other => simpa [Except.map] using failed
  | ok response => cases failed

/-- What a call to a stack makes its bottom receive, where the recorded call is the call itself with a
journal written at the bottom. In every run these are copies of the request that go through the nested
rotation, perhaps with gaps, and there are no more of them than the product of the attempts. If the body
can be read, every endpoint is a URL and the context lives, and if all exchanges fail with errors that
are not of the context, then it is all of the rotation, which is as long as the product, and the error of
the call has one layer for each policy above the error of the last exchange. A call that is alone does
end so, if its exchanges end. -/
theorem attempts_multiply (run : τ → Executor σ) (stack : Transport τ) (request : Request) :
    Task.Recorded (Except.map Response.noted) (stack.execute run request)
      (stack.execute (fun sender => (run sender).recording) request) ∧
    (∀ (world after : World (Noted σ)) (moments : List (Moment (Noted σ) Event))
      (left : Task (Noted σ) Event (ExchangeResult (Noted σ))), world.journal = .empty →
      Task.Run World.Alongside (stack.execute (fun sender => (run sender).recording) request) world
        moments left after →
      after.journal.requests.length ≤ stack.attempts ∧
        (after.journal.requests.map Request.url).Sublist (stack.rotation request.url) ∧
        ∀ sent ∈ after.journal.requests, sent.CopyOf request) ∧
    (stack.Regular → stack.Reads request →
      (∀ (world after : World (Noted σ)) (moments : List (Moment (Noted σ) Event))
        (result : ExchangeResult (Noted σ)), world.journal = .empty →
        Task.Run World.Alongside (stack.execute (fun sender => (run sender).recording) request) world
          moments (.done result) after →
        (∀ moment ∈ moments, request.context.endedIn? moment.world = none) →
        (∀ outcome ∈ after.journal.outcomes, outcome.Fails) →
        stack.Exhausted request after.journal result) ∧
      ((∀ sender request world, (run sender request).Returns world) → ∀ world : World σ,
        (∀ moment ∈ (stack.execute run request).moments world,
          request.context.endedIn? moment.world = none) →
        (∀ outcome ∈ ((stack.execute (fun sender => (run sender).recording) request).course
          (world.noted .empty)).world.journal.outcomes, outcome.Fails) →
        ∃ result, ((stack.execute run request).course world).outcome = .value result ∧
          stack.Exhausted request
            ((stack.execute (fun sender => (run sender).recording) request).course
              (world.noted .empty)).world.journal result)) := by
  refine ⟨stack.recordedBy_execute run request, ?_, fun regular reads => ⟨?_, ?_⟩⟩
  · intro world after moments left fresh runs
    exact bounded_of_run fresh runs
  · intro world after moments result fresh runs live fails
    exact exhausted_of_run regular reads fresh runs live fails
  · intro answers world live fails
    exact exists_exhausted regular reads answers live fails

end Calls

/-! ### A stack of two policies -/

/-- Two attempts, one of them at another place, each of two attempts. -/
def twoByTwo : Transport Unit :=
  .retrying ((RetryPolicy.constant 1 .zero).withFailover ["mirror:site"]) .tracing
    (.retrying (.constant 1 .zero) .tracing (.base ()))

/-- Nobody is there. -/
def refusing : Unit → Executor Unit := fun _ _ => .done (.error (.connection "refused"))

theorem regular_twoByTwo : twoByTwo.Regular := by
  have mirror : Url.parse "mirror:site" =
      .ok ⟨"mirror", "", none, none, none, .bare "site", none, none⟩ := rfl
  refine List.forall_mem_cons.mpr ⟨⟨by decide, ?_⟩, List.forall_mem_singleton.mpr ⟨by decide, ?_⟩⟩
  · exact List.forall_mem_singleton.mpr ⟨_, mirror⟩
  · exact List.forall_mem_nil _

/-- Four requests, and an error of two layers. -/
theorem attempts_multiply_twoByTwo :
    let request := Request.toSite (some (.ofText "a")) ⟨0, none⟩
    let journal := ((twoByTwo.execute (fun sender => (refusing sender).recording) request).course
      (quietWorld.noted .empty)).world.journal
    twoByTwo.attempts = 4 ∧
      ∃ result, ((twoByTwo.execute refusing request).course quietWorld).outcome = .value result ∧
        twoByTwo.Exhausted request journal result := by
  intro request journal
  refine ⟨by decide, ((attempts_multiply refusing twoByTwo request).2.2 regular_twoByTwo ?_).2 ?_
    quietWorld (by decide +kernel) (by decide +kernel)⟩
  · exact fun _ => ⟨_, request.replayed_of_some rfl⟩
  · exact fun _ _ _ => ⟨_, rfl⟩

/-- If the body has a fault, the call ends with that and nothing is sent, so nothing that was sent has
succeeded either. -/
theorem not_exhausted_of_fault :
    let request := Request.toSite (some (.stream [.data [97], .fault ⟨.other, "lost"⟩])) ⟨0, none⟩
    let journal := ((twoByTwo.execute (fun sender => (refusing sender).recording) request).course
      (quietWorld.noted .empty)).world.journal
    twoByTwo.Regular ∧
      (∀ moment ∈ (twoByTwo.execute refusing request).moments quietWorld,
        request.context.endedIn? moment.world = none) ∧
      (∀ outcome ∈ journal.outcomes, outcome.Fails) ∧
      ((twoByTwo.execute refusing request).course quietWorld).outcome =
        .value (.error (.requestBody ⟨.other, "lost"⟩)) ∧
      journal.requests = [] ∧
      ∀ result : ExchangeResult Unit, ¬ twoByTwo.Exhausted request journal result := by
  intro request journal
  have live : ∀ moment ∈ (twoByTwo.execute refusing request).moments quietWorld,
      request.context.endedIn? moment.world = none := by decide +kernel
  have nothing : journal.requests = [] := by decide +kernel
  have lost : ((twoByTwo.execute refusing request).course quietWorld).outcome =
      .value (.error (.requestBody ⟨.other, "lost"⟩)) :=
    RetryPolicy.outcome_of_fault rfl rfl live
  refine ⟨regular_twoByTwo, live, by decide +kernel, lost, nothing, ?_⟩
  intro result exhausted
  have count := exhausted.count
  rw [nothing] at count
  exact absurd count (by decide)

end Transport
end ResilientHttp

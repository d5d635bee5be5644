import ResilientHttp.Proofs.Retry.Stack
import ResilientHttp.Proofs.Task.Split

/-!
What a call to a stack can come to. A `Report` tells of a call so far: which requests have reached the
bottom, which outcomes these had, and the result of the call once it has one. The reports of a layer are
given by rules over the reports of what it stands on (`RetryPolicy.Attempted`, `RetryPolicy.Called`), so
a law of stacks of any depth is an induction over rules and needs no run any more.

* `Executor.Tells` — every run of an executor is as one of its reports tells.
* `RetryPolicy.tells_retrying` — the step: a retrying executor tells the reports of its layer if the
  executor beneath it tells its own.
* `Transport.tells_execute`, `Transport.called_of_run` — the law of every run of a stack.
-/

namespace ResilientHttp

variable {σ τ : Type}

/-- What can be told of a call so far: the requests that were sent, the outcomes that they had, and the
result, if there is one. -/
abbrev Report (σ : Type) := List Request → List (ExchangeResult σ) → Option (ExchangeResult σ) → Prop

/-- A single exchange: the request was not sent yet, or it was sent, or it was answered too. -/
inductive Request.Exchanged (request : Request) : Report σ where
  | before : Exchanged request [] [] none
  | underway : Exchanged request [request] [] none
  | answered {outcome : ExchangeResult σ} : Exchanged request [request] [outcome] (some outcome)

namespace RetryPolicy

variable (policy : RetryPolicy) (below : Request → Report σ) (ended : ContextEnd → Prop)
  (request : Request)

/-- The attempts of a call, of which some are left: the next one has the number `attempt`. -/
inductive Attempted (octets : Option Octets) : Nat → Nat → UInt32 → Option Failure → Report σ where
  | underway {left attempt : Nat} {sent : UInt32} {last : Option Failure} :
      Attempted octets left attempt sent last [] [] none
  | exhausted {attempt : Nat} {sent : UInt32} {last : Option Failure} :
      Attempted octets 0 attempt sent last [] [] (some (.error (Failure.exhausted sent last)))
  | ended {left attempt : Nat} {sent : UInt32} {last : Option Failure} {ending : ContextEnd} :
      ended ending →
      Attempted octets (left + 1) attempt sent last [] [] (some (.error ending.error))
  | skipped {left attempt : Nat} {sent : UInt32} {last : Option Failure} {requests : List Request}
      {outcomes : List (ExchangeResult σ)} {result : Option (ExchangeResult σ)} :
      policy.turn? request.url attempt = none →
      Attempted octets left (attempt + 1) sent last requests outcomes result →
      Attempted octets (left + 1) attempt sent last requests outcomes result
  | exchanging {left attempt : Nat} {sent : UInt32} {last : Option Failure} {url : Url}
      {requests : List Request} {outcomes : List (ExchangeResult σ)} :
      policy.turn? request.url attempt = some url →
      below (request.rebind url octets) requests outcomes none →
      Attempted octets (left + 1) attempt sent last requests outcomes none
  | abandoned {left attempt : Nat} {sent : UInt32} {last : Option Failure} {url : Url}
      {requests : List Request} {outcomes : List (ExchangeResult σ)} {ending : ContextEnd} :
      policy.turn? request.url attempt = some url →
      below (request.rebind url octets) requests outcomes none → ended ending →
      Attempted octets (left + 1) attempt sent last requests outcomes (some (.error ending.error))
  | terminal {left attempt : Nat} {sent : UInt32} {last : Option Failure} {url : Url}
      {requests : List Request} {outcomes : List (ExchangeResult σ)} {outcome : ExchangeResult σ} :
      policy.turn? request.url attempt = some url →
      below (request.rebind url octets) requests outcomes (some outcome) →
      policy.isTerminal outcome = true →
      Attempted octets (left + 1) attempt sent last requests outcomes (some outcome)
  | failed {left attempt : Nat} {sent : UInt32} {last : Option Failure} {url : Url}
      {requests later : List Request} {outcomes others : List (ExchangeResult σ)}
      {outcome : ExchangeResult σ} {result : Option (ExchangeResult σ)} :
      policy.turn? request.url attempt = some url →
      below (request.rebind url octets) requests outcomes (some outcome) →
      policy.isTerminal outcome = false →
      Attempted octets left (attempt + 1) (sent + 1) (some (Failure.of outcome)) later others result →
      Attempted octets (left + 1) attempt sent last (requests ++ later) (outcomes ++ others) result

/-- A whole call of a layer: the body is read first, and then attempts are made. -/
inductive Called : Report σ where
  | reading : Called [] [] none
  | ended {ending : ContextEnd} : ended ending → Called [] [] (some (.error ending.error))
  | unreadable {fault : IoError} : request.replayed = .error fault →
      Called [] [] (some (.error (.requestBody fault)))
  | attempted {octets : Option Octets} {requests : List Request} {outcomes : List (ExchangeResult σ)}
      {result : Option (ExchangeResult σ)} : request.replayed = .ok octets →
      Attempted policy below ended request octets (policy.maxAttempts.toNat + 1) 0 0 none requests
        outcomes result →
      Called requests outcomes result

end RetryPolicy

/-- What a call to a stack can come to, as far as the bottom of the stack can tell. -/
def Transport.Called (ended : ContextEnd → Prop) : Transport τ → Request → Report σ
  | .base _ => Request.Exchanged
  | .retrying policy _ inner => policy.Called (inner.Called ended) ended

/-! ### What runs come to -/

/-- A journal has grown by some requests and outcomes. -/
structure Journal.Grown (before after : Journal σ) (requests : List Request)
    (outcomes : List (ExchangeResult σ)) : Prop where
  requests : after.requests = before.requests ++ requests
  outcomes : after.outcomes = before.outcomes ++ outcomes

/-- A report tells of a run: of what it has written to the journal, and of the result if the task is
done. -/
def Report.Tells (report : Report σ) (before after : Journal σ)
    (rest : Task (Noted σ) Event (ExchangeResult (Noted σ))) : Prop :=
  ∃ requests outcomes result, before.Grown after requests outcomes ∧
    rest.result? = result.map (Except.map Response.noted) ∧ report requests outcomes result

/-- Every run of an executor on behalf of a context is as a report tells. -/
def Executor.Tells (base : Executor (Noted σ)) (context : Context) (ended : ContextEnd → Prop)
    (report : Request → Report σ) : Prop :=
  ∀ request world moments rest after, request.context = context →
    Task.Run World.Alongside (base request) world moments rest after →
    (∀ ending, context.SeenEnded moments ending → ended ending) →
    (report request).Tells world.journal after.journal rest

section Tells

variable {before middle after : Journal σ} {report report' : Report σ}
  {rest : Task (Noted σ) Event (ExchangeResult (Noted σ))} {requests : List Request}
  {outcomes : List (ExchangeResult σ)} {result : Option (ExchangeResult σ)}

theorem Journal.Grown.refl (journal : Journal σ) : journal.Grown journal [] [] :=
  ⟨(List.append_nil _).symm, (List.append_nil _).symm⟩

theorem Journal.Grown.trans {later : List Request} {others : List (ExchangeResult σ)}
    (h : before.Grown middle requests outcomes) (h' : middle.Grown after later others) :
    before.Grown after (requests ++ later) (outcomes ++ others) :=
  ⟨by rw [h'.requests, h.requests, List.append_assoc],
    by rw [h'.outcomes, h.outcomes, List.append_assoc]⟩

/-- A run that has left the journal alone and is not over is told of by a report of nothing. -/
theorem Report.tells_nothing (same : after = before) (unfinished : rest.result? = none)
    (h : report [] [] none) : report.Tells before after rest :=
  ⟨[], [], none, same ▸ .refl before, unfinished, h⟩

/-- A run that has left the journal alone and is over is told of by a report of its error. -/
theorem Report.tells_error {error : ClientError} (same : after = before)
    (closed : rest.result? = some (.error error)) (h : report [] [] (some (.error error))) :
    report.Tells before after rest :=
  ⟨[], [], some (.error error), same ▸ .refl before, closed, h⟩

/-- A run in two parts is told of by what is told of both. -/
theorem Report.Tells.prepend (grown : before.Grown middle requests outcomes)
    (h : report.Tells middle after rest)
    (joins : ∀ later others result, report later others result →
      report' (requests ++ later) (outcomes ++ others) result) :
    report'.Tells before after rest := by
  obtain ⟨later, others, result, grown', done, told⟩ := h
  exact ⟨_, _, result, grown.trans grown', done, joins _ _ _ told⟩

theorem Report.Tells.mono (h : report.Tells before after rest)
    (weaker : ∀ requests outcomes result, report requests outcomes result →
      report' requests outcomes result) : report'.Tells before after rest := by
  obtain ⟨requests, outcomes, result, grown, done, told⟩ := h
  exact ⟨requests, outcomes, result, grown, done, weaker _ _ _ told⟩

end Tells

/-- An executor that keeps a journal tells of single exchanges. -/
theorem Executor.tells_recording (base : Executor σ) (context : Context) (ended : ContextEnd → Prop) :
    base.recording.Tells context ended Request.Exchanged := by
  rintro request world moments rest after - run -
  cases run with
  | here => exact Report.tells_nothing rfl rfl .before
  | change run =>
      have quiet := Task.keeps_noted (base request)
      have handed : world.journal.Grown (world.journal.hand world.plain request) [request] [] :=
        ⟨by simp, by simp⟩
      rcases run.apart with ⟨unfinished, _, -, first⟩ | ⟨_, _, outcome, middle, rfl, first, last⟩
      · refine ⟨[request], [], none, ?_, unfinished, .underway⟩
        rw [(quiet.of_run first).1]
        exact handed
      · have same : middle.journal = world.journal.hand world.plain request := (quiet.of_run first).1
        cases last with
        | here => exact ⟨[request], [], none, same ▸ handed, rfl, .underway⟩
        | change last =>
            cases last
            refine ⟨[request], [outcome], some outcome, ?_, rfl, .answered⟩
            rw [World.journal_noted, same]
            exact ⟨by simp, by simp⟩

/-! ### A layer -/

namespace RetryPolicy

variable {policy : RetryPolicy} {sink : Sink} {request : Request} {octets : Option Octets}
  {world after : World (Noted σ)} {moments : List (Moment (Noted σ) Event)}
  {rest : Task (Noted σ) Event (ExchangeResult (Noted σ))}

/-- Between a failed attempt and the next one the journal is left alone; the call may end there with its
context, but only if there is a next attempt. -/
theorem apart_afterFailure {left attempt : Nat} {url : Url} {outcome : ExchangeResult σ}
    {again : Task (Noted σ) Event (ExchangeResult (Noted σ))}
    (run : Task.Run World.Alongside
      ((ExchangeResult.discard (outcome.map Response.noted)).bind fun _ =>
        policy.afterFailure sink request left attempt url (Failure.of outcome) again)
      world moments rest after) :
    (after.journal = world.journal ∧ (rest.result? = none ∨ 0 < left ∧
      ∃ ending, request.context.SeenEnded moments ending ∧
        rest.result? = some (.error ending.error))) ∨
      ∃ middle late, middle.journal = world.journal ∧ late ⊆ moments ∧
        Task.Run World.Alongside again middle late rest after := by
  have discards : (ExchangeResult.discard (outcome.map Response.noted)).Keeps World.SameJournal
      fun _ => True := by
    cases outcome with
    | error error => trivial
    | ok response => exact Task.keeps_release response.held.keeps_noted
  rcases run.apart with ⟨unfinished, _, -, first⟩ | ⟨early, late, _, middle, rfl, first, second⟩
  · exact .inl ⟨(discards.of_run first).1, .inl unfinished⟩
  · have same := (discards.of_run first).1
    cases left with
    | zero => exact .inr ⟨middle, late, same, List.subset_append_right _ _, second⟩
    | succ left =>
        have quiet : ∀ past : List (Moment (Noted σ) Event),
            (policy.pause sink request attempt url (Failure.of outcome)).Ensures World.Alongside
              (fun _ later => later.journal = world.journal)
              (fun past waited _ => ∀ ending, waited = .error ending →
                request.context.SeenEnded past ending) past middle := by
          intro past
          have still : (Task.sleep .none (policy.delayAfter attempt) : Task (Noted σ) Event Unit).Keeps
              World.SameJournal fun _ => True :=
            Task.keeps_sleep (Cleanup.keeps_none World.sameJournal_refl) _
          refine .bind (ensures_logRetry (fun _ => same) fun past => ?_)
          refine Context.ensures_run_quiet still (fun _ _ kept => kept.trans same) ?_ nofun
          rintro past _ later - seen _ ⟨⟩
          exact seen
        rw [afterFailure_succ] at second
        rcases second.apart_proceed with ⟨unfinished, _, -, pause⟩ | ⟨ending, closed, pause⟩ |
          ⟨early', late', _, middle', rfl, pause, third⟩
        · exact .inl ⟨((quiet []).of_run pause).now, .inl unfinished⟩
        · have waited := (quiet []).of_run pause
          have seen := (waited.2 ending rfl).mono (List.subset_append_right early _)
          exact .inl ⟨waited.now, .inr ⟨Nat.succ_pos _, ending, seen, closed⟩⟩
        · refine .inr ⟨middle', late', ((quiet []).of_run pause).now, ?_, third⟩
          exact List.Subset.trans (List.subset_append_right _ _) (List.subset_append_right _ _)

/-- While the body of a request is read, the journal is left alone. -/
theorem ensures_reading_body {body : Body} (hbody : request.body = some body)
    (past : List (Moment (Noted σ) Event)) (world : World (Noted σ)) :
    (request.context.run .none (body.collect .none)).Ensures World.Alongside
      (fun _ later => later.journal = world.journal)
      (fun past result _ => match result with
        | .error ending => request.context.SeenEnded past ending
        | .ok read => request.replayed = read.map some) past world := by
  have reads : (body.collect .none : Task (Noted σ) Event ChunkResult).Keeps World.SameJournal
      fun result => result = body.content :=
    Body.keeps_collect (Cleanup.keeps_none World.sameJournal_refl) body
  refine Context.ensures_run_quiet reads (fun _ _ same => same) (fun _ _ _ _ seen => seen) ?_
  intro past read later _ content
  rw [Request.replayed, hbody, content]

section Layer

variable {base : Executor σ} {base' : Executor (Noted σ)} {context : Context}
  {ended : ContextEnd → Prop} {below : Request → Report σ}
  (related : base.RecordedBy base') (tells : base'.Tells context ended below)

include related tells

/-- An exchange under a context: the request was not handed over, and perhaps the context had ended, or
the exchange is where its report tells, or it was abandoned there. -/
theorem tells_exchange (hcontext : request.context = context)
    {rest : Task (Noted σ) Event (Except ContextEnd (ExchangeResult (Noted σ)))}
    (run : Task.Run World.Alongside (context.run .none (base' request)) world moments rest after)
    (sees : ∀ ending, context.SeenEnded moments ending → ended ending) :
    (after.journal = world.journal ∧ (rest.result? = none ∨
      ∃ ending, ended ending ∧ rest.result? = some (.error ending))) ∨
    ∃ requests outcomes result, world.journal.Grown after.journal requests outcomes ∧
      below request requests outcomes result ∧
      (rest.result? = result.map (fun outcome => .ok (outcome.map Response.noted)) ∨
        result = none ∧ ∃ ending, ended ending ∧ rest.result? = some (.error ending)) := by
  rcases Task.Run.stands_run (related request) run with ⟨same, unfinished | ⟨ending, seen, closed⟩⟩ | stands
  · exact .inl ⟨same, .inl unfinished⟩
  · exact .inl ⟨same, .inr ⟨ending, sees ending seen, closed⟩⟩
  · refine .inr ?_
    cases stands with
    | going inner subset same result =>
        obtain ⟨requests, outcomes, outcome, grown, done, told⟩ :=
          tells request _ _ _ _ hcontext inner fun ending seen =>
            sees ending (seen.mono subset)
        refine ⟨requests, outcomes, outcome, same ▸ grown, told, .inl ?_⟩
        rw [result, done, Option.map_map]
        rfl
    | abandoned inner subset same unfinished seen result =>
        obtain ⟨requests, outcomes, outcome, grown, done, told⟩ :=
          tells request _ _ _ _ hcontext inner fun ending seen =>
            sees ending (seen.mono subset)
        rw [unfinished] at done
        obtain rfl : outcome = none := by simpa using done.symm
        exact ⟨requests, outcomes, none, same ▸ grown, told, .inr ⟨rfl, _, sees _ seen, result⟩⟩

/-- An attempt that has a target comes to what its report tells, if what follows it does. -/
theorem tells_turn {left attempt : Nat} {sent : UInt32} {last : Option Failure} {url : Url}
    (hcontext : request.context = context) (turn : policy.turn? request.url attempt = some url)
    (next : ∀ failure world moments rest after,
      Task.Run World.Alongside
        (policy.attempts sink base' (request.withBody none) octets left (attempt + 1) (sent + 1)
          (some failure)) world moments rest after →
      (∀ ending, context.SeenEnded moments ending → ended ending) →
      (policy.Attempted below ended request octets left (attempt + 1) (sent + 1) (some failure)).Tells
        world.journal after.journal rest)
    (run : Task.Run World.Alongside
      ((context.run .none (base' (request.rebind url octets))).proceed
        (policy.settle sink (request.withBody none) left attempt url fun failure =>
          policy.attempts sink base' (request.withBody none) octets left (attempt + 1) (sent + 1)
            (some failure))) world moments rest after)
    (sees : ∀ ending, context.SeenEnded moments ending → ended ending) :
    (policy.Attempted below ended request octets (left + 1) attempt sent last).Tells world.journal
      after.journal rest := by
  have exchange := @tells_exchange σ (request.rebind url octets)
  rcases run.apart_proceed with ⟨unfinished, first, hfirst, run⟩ | ⟨ending, closed, run⟩ |
    ⟨early, late, value, middle, rfl, first, onward⟩
  · rcases exchange related tells hcontext run sees with ⟨same, _⟩ |
      ⟨requests, outcomes, result, grown, told, done | ⟨-, ending, -, done⟩⟩
    · exact Report.tells_nothing same unfinished .underway
    · obtain rfl : result = none := by simpa [hfirst] using done.symm
      exact ⟨requests, outcomes, none, grown, unfinished, .exchanging turn told⟩
    · rw [hfirst] at done
      cases done
  · rcases exchange related tells hcontext run sees with ⟨same, done | ⟨ending', h, done⟩⟩ |
      ⟨requests, outcomes, result, grown, told, done | ⟨rfl, ending', h, done⟩⟩
    · cases done
    · cases done
      exact Report.tells_error same closed (.ended h)
    · cases result <;> cases done
    · cases done
      exact ⟨requests, outcomes, some (.error ending.error), grown, closed, .abandoned turn told h⟩
  · have later : ∀ ending, context.SeenEnded late ending → ended ending :=
      fun ending seen => sees ending (seen.mono (List.subset_append_right _ _))
    rcases exchange related tells hcontext first
        (fun ending seen => sees ending (seen.append late)) with
      ⟨same, done | ⟨ending, h, done⟩⟩ |
      ⟨requests, outcomes, result, grown, told, done | ⟨-, ending, h, done⟩⟩
    · cases done
    · cases done
    · cases result with
      | none => cases done
      | some outcome =>
          cases done
          cases terminal : policy.isTerminal outcome with
          | true =>
              rw [settle_of_isTerminal (by simpa using terminal)] at onward
              cases onward
              exact ⟨requests, outcomes, some outcome, grown, rfl, .terminal turn told terminal⟩
          | false =>
              rw [settle_of_not_isTerminal (by simpa using terminal), Failure.of_map_noted] at onward
              rcases apart_afterFailure onward with ⟨same, unfinished | ⟨more, ending, seen, closed⟩⟩ |
                ⟨start, late', same, subset, again⟩
              · refine Report.Tells.prepend grown ?_ fun _ _ _ => .failed turn told terminal
                exact Report.tells_nothing same unfinished .underway
              · obtain ⟨left, rfl⟩ := Nat.exists_eq_succ_of_ne_zero (Nat.ne_of_gt more)
                have h : ended ending := later ending (hcontext ▸ seen)
                refine Report.Tells.prepend grown ?_ fun _ _ _ => .failed turn told terminal
                exact Report.tells_error same closed (.ended h)
              · have last := next _ _ _ _ _ again fun ending seen => later ending (seen.mono subset)
                rw [same] at last
                exact last.prepend grown fun _ _ _ => .failed turn told terminal
    · cases done

/-- The attempts of a call come to what their report tells. -/
theorem tells_attempts {left attempt : Nat} {sent : UInt32} {last : Option Failure}
    (hcontext : request.context = context)
    (run : Task.Run World.Alongside
      (policy.attempts sink base' (request.withBody none) octets left attempt sent last) world moments
      rest after)
    (sees : ∀ ending, context.SeenEnded moments ending → ended ending) :
    (policy.Attempted below ended request octets left attempt sent last).Tells world.journal
      after.journal rest := by
  induction left generalizing attempt sent last world moments rest after with
  | zero =>
      rw [attempts_zero] at run
      cases run
      exact Report.tells_error rfl rfl .exhausted
  | succ left ih =>
      rw [attempts_succ] at run
      rcases run.apart_proceed with ⟨unfinished, _, -, check⟩ | ⟨ending, closed, check⟩ |
        ⟨early, late, _, middle, rfl, check, onward⟩
      · obtain ⟨same, -⟩ := check.of_check
        exact Report.tells_nothing (congrArg World.journal same) unfinished .underway
      · obtain ⟨same, seen⟩ := check.of_check
        have h := sees ending (hcontext ▸ seen ending rfl)
        exact Report.tells_error (congrArg World.journal same) closed (.ended h)
      · obtain ⟨same, -⟩ := check.of_check
        have later : ∀ ending, context.SeenEnded late ending → ended ending :=
          fun ending seen => sees ending (seen.mono (List.subset_append_right _ _))
        have turn := toOption_target policy request.url attempt
        subst same
        cases htarget : policy.target request.url (policy.slot attempt) with
        | error cause =>
            rw [htarget] at turn
            simp only [Request.withBody, htarget] at onward
            cases onward with
            | here => exact Report.tells_nothing rfl rfl .underway
            | emit onward =>
                refine (ih onward fun ending seen =>
                  later ending (seen.mono (List.subset_cons_self _ _))).mono ?_
                exact fun _ _ _ => .skipped turn.symm
        | ok url =>
            rw [htarget] at turn
            simp only [Request.withBody, htarget] at onward
            exact tells_turn related tells hcontext turn.symm
              (fun _ _ _ _ _ run sees => ih run sees) (hcontext ▸ onward) later

/-- A retrying executor tells the reports of its layer if the executor beneath it tells its own. -/
theorem tells_retrying (policy : RetryPolicy) (sink : Sink) :
    (policy.retrying sink base').Tells context ended (policy.Called below ended) := by
  rintro request world moments rest after hcontext run sees
  have start : ∀ octets world moments, request.replayed = .ok octets →
      Task.Run World.Alongside
        (policy.attempts sink base' (request.withBody none) octets (policy.maxAttempts.toNat + 1) 0 0
          none) world moments rest after →
      (∀ ending, context.SeenEnded moments ending → ended ending) →
      Report.Tells (policy.Called below ended request) world.journal after.journal rest :=
    fun octets world moments readable run sees =>
      (tells_attempts related tells hcontext run sees).mono fun _ _ _ => .attempted readable
  cases hbody : request.body with
  | none =>
      rw [retrying_of_none hbody] at run
      exact start none world moments (by rw [Request.replayed, hbody]) run sees
  | some body =>
      have quiet := ensures_reading_body hbody [] world
      rw [retrying_of_some hbody] at run
      rcases run.apart_proceed with ⟨unfinished, _, -, reading⟩ | ⟨ending, closed, reading⟩ |
        ⟨early, late, read, middle, rfl, reading, onward⟩
      · exact Report.tells_nothing (quiet.of_run reading).now unfinished .reading
      · have seen : request.context.SeenEnded moments ending := (quiet.of_run reading).2
        exact Report.tells_error (quiet.of_run reading).now closed (.ended (sees ending (hcontext ▸ seen)))
      · have same := (quiet.of_run reading).now
        have replayed : request.replayed = read.map some := (quiet.of_run reading).2
        have later : ∀ ending, context.SeenEnded late ending → ended ending :=
          fun ending seen => sees ending (seen.mono (List.subset_append_right _ _))
        cases read with
        | error fault =>
            cases onward
            exact Report.tells_error same rfl (.unreadable replayed)
        | ok octets =>
            have last := start (some octets) middle late replayed onward later
            rwa [same] at last

end Layer
end RetryPolicy

/-- Every run of a call to a stack is as one of the reports of the stack tells. -/
theorem Transport.tells_execute (run : τ → Executor σ) (context : Context) (ended : ContextEnd → Prop)
    (stack : Transport τ) :
    (stack.execute fun sender => (run sender).recording).Tells context ended (stack.Called ended) := by
  induction stack with
  | base sender => exact (run sender).tells_recording context ended
  | retrying policy sink inner ih =>
      exact RetryPolicy.tells_retrying (recordedBy_execute run inner) ih policy sink

/-- What a run of a call has written to an empty journal is as a report of the stack tells, with the
result if the call is over. -/
theorem Transport.called_of_run {run : τ → Executor σ} {stack : Transport τ} {request : Request}
    {world after : World (Noted σ)} {moments : List (Moment (Noted σ) Event)}
    {left : Task (Noted σ) Event (ExchangeResult (Noted σ))} (ended : ContextEnd → Prop)
    (fresh : world.journal = .empty)
    (runs : Task.Run World.Alongside (stack.execute (fun sender => (run sender).recording) request)
      world moments left after)
    (sees : ∀ ending, request.context.SeenEnded moments ending → ended ending) :
    ∃ result, left.result? = result.map (Except.map Response.noted) ∧
      stack.Called ended request after.journal.requests after.journal.outcomes result := by
  obtain ⟨requests, outcomes, result, grown, done, told⟩ :=
    stack.tells_execute run request.context ended request _ _ _ _ rfl runs sees
  have sent : after.journal.requests = requests := by rw [grown.requests, fresh]; rfl
  have given : after.journal.outcomes = outcomes := by rw [grown.outcomes, fresh]; rfl
  rw [sent, given]
  exact ⟨result, done, told⟩

end ResilientHttp

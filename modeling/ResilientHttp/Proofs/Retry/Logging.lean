import ResilientHttp.Proofs.Retry.Tale
import ResilientHttp.Proofs.Site

/-!
What a retrying call tells. Every step of the loop tells what is to be told (`Hears`, `Tale`), and so does
every run of a call.

* `recounts_afterFailure`, `recounts_settle` — what follows a failed attempt, and any exchange.
* `recounts_attempt` — one attempt, if the next one tells what is to be told wherever this one may lead.
* `recounts_attempts`, `recounts_retrying` — the loop, by induction, and the whole call.
* `told_of_run` — the law of every run.
-/

namespace ResilientHttp.RetryPolicy

variable {σ : Type}

/-- A part of a call tells what is to be told. -/
def Recounts (policy : RetryPolicy) (sink : Sink) (request : Request)
    (part : Task (Noted σ) Event (ExchangeResult (Noted σ))) (past : List (Moment (Noted σ) Event))
    (world : World (Noted σ)) : Prop :=
  part.Ensures World.Alongside (fun past after => policy.Hears sink request.url after.journal past)
    (fun past _ after => policy.ToldAll sink request past after.journal) past world

/-- Where a call stands when an attempt is due, and what it has told. -/
structure Due (policy : RetryPolicy) (sink : Sink) (request : Request) (octets : Option Octets)
    (attempt : Nat) (past : List (Moment (Noted σ) Event)) (world : World (Noted σ)) : Prop where
  under : policy.Underway request octets attempt world.journal
  tale : policy.Tale sink request.url attempt world.journal.answered.length world.journal past

section Loop

variable {policy : RetryPolicy} {sink : Sink} {base : Executor σ} {request : Request}
  {octets : Option Octets} {journal : Journal σ} {left attempt : Nat} {url : Url}
  {past : List (Moment (Noted σ) Event)} {world : World (Noted σ)}

/-- After an attempt that is not the last one, the record of the retry is logged if the policy logs. -/
theorem retryLog_of_lt (policy : RetryPolicy) (sink : Sink) (octets : Option Octets) (attempt : Nat)
    (url : Url) (outcome : ExchangeResult σ) (lt : attempt < policy.maxAttempts.toNat) :
    policy.retryLog sink attempt (request.rebind url octets) outcome =
      if policy.logging = true then
        [sink.write (policy.retryRecord (request.withBody none).method url attempt
          (policy.slot attempt) (Failure.of outcome))]
      else [] := by
  have cause : (Failure.of outcome).text = outcome.cause := by cases outcome <;> rfl
  simp only [retryLog, lt, and_true, retryRecord, cause]
  rfl

theorem Due.hears (h : policy.Due sink request octets attempt past world)
    (le : attempt ≤ policy.maxAttempts.toNat + 1) : policy.Hears sink request.url world.journal past :=
  h.tale.hears_underway h.under le (h.under.length_answered ▸ Nat.le_succ _)

theorem Due.look (h : policy.Due sink request octets attempt past world)
    (due : attempt ≤ policy.maxAttempts.toNat) :
    policy.Due sink request octets attempt (past ++ [⟨world, none⟩]) world :=
  ⟨h.under, h.tale.silent due (.single ⟨rfl, rfl⟩)⟩

/-- After a failed attempt the retry is logged, and the call waits for the next attempt. -/
theorem recounts_afterFailure {outcome : ExchangeResult σ} {rested : Nat}
    {again : Task (Noted σ) Event (ExchangeResult (Noted σ))}
    (total : attempt + left = policy.maxAttempts.toNat)
    (now : policy.Hears sink request.url world.journal past)
    (steady : ∀ told, told <+: policy.retryLog sink attempt (request.rebind url octets) outcome →
      policy.Hears sink request.url world.journal
        (past ++ told.map fun event => ⟨world, some event⟩))
    (tale : policy.Tale sink request.url (attempt + 1) rested world.journal
      (past ++ (policy.retryLog sink attempt (request.rebind url octets) outcome).map fun event =>
        ⟨world, some event⟩))
    (under : policy.Underway request octets (attempt + 1) world.journal)
    (answered : world.journal.answered.length = rested + 1)
    (newest : ∀ {number sent known}, policy.Made request.url world.journal rested number sent known →
      number = attempt ∧ known.2.discarded known.1 = world.plain)
    (next : ∀ past after, policy.Due sink request octets (attempt + 1) past after →
      policy.Recounts sink request again past after) :
    policy.Recounts sink request
      (policy.afterFailure sink (request.withBody none) left attempt url (Failure.of outcome) again)
      past world := by
  have handed : world.journal.handed.length = rested + 1 := under.length_answered ▸ answered
  cases left with
  | zero =>
      have last : policy.retryLog sink attempt (request.rebind url octets) outcome = [] :=
        if_neg (by omega)
      rw [last, List.map_nil, List.append_nil] at tale
      rw [afterFailure_zero]
      refine next past world ⟨under, ?_⟩
      rw [answered]
      exact tale.unrested fun made => Nat.le_of_eq ((newest made).1 ▸ total).symm
  | succ left =>
      have lt : attempt < policy.maxAttempts.toNat := by omega
      have le : attempt + 1 ≤ policy.maxAttempts.toNat + 1 := Nat.le_of_lt (Nat.succ_lt_succ lt)
      rw [retryLog_of_lt policy sink octets attempt url outcome lt] at steady tale
      have wait : ∀ past, policy.Tale sink request.url (attempt + 1) rested world.journal past →
          policy.Recounts sink request
            (((request.withBody none).context.run .none
              (Task.sleep .none (policy.delayAfter attempt))).proceed fun _ => again) past world := by
        intro past tale
        refine .proceed (Context.ensures_run_sleep _ ?_ ?_ ?_)
        · intro now after same since
          rw [same]
          exact (tale.silent lt since).hears_underway under le (Nat.le_of_eq handed)
        · exact fun now ending after seen => .inl ⟨ending, seen⟩
        · intro now after same since long
          refine next _ after ⟨same ▸ under, ?_⟩
          rw [same, answered]
          exact (tale.silent lt since).rest lt ⟨handed, answered⟩ newest same long
      rw [afterFailure_succ, Task.proceed, pause, Task.bind_assoc, logRetry]
      cases logging : policy.logging with
      | true =>
          simp only [logging, if_true] at steady tale ⊢
          have told := steady _ (List.prefix_refl _)
          exact ⟨now, wait _ tale⟩
      | false =>
          simp only [logging, Bool.false_eq_true, if_false, List.map_nil, List.append_nil] at tale ⊢
          exact wait _ tale

/-- What follows an exchange is told, and then the next attempt is due. -/
theorem recounts_settle {handed : World σ} {outcome : ExchangeResult σ}
    {again : Failure → Task (Noted σ) Event (ExchangeResult (Noted σ))}
    (total : attempt + left = policy.maxAttempts.toNat)
    (under : policy.Underway request octets attempt journal)
    (turn : policy.turn? request.url attempt = some url)
    (live : request.context.endedIn? handed = none)
    (here : world.journal =
      (journal.hand handed (request.rebind url octets)).answer world.plain outcome)
    (tale : policy.Tale sink request.url (attempt + 1) journal.answered.length
      (journal.hand handed (request.rebind url octets)) past)
    (next : ∀ failure past after, policy.Due sink request octets (attempt + 1) past after →
      policy.Recounts sink request (again failure) past after) :
    policy.Recounts sink request
      (policy.settle sink (request.withBody none) left attempt url again
        (outcome.map Response.noted)) past world := by
  have asked := under.asked turn (by omega) handed (request.rebind url octets)
  cases terminal : policy.isTerminal outcome with
  | true =>
      rw [settle_of_isTerminal (by simpa using terminal)]
      constructor
      · have hears := asked.hears_told tale here [] (fun h => by simp [terminal] at h) (fun _ => rfl)
          List.nil_prefix
        rw [← here, List.map_nil, List.append_nil] at hears
        exact hears
      · refine .inr fun made failed => ?_
        rw [here] at made
        rcases asked.made made with made | ⟨-, -, -, rfl⟩
        · exact asked.follows tale made True
        · rw [terminal] at failed
          cases failed
  | false =>
      let after : World (Noted σ) := (outcome.discarded world.plain).noted world.journal
      have same : after.journal =
          (journal.hand handed (request.rebind url octets)).answer world.plain outcome := here
      have plain : after.plain = outcome.discarded world.plain := rfl
      have ends : ∀ told, policy.isTerminal outcome = true → told = ([] : List Event) := by
        intro told h
        rw [terminal] at h
        cases h
      have steady : ∀ told,
          told <+: outcome.released ++
            policy.retryLog sink attempt (request.rebind url octets) outcome →
          policy.Hears sink request.url after.journal
            (past ++ told.map fun event => ⟨after, some event⟩) := by
        intro told begins
        rw [same]
        exact asked.hears_told tale same told (fun _ => plain) (ends told) begins
      have now : policy.Hears sink request.url world.journal past := by
        have nothing := steady [] List.nil_prefix
        rwa [List.map_nil, List.append_nil] at nothing
      rw [settle_of_not_isTerminal (by simpa using terminal), Failure.of_map_noted]
      refine .bind (ensures_discard_told outcome now (fun told begins => ?_) ?_)
      · exact steady told (begins.trans (List.prefix_append _ _))
      · have answered : after.journal.answered.length = journal.answered.length + 1 := by
          rw [same]
          exact List.length_append
        refine recounts_afterFailure total ?_ (fun told begins => ?_) ?_ ?_ answered ?_ (next _)
        · exact steady _ (List.prefix_append _ _)
        · rw [List.append_assoc, ← List.map_append]
          exact steady _ ((List.prefix_append_right_inj _).mpr begins)
        · rw [List.append_assoc, ← List.map_append]
          have told := asked.tale_answer tale same plain
          rwa [← same] at told
        · rw [same]
          exact under.fail turn live terminal
        · intro number sent known made
          rw [same] at made
          rcases asked.made made with made | ⟨-, number, -, rfl⟩
          · exact absurd made.lt (Nat.lt_irrefl _)
          · exact ⟨number, rfl⟩

/-- One attempt tells what is to be told if the next one does, wherever this one may lead. -/
theorem recounts_attempt {sent : UInt32} {last : Option Failure}
    (total : attempt + left = policy.maxAttempts.toNat)
    (due : policy.Due sink request octets attempt past world)
    (next : ∀ sent last past (after : World (Noted σ)),
      policy.Due sink request octets (attempt + 1) past after →
      policy.Recounts sink request
        (policy.attempts sink base.recording (request.withBody none) octets left (attempt + 1) sent
          last) past after) :
    policy.Recounts sink request
      (policy.attempts sink base.recording (request.withBody none) octets (left + 1) attempt sent last)
      past world := by
  have le : attempt ≤ policy.maxAttempts.toNat := by omega
  have under := due.under
  have looked := due.look le
  have looked' := looked.look le
  have below := Nat.le_succ_of_le le
  rw [attempts_succ]
  refine .proceed (Context.ensures_check_told (due.hears below) (looked.hears below)
    (fun now ending after seen => .inl ⟨ending, seen⟩) ?_)
  dsimp only
  cases target : policy.target (request.withBody none).url (policy.slot attempt) with
  | error cause =>
      have empty : policy.turn? request.url attempt = none := by
        rw [← toOption_target]
        exact congrArg Except.toOption target
      have passed := looked.tale.skip le under target rfl
      exact ⟨looked.hears below, next _ _ _ world ⟨under.skip empty, passed⟩⟩
  | ok url =>
      have turn : policy.turn? request.url attempt = some url := by
        rw [← toOption_target]
        exact congrArg Except.toOption target
      have lt : attempt < policy.maxAttempts.toNat + 1 := by omega
      have asked : ∀ now, Since (fun moment : Moment (Noted σ) Event => moment.world.journal =
            world.journal.hand world.plain (request.rebind url octets))
            (past ++ [⟨world, none⟩] ++ [⟨world, none⟩]) now →
          policy.Tale sink request.url (attempt + 1) world.journal.answered.length
            (world.journal.hand world.plain (request.rebind url octets)) now :=
        fun now since => looked'.tale.hand le target under.length_answered since
      refine .proceed (Context.ensures_run_exchange base _ (looked.hears below)
        (looked'.hears below) ?_ (fun now ending after _ seen => .inl ⟨ending, seen⟩) ?_)
      · intro now after _ same since
        rw [same]
        exact (under.asked turn lt world.plain _).hears (asked now since)
      · intro now outcome after live same since
        have alive : request.context.endedIn? world.plain = none := live
        have settles := recounts_settle total under turn alive same (asked now since) fun failure =>
          next (sent + 1) (some failure)
        exact ⟨settles.now, settles⟩

/-- The attempts of a call, from the middle on. -/
theorem recounts_attempts {sent : UInt32} {last : Option Failure}
    (total : attempt + left = policy.maxAttempts.toNat + 1)
    (due : policy.Due sink request octets attempt past world) :
    policy.Recounts sink request
      (policy.attempts sink base.recording (request.withBody none) octets left attempt sent last)
      past world := by
  induction left generalizing attempt sent last past world with
  | zero =>
      obtain rfl : attempt = policy.maxAttempts.toNat + 1 := total
      have le := Nat.le_refl (policy.maxAttempts.toNat + 1)
      rw [attempts_zero]
      refine ⟨due.hears le, .inr ?_⟩
      exact fun made _ => due.tale.follows made le (fun _ => rfl) fun _ => made.lt
  | succ left ih =>
      refine recounts_attempt (by omega) due ?_
      intro sent last past after due
      exact ih (by omega) due

/-- A whole call tells what is to be told, if nothing was handed over before. -/
theorem recounts_retrying (fresh : world.journal = .empty) :
    policy.Recounts sink request (policy.retrying sink base.recording request) [] world := by
  have start : ∀ (octets : Option Octets) (past : List (Moment (Noted σ) Event))
      (after : World (Noted σ)), after.journal = .empty →
      Since (fun moment => moment.world.journal = Journal.empty ∧ moment.event = none) [] past →
      policy.Due sink request octets 0 past after := by
    intro octets past after empty since
    constructor
    · rw [empty]
      exact underway_empty policy request octets
    · rw [empty]
      exact tale_empty.silent (Nat.zero_le _) since
  have total := Nat.zero_add (policy.maxAttempts.toNat + 1)
  cases hbody : request.body with
  | none =>
      rw [retrying_of_none hbody]
      exact recounts_attempts total (start none [] world fresh (.refl _ _))
  | some body =>
      have quiet : ∀ now (after : World (Noted σ)), after.journal = world.journal →
          Since (fun moment => moment.world.journal = world.journal ∧ moment.event = none) [] now →
          policy.Hears sink request.url after.journal now := by
        intro now after same since
        rw [fresh] at since
        exact (start none now after (same.trans fresh) since).hears (Nat.zero_le _)
      have reads : (body.collect .none : Task (Noted σ) Event ChunkResult).Keeps World.SameJournal
          fun result => result = body.content :=
        Body.keeps_collect (Cleanup.keeps_none World.sameJournal_refl) body
      rw [retrying_of_some hbody]
      refine .proceed (Context.ensures_run_silent reads body.silent_collect quiet
        (fun now ending after seen => .inl ⟨ending, seen⟩) ?_)
      intro now result after same since _
      cases result with
      | error fault =>
          refine ⟨quiet now after same since, .inr fun made => ?_⟩
          have none := made.lt
          rw [same, fresh] at none
          exact absurd none (Nat.not_lt_zero _)
      | ok octets =>
          rw [fresh] at since
          exact recounts_attempts total (start (some octets) now after (same.trans fresh) since)

end Loop

/-- What is written to a sink is not the trace of an attempt that passes. -/
theorem write_ne_skipTrace (sink : Sink) (record : LogRecord) (slot : Nat) (cause : Url.ParseError) :
    sink.write record ≠ .trace (skipTrace slot cause) := by
  intro same
  have isRecord := sink.isRecord_write record
  rw [same, Sink.isRecord_skipTrace] at isRecord
  cases isRecord

/-- The attempts that send something come in order. -/
theorem numbers_lt (policy : RetryPolicy) (own : Url) {place attempt next : Nat}
    (first : (policy.numbers own)[place]? = some attempt)
    (second : (policy.numbers own)[place + 1]? = some next) :
    attempt < next ∧ next ≤ policy.maxAttempts.toNat := by
  have ascending : (policy.numbers own).Pairwise (· < ·) := List.pairwise_lt_range.filter _
  obtain ⟨inBounds, rfl⟩ := List.getElem?_eq_some_iff.mp first
  obtain ⟨inBounds', rfl⟩ := List.getElem?_eq_some_iff.mp second
  refine ⟨List.pairwise_iff_getElem.mp ascending _ _ inBounds inBounds' (Nat.lt_succ_self place), ?_⟩
  have mem := (List.mem_filter.mp (List.getElem_mem inBounds')).1
  exact Nat.le_of_lt_succ (List.mem_range.mp mem)

theorem OnSchedule.length_le {policy : RetryPolicy} {request : Request} {journal : Journal σ}
    (h : policy.OnSchedule request journal) :
    journal.handed.length ≤ (policy.numbers request.url).length := by
  have le := h.urls.length_le
  simp only [Journal.requests, List.length_map, rotation] at le
  rwa [numbers, length_sending]

section Run

variable {policy : RetryPolicy} {sink : Sink} {base : Executor σ} {request : Request}
  {world after : World (Noted σ)} {moments : List (Moment (Noted σ) Event)}
  {left : Task (Noted σ) Event (ExchangeResult (Noted σ))} (fresh : world.journal = .empty)

include fresh

theorem recounts_of_run
    (run : Task.Run World.Alongside (policy.retrying sink base.recording request) world moments left
      after) : policy.Recounts sink request left moments after :=
  Task.Ensures.of_run (recounts_retrying fresh) run

/-- Every outcome is that of an attempt. -/
theorem exists_made_of_run {place : Nat} {known : World σ × ExchangeResult σ}
    (run : Task.Run World.Alongside (policy.retrying sink base.recording request) world moments left
      after) (answered : after.journal.answered[place]? = some known) :
    ∃ attempt sent, policy.Made request.url after.journal place attempt sent known := by
  have hears := (recounts_of_run fresh run).now
  have numbered := (conforms_of_run fresh run).now.length_le
  have inBounds := (List.getElem?_eq_some_iff.mp answered).1
  have handed : place < after.journal.handed.length := Nat.lt_of_lt_of_le inBounds hears.answered
  exact ⟨_, _, List.getElem?_eq_getElem (Nat.lt_of_lt_of_le handed numbered),
    List.getElem?_eq_getElem handed, answered⟩

/-- When a call is over whose context did not end it, all was told that follows a failed attempt. -/
theorem follows_of_run {place attempt : Nat} {sent : World σ × Request}
    {known : World σ × ExchangeResult σ} {result : ExchangeResult (Noted σ)}
    (run : Task.Run World.Alongside (policy.retrying sink base.recording request) world moments
      (.done result) after) (live : ∀ ending, ¬ request.context.SeenEnded moments ending)
    (made : policy.Made request.url after.journal place attempt sent known)
    (failed : policy.isTerminal known.2 = false) :
    policy.Follows sink request.url place attempt sent known True (interlude (place + 1) moments) := by
  rcases (recounts_of_run fresh run).2 with ⟨ending, seen⟩ | all
  · exact absurd seen (live ending)
  · exact all made failed

/-- What a call tells by itself, in every run. Before its first request it tells nothing. After an outcome
that ends it, it tells nothing. After any other one it tells, before the next request: in the world in which
the outcome has been discarded and nothing else has happened, what is told of that, and then the log event of
the retry, if the policy logs and allows another attempt. Only then it waits, and later it tells only of the
attempts that pass. All of it has been told when the next request is handed over, and when the call is over
and its context did not end it. Where another request follows, another attempt is allowed. What is told of an
attempt that passes is nothing that goes to the sink. -/
theorem told_of_run
    (run : Task.Run World.Alongside (policy.retrying sink base.recording request) world moments left
      after) :
    (∀ moment ∈ moments, moment.world.journal.handed = [] → moment.event = none) ∧
    (∀ place known, after.journal.answered[place]? = some known →
      ∃ attempt sent, (policy.numbers request.url)[place]? = some attempt ∧
        after.journal.handed[place]? = some sent ∧
        (policy.isTerminal known.2 = true → interlude (place + 1) moments = []) ∧
        (policy.isTerminal known.2 = false →
          policy.Follows sink request.url place attempt sent known
            (place + 1 < after.journal.handed.length ∨
              (∃ result, left = .done result) ∧
                ∀ ending, ¬ request.context.SeenEnded moments ending)
            (interlude (place + 1) moments)) ∧
        (place + 1 < after.journal.handed.length → attempt < policy.maxAttempts.toNat)) ∧
    ∀ record slot cause, sink.write record ≠ .trace (skipTrace slot cause) := by
  have hears := (recounts_of_run fresh run).now
  refine ⟨hears.before, fun place known answered => ?_, write_ne_skipTrace sink⟩
  obtain ⟨attempt, sent, made⟩ := exists_made_of_run fresh run answered
  refine ⟨attempt, sent, made.number, made.handed, hears.terminal made, fun failed => ?_, fun more => ?_⟩
  · refine (hears.failed made failed).or ?_
    rintro ⟨⟨result, rfl⟩, live⟩
    exact follows_of_run fresh run live made failed
  · have numbered := (conforms_of_run fresh run).now.length_le
    have later := List.getElem?_eq_getElem (Nat.lt_of_lt_of_le more numbered)
    have order := policy.numbers_lt request.url made.number later
    omega

end Run

/-- A retry that is logged, with an endpoint on its way that is no URL. -/
theorem told_recovering :
    let policy := ((constant 2 .zero).withFailover ["nowhere"]).withLogging true
    let call := policy.retrying (.named "log") Site.recoveringExecutor.recording (.toSite none ⟨0, none⟩)
    let record : LogRecord :=
      { level := .warn
        message := "retrying request"
        fields :=
          [("url", "http://site.test/"), ("method", "POST"), ("attempt", "1"), ("failover_index", "1"),
           ("cause", "status 503")] }
    (interlude 1 (call.moments (Site.recovering.world.noted .empty))).filterMap Moment.event =
      [.release "site" ⟨503⟩, .log "log" record, .trace (skipTrace 1 .relativeWithoutBase)] := by
  obtain ⟨-, told, -⟩ :=
    @told_of_run Site (((constant 2 .zero).withFailover ["nowhere"]).withLogging true) (.named "log")
      Site.recoveringExecutor (.toSite none ⟨0, none⟩) (Site.recovering.world.noted .empty) _ _ _ rfl
      (Task.run_moments World.alongside_allowsWaiting rfl)
  obtain ⟨attempt, sent, number, handed, -, failed, -⟩ := told 0 _ rfl
  obtain rfl : 0 = attempt := Option.some.inj number
  obtain rfl := Option.some.inj handed
  exact (failed rfl).whole (.inl (by decide))

end ResilientHttp.RetryPolicy

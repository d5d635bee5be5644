import ResilientHttp.Proofs.Retry.Interlude
import ResilientHttp.Proofs.Retry.Pace

/-!
What is to be told in a call. By itself a call tells of three things: of responses that are discarded, of
retries, and of attempts that pass because their endpoint is no URL. `Follows` says what comes in which
order between a failed attempt and the next request, and `Hears` that a call has told this so far, and
nothing else.

* `Tale` — what was told when an attempt is due; the invariant of the loop.
* `Tale.silent`, `Tale.rest`, `Tale.skip`, `Tale.hand` — what comes to it while the call waits, when an
  attempt passes, and when a request is handed over.
* `Asked`, `Asked.hears_told`, `Asked.tale_answer` — and when an outcome comes back.
-/

namespace ResilientHttp

variable {σ : Type}

/-- Why an attempt failed, in words. -/
def ExchangeResult.cause : ExchangeResult σ → String
  | .ok response => "status " ++ response.status.number
  | .error error => error.message

/-- Whether an event is a record in a sink. -/
def Sink.isRecord : Sink → Event → Bool
  | .named name, .log other _ => other == name
  | .tracing, .trace trace => trace.target == Trace.root
  | _, _ => false

@[simp] theorem Sink.isRecord_write (sink : Sink) (record : LogRecord) :
    sink.isRecord (sink.write record) = true := by
  cases sink <;> simp [Sink.isRecord, Sink.write, LogRecord.trace]

@[simp] theorem Sink.isRecord_skipTrace (sink : Sink) (slot : Nat) (cause : Url.ParseError) :
    sink.isRecord (.trace (RetryPolicy.skipTrace slot cause)) = false := by
  cases sink with
  | named name => rfl
  | tracing =>
      have other : Trace.part "retry" ≠ Trace.root := by decide
      simpa [Sink.isRecord, RetryPolicy.skipTrace] using other

namespace RetryPolicy

/-! ### What is told -/

/-- The log event that follows a failed attempt, if there is one: the policy logs, and the attempt is not the
last one that it allows. The record tells where the request of the attempt was sent and how, the number of
the attempt and its place in the rotation, both counted from one, and why it failed. -/
def retryLog (policy : RetryPolicy) (sink : Sink) (attempt : Nat) (sent : Request)
    (outcome : ExchangeResult σ) : List Event :=
  if policy.logging = true ∧ attempt < policy.maxAttempts.toNat then
    [sink.write
      { level := .warn
        message := "retrying request"
        fields :=
          [("url", sent.url.text), ("method", sent.method.name), ("attempt", toString (attempt + 1)),
           ("failover_index", toString (attempt % (policy.endpoints.length + 1) + 1)),
           ("cause", outcome.cause)] }]
  else []

/-- What is told of the attempts, up to a bound, that pass without a request after a count of requests. -/
def skipped (policy : RetryPolicy) (own : Url) (count bound : Nat) : List Event :=
  (List.range bound).filterMap fun attempt =>
    match policy.target own (policy.slot attempt) with
    | .error cause =>
        if (policy.turns own attempt).length = count then
          some (.trace (skipTrace (policy.slot attempt).val cause))
        else none
    | .ok _ => none

/-- What is told first after a failed attempt, in the world in which its outcome has been discarded: that,
and the log event of the retry. -/
def spoken (policy : RetryPolicy) (sink : Sink) (attempt : Nat) (sent : World σ × Request)
    (known : World σ × ExchangeResult σ) : List (Moment σ Event) :=
  (known.2.released ++ policy.retryLog sink attempt sent.2 known.2).map fun event =>
    ⟨known.2.discarded known.1, some event⟩

/-- An attempt that was made, with its number, its request and its outcome. -/
structure Made (policy : RetryPolicy) (own : Url) (journal : Journal σ) (place attempt : Nat)
    (sent : World σ × Request) (known : World σ × ExchangeResult σ) : Prop where
  number : (policy.numbers own)[place]? = some attempt
  handed : journal.handed[place]? = some sent
  answered : journal.answered[place]? = some known

/-- The call has waited after a failed attempt: it has looked at the world when the time of the wait had
passed since the outcome was discarded. -/
def Waited (policy : RetryPolicy) (attempt : Nat) (known : World σ × ExchangeResult σ)
    (told : List (Moment σ Event)) : Prop :=
  ∃ moment ∈ told, moment.event = none ∧
    (known.2.discarded known.1).now + (known.2.discarded known.1).lasting (policy.delayAfter attempt) ≤
      moment.world.now

/-- What is told between a failed attempt and the next request. -/
structure Follows (policy : RetryPolicy) (sink : Sink) (own : Url) (place attempt : Nat)
    (sent : World σ × Request) (known : World σ × ExchangeResult σ) (complete : Prop)
    (told : List (Moment σ Event)) : Prop where
  /-- Before anything else happens the outcome is discarded and the retry is logged. -/
  first : told <+: policy.spoken sink attempt sent known ∨ policy.spoken sink attempt sent known <+: told
  /-- After that there are only the attempts that pass. -/
  events : told.filterMap Moment.event <+:
    known.2.released ++ policy.retryLog sink attempt sent.2 known.2 ++
      policy.skipped own (place + 1) (policy.maxAttempts.toNat + 1)
  /-- In the end all of this was told. -/
  whole : complete → told.filterMap Moment.event =
    known.2.released ++ policy.retryLog sink attempt sent.2 known.2 ++
      policy.skipped own (place + 1) (policy.maxAttempts.toNat + 1)
  /-- In the end the call has waited, if another attempt is allowed. -/
  waited : complete → attempt < policy.maxAttempts.toNat → policy.Waited attempt known told
  /-- After the last attempt that is allowed nothing more is told, and the world is not looked at. -/
  last : policy.maxAttempts.toNat ≤ attempt → told <+: policy.spoken sink attempt sent known

/-- What was told in a call so far. -/
structure Hears (policy : RetryPolicy) (sink : Sink) (own : Url) (journal : Journal σ)
    (past : List (Moment (Noted σ) Event)) : Prop where
  /-- Only what was asked was answered. -/
  answered : journal.answered.length ≤ journal.handed.length
  /-- Nothing, before the first request. -/
  before : ∀ moment ∈ past, moment.world.journal.handed = [] → moment.event = none
  /-- Nothing, after an outcome that ends the call. -/
  terminal : ∀ {place attempt sent known}, policy.Made own journal place attempt sent known →
    policy.isTerminal known.2 = true → interlude (place + 1) past = []
  /-- After a failed attempt, what follows it; all of that, if another request was handed over. -/
  failed : ∀ {place attempt sent known}, policy.Made own journal place attempt sent known →
    policy.isTerminal known.2 = false →
    policy.Follows sink own place attempt sent known (place + 1 < journal.handed.length)
      (interlude (place + 1) past)

/-- How much was told when a call is over: all that follows each failed attempt, unless the context was seen
to have ended. -/
def ToldAll (policy : RetryPolicy) (sink : Sink) (request : Request)
    (past : List (Moment (Noted σ) Event)) (journal : Journal σ) : Prop :=
  (∃ ending, request.context.SeenEnded past ending) ∨
    ∀ {place attempt sent known}, policy.Made request.url journal place attempt sent known →
      policy.isTerminal known.2 = false →
      policy.Follows sink request.url place attempt sent known True (interlude (place + 1) past)

/-- What was told after an attempt, behind what is told first, when the attempt with a certain number is
due. -/
structure Passed (policy : RetryPolicy) (own : Url) (place attempt : Nat)
    (known : World σ × ExchangeResult σ) (count : Nat) (rested : Prop) (looks : List (Moment σ Event)) :
    Prop where
  lt : attempt < count
  events : looks.filterMap Moment.event = policy.skipped own (place + 1) count
  waited : rested → attempt < policy.maxAttempts.toNat → policy.Waited attempt known looks
  last : policy.maxAttempts.toNat ≤ attempt → looks = []

/-- What was told when an attempt is due: all that follows each attempt before, up to this one. Of the
waits a number is over. -/
structure Tale (policy : RetryPolicy) (sink : Sink) (own : Url) (count rested : Nat) (journal : Journal σ)
    (past : List (Moment (Noted σ) Event)) : Prop where
  before : ∀ moment ∈ past, moment.world.journal.handed = [] → moment.event = none
  within : ∀ moment ∈ past, moment.world.journal.answered.length ≤ journal.answered.length
  told : ∀ {place attempt sent known}, policy.Made own journal place attempt sent known →
    ∃ looks, interlude (place + 1) past = policy.spoken sink attempt sent known ++ looks ∧
      policy.Passed own place attempt known count (place < rested) looks

section Told

variable {policy : RetryPolicy} {sink : Sink} {own : Url} {count bound total : Nat}

theorem events_spoken {attempt : Nat} {sent : World σ × Request} {known : World σ × ExchangeResult σ} :
    (policy.spoken sink attempt sent known).filterMap Moment.event =
      known.2.released ++ policy.retryLog sink attempt sent.2 known.2 := by
  rw [spoken, List.filterMap_map]
  exact List.filterMap_some

theorem skipped_succ_of_error {cause : Url.ParseError}
    (empty : policy.target own (policy.slot bound) = .error cause) :
    policy.skipped own count (bound + 1) = policy.skipped own count bound ++
      if (policy.turns own bound).length = count then
        [.trace (skipTrace (policy.slot bound).val cause)] else [] := by
  simp only [skipped, List.range_succ, List.filterMap_append, List.filterMap_cons, empty,
    List.filterMap_nil]
  split <;> simp_all

theorem skipped_succ_of_ok {url : Url} (turn : policy.target own (policy.slot bound) = .ok url) :
    policy.skipped own count (bound + 1) = policy.skipped own count bound := by
  simp [skipped, List.range_succ, turn]

theorem isPrefix_skipped (h : bound ≤ total) :
    policy.skipped own count bound <+: policy.skipped own count total := by
  obtain ⟨more, rfl⟩ := Nat.le.dest h
  rw [skipped, skipped, List.range_add, List.filterMap_append]
  exact List.prefix_append _ _

/-- Once another request was sent, no attempt passes any more before it. -/
theorem skipped_of_lt (le : bound ≤ total) (h : count < (policy.turns own bound).length) :
    policy.skipped own count total = policy.skipped own count bound := by
  induction le with
  | refl => rfl
  | @step total le ih =>
      have later : (policy.turns own bound).length ≤ (policy.turns own total).length :=
        (isPrefix_turns le).length_le
      cases target : policy.target own (policy.slot total) with
      | error cause =>
          rw [skipped_succ_of_error target, if_neg (by omega), List.append_nil, ih]
      | ok url => rw [skipped_succ_of_ok target, ih]

/-- Nothing is told of attempts that pass before a request is sent. -/
theorem skipped_eq_nil (h : ∀ attempt < bound, (policy.turns own attempt).length < count) :
    policy.skipped own count bound = [] := by
  refine List.filterMap_eq_nil_iff.mpr fun attempt mem => ?_
  have before := h attempt (List.mem_range.mp mem)
  cases policy.target own (policy.slot attempt) with
  | error cause => exact if_neg (Nat.ne_of_lt before)
  | ok url => rfl

end Told

section Follows

variable {policy : RetryPolicy} {sink : Sink} {own : Url} {place attempt count : Nat}
  {sent : World σ × Request} {known : World σ × ExchangeResult σ} {rested complete finished : Prop}
  {told looks more : List (Moment σ Event)}

theorem Follows.or (h : policy.Follows sink own place attempt sent known complete told)
    (final : finished → policy.Follows sink own place attempt sent known True told) :
    policy.Follows sink own place attempt sent known (complete ∨ finished) told where
  first := h.first
  events := h.events
  whole all := all.elim h.whole fun ends => (final ends).whole trivial
  waited all := all.elim h.waited fun ends => (final ends).waited trivial
  last := h.last

theorem Waited.append_right (h : policy.Waited attempt known told) (more : List (Moment σ Event)) :
    policy.Waited attempt known (told ++ more) := by
  obtain ⟨moment, mem, wait⟩ := h
  exact ⟨moment, List.mem_append_left _ mem, wait⟩

theorem Waited.append_left (h : policy.Waited attempt known told) (before : List (Moment σ Event)) :
    policy.Waited attempt known (before ++ told) := by
  obtain ⟨moment, mem, wait⟩ := h
  exact ⟨moment, List.mem_append_right _ mem, wait⟩

/-- What is told until a later attempt is due comes behind what was told before. -/
theorem Passed.append {later : Nat} (h : policy.Passed own place attempt known count rested looks)
    (due : count ≤ policy.maxAttempts.toNat) (le : count ≤ later)
    (events : policy.skipped own (place + 1) later =
      policy.skipped own (place + 1) count ++ more.filterMap Moment.event) :
    policy.Passed own place attempt known later rested (looks ++ more) where
  lt := Nat.lt_of_lt_of_le h.lt le
  events := by rw [List.filterMap_append, h.events, events]
  waited rest notLast := (h.waited rest notLast).append_right more
  last beyond := absurd (Nat.lt_of_lt_of_le h.lt due) (Nat.not_lt.mpr beyond)

end Follows

/-! ### Where a call stands -/

/-- Where a call stands while it waits for an outcome: the last request that was handed over is that of the
attempt with a certain number, and no outcome before has ended the call. -/
structure Asked (policy : RetryPolicy) (own : Url) (count : Nat) (journal : Journal σ)
    (sent : World σ × Request) : Prop where
  one : journal.handed.length = journal.answered.length + 1
  last : journal.handed[journal.answered.length]? = some sent
  number : (policy.numbers own)[journal.answered.length]? = some count
  before : (policy.turns own count).length = journal.answered.length
  after : (policy.turns own (count + 1)).length = journal.handed.length
  failed : ∀ outcome ∈ journal.outcomes, policy.isTerminal outcome = false
  lt : count < policy.maxAttempts.toNat + 1

section Stands

variable {policy : RetryPolicy} {sink : Sink} {request : Request} {octets : Option Octets} {own : Url}
  {count rested place attempt : Nat} {journal : Journal σ} {sent : World σ × Request}
  {known : World σ × ExchangeResult σ} {past now : List (Moment (Noted σ) Event)}

theorem Made.lt (h : policy.Made own journal place attempt sent known) :
    place < journal.answered.length :=
  (List.getElem?_eq_some_iff.mp h.answered).1

theorem Made.mem (h : policy.Made own journal place attempt sent known) :
    known.2 ∈ journal.outcomes :=
  List.mem_map_of_mem (List.mem_of_getElem? h.answered)

theorem Made.of_hand {handed : World σ} {next : Request}
    (h : policy.Made own (journal.hand handed next) place attempt sent known)
    (paired : journal.answered.length = journal.handed.length) :
    policy.Made own journal place attempt sent known := by
  have old : place < journal.handed.length := paired ▸ h.lt
  refine ⟨h.number, ?_, h.answered⟩
  have same := h.handed
  rwa [Journal.hand, List.getElem?_append_left old] at same

theorem Made.of_answer {after : World σ} {outcome : ExchangeResult σ}
    (h : policy.Made own (journal.answer after outcome) place attempt sent known) :
    policy.Made own journal place attempt sent known ∨
      place = journal.answered.length ∧ known = (after, outcome) := by
  have same := h.answered
  rw [Journal.answer, List.getElem?_append] at same
  split at same
  · exact .inl ⟨h.number, h.handed, same⟩
  · have lt := h.lt
    rw [Journal.answer, List.length_append, List.length_singleton] at lt
    obtain rfl : place = journal.answered.length := by omega
    rw [Nat.sub_self] at same
    exact .inr ⟨rfl, (Option.some.inj same).symm⟩

theorem tale_empty : policy.Tale sink own 0 0 (Journal.empty : Journal σ) [] where
  before := List.forall_mem_nil _
  within := List.forall_mem_nil _
  told made := absurd made.lt (Nat.not_lt_zero _)

/-- What follows a failed attempt, as far as it was told when an attempt is due. -/
theorem Tale.follows (tale : policy.Tale sink own count rested journal past)
    (made : policy.Made own journal place attempt sent known)
    (le : count ≤ policy.maxAttempts.toNat + 1) {complete : Prop}
    (all : complete → policy.skipped own (place + 1) (policy.maxAttempts.toNat + 1) =
      policy.skipped own (place + 1) count)
    (waits : complete → place < rested) :
    policy.Follows sink own place attempt sent known complete (interlude (place + 1) past) := by
  obtain ⟨looks, said, passed⟩ := tale.told made
  have events : (interlude (place + 1) past).filterMap Moment.event =
      known.2.released ++ policy.retryLog sink attempt sent.2 known.2 ++
        policy.skipped own (place + 1) count := by
    rw [said, List.filterMap_append, events_spoken, passed.events]
  refine ⟨.inr ⟨looks, said.symm⟩, ?_, fun whole => ?_, fun whole notLast => ?_, fun beyond => ?_⟩
  · rw [events]
    exact (List.prefix_append_right_inj _).mpr (isPrefix_skipped le)
  · rw [events, all whole]
  · rw [said]
    exact (passed.waited (waits whole) notLast).append_left _
  · refine ⟨[], ?_⟩
    rw [said, passed.last beyond, List.append_nil, List.append_nil]

/-- When an attempt is due, all was told that is to be told before it. -/
theorem Tale.hears (tale : policy.Tale sink own count rested journal past)
    (le : count ≤ policy.maxAttempts.toNat + 1) (rests : journal.handed.length ≤ rested + 1)
    (answered : journal.answered.length ≤ journal.handed.length)
    (handed : journal.handed.length ≤ (policy.turns own count).length)
    (failed : ∀ outcome ∈ journal.outcomes, policy.isTerminal outcome = false) :
    policy.Hears sink own journal past where
  answered := answered
  before := tale.before
  terminal made terminal := by
    rw [failed _ made.mem] at terminal
    cases terminal
  failed made _ :=
    tale.follows made le (fun more => skipped_of_lt le (Nat.lt_of_lt_of_le more handed)) fun more => by
      omega

theorem Tale.hears_underway (tale : policy.Tale sink request.url count rested journal past)
    (under : policy.Underway request octets count journal)
    (le : count ≤ policy.maxAttempts.toNat + 1) (rests : journal.handed.length ≤ rested + 1) :
    policy.Hears sink request.url journal past :=
  tale.hears le rests (Nat.le_of_eq under.length_answered) (Nat.le_of_eq under.length_handed)
    under.failed

/-- What is told until a later attempt is due comes behind what was told before. -/
theorem Tale.told_append {later : Nat} {more : List (Moment (Noted σ) Event)}
    (tale : policy.Tale sink own count rested journal past)
    (made : policy.Made own journal place attempt sent known)
    (due : count ≤ policy.maxAttempts.toNat) (le : count ≤ later)
    (events : policy.skipped own (place + 1) later =
      policy.skipped own (place + 1) count ++ (interlude (place + 1) more).filterMap Moment.event) :
    ∃ looks, interlude (place + 1) (past ++ more) = policy.spoken sink attempt sent known ++ looks ∧
      policy.Passed own place attempt known later (place < rested) looks := by
  obtain ⟨looks, said, passed⟩ := tale.told made
  refine ⟨looks ++ interlude (place + 1) more, ?_, passed.append due le events⟩
  rw [interlude_append, said, List.append_assoc]

/-- Moments without events tell nothing. -/
theorem Tale.silent (tale : policy.Tale sink own count rested journal past)
    (due : count ≤ policy.maxAttempts.toNat)
    (since : Since (fun moment => moment.world.journal = journal ∧ moment.event = none) past now) :
    policy.Tale sink own count rested journal now := by
  obtain ⟨more, rfl, quiet⟩ := since
  have silent : ∀ moment ∈ more, moment.event = none := fun moment mem => (quiet moment mem).2
  refine ⟨?_, ?_, fun made => tale.told_append made due (Nat.le_refl _) ?_⟩
  · exact List.forall_mem_append.mpr ⟨tale.before, fun moment mem _ => silent moment mem⟩
  · refine List.forall_mem_append.mpr ⟨tale.within, fun moment mem => Nat.le_of_eq ?_⟩
    rw [(quiet moment mem).1]
  · rw [events_interlude_eq_nil silent, List.append_nil]

/-- After the last attempt that is allowed there is no wait. -/
theorem Tale.unrested (tale : policy.Tale sink own count rested journal past)
    (newest : ∀ {number sent known}, policy.Made own journal rested number sent known →
      policy.maxAttempts.toNat ≤ number) :
    policy.Tale sink own count (rested + 1) journal past := by
  refine ⟨tale.before, tale.within, fun {place number sent known} made => ?_⟩
  obtain ⟨looks, said, passed⟩ := tale.told made
  refine ⟨looks, said, passed.lt, passed.events, fun rest notLast => ?_, passed.last⟩
  rcases Nat.lt_succ_iff_lt_or_eq.mp rest with before | rfl
  · exact passed.waited before notLast
  · exact absurd notLast (Nat.not_lt.mpr (newest made))

/-- One more wait is over: that after the last attempt. -/
theorem Tale.rest {after : World (Noted σ)} {start : World σ}
    (tale : policy.Tale sink own count rested journal past) (due : count ≤ policy.maxAttempts.toNat)
    (paired : journal.handed.length = rested + 1 ∧ journal.answered.length = rested + 1)
    (newest : ∀ {number sent known}, policy.Made own journal rested number sent known →
      number = attempt ∧ known.2.discarded known.1 = start)
    (same : after.journal = journal)
    (long : start.now + start.lasting (policy.delayAfter attempt) ≤ after.now) :
    policy.Tale sink own count (rested + 1) journal (past ++ [⟨after, none⟩]) := by
  have quiet : policy.Tale sink own count rested journal (past ++ [⟨after, none⟩]) :=
    tale.silent due (.single ⟨same, rfl⟩)
  refine ⟨quiet.before, quiet.within, fun {place number sent known} made => ?_⟩
  obtain ⟨looks, said, passed⟩ := tale.told made
  let look : List (Moment (Noted σ) Event) := [⟨after, none⟩]
  have nothing : (interlude (place + 1) look).filterMap Moment.event = [] :=
    events_interlude_eq_nil (List.forall_mem_singleton.mpr rfl)
  refine ⟨looks ++ interlude (place + 1) look, ?_, ?_⟩
  · rw [interlude_append, said, List.append_assoc]
  · have more := passed.append due (Nat.le_refl _) (by rw [nothing, List.append_nil])
    refine ⟨more.lt, more.events, fun rest notLast => ?_, more.last⟩
    rcases Nat.lt_succ_iff_lt_or_eq.mp rest with before | rfl
    · exact more.waited before notLast
    · obtain ⟨rfl, begun⟩ := newest made
      refine Waited.append_left ⟨⟨after.plain, none⟩, ?_, rfl, begun ▸ long⟩ looks
      simp [look, interlude, same, paired, Moment.plain]

/-- An attempt that passes is told of, and the next one is due. -/
theorem Tale.skip {world : World (Noted σ)} {cause : Url.ParseError}
    (tale : policy.Tale sink request.url count rested journal past)
    (due : count ≤ policy.maxAttempts.toNat)
    (underway : policy.Underway request octets count journal)
    (empty : policy.target request.url (policy.slot count) = .error cause)
    (here : world.journal = journal) :
    policy.Tale sink request.url (count + 1) rested journal
      (past ++ [⟨world, some (.trace (skipTrace (policy.slot count).val cause))⟩]) := by
  have handed := underway.length_handed
  have answered := underway.length_answered
  -- The first attempt never passes, so something was sent before.
  have later : 0 < journal.handed.length := by
    cases count with
    | zero =>
        have none := policy.toOption_target request.url 0
        rw [empty, turn?_zero] at none
        cases none
    | succ before =>
        rw [handed]
        exact length_turns_pos policy request.url before
  refine ⟨?_, ?_, fun made => tale.told_append made due (Nat.le_succ _) ?_⟩
  · refine List.forall_mem_append.mpr ⟨tale.before, List.forall_mem_singleton.mpr fun none => ?_⟩
    rw [here] at none
    rw [none] at later
    cases later
  · refine List.forall_mem_append.mpr ⟨tale.within, List.forall_mem_singleton.mpr ?_⟩
    exact Nat.le_of_eq (by rw [here])
  · rw [skipped_succ_of_error empty, events_interlude_singleton, here, answered, handed]
    simp only [and_self]

/-- While an attempt is under way nothing is told of those before. -/
theorem Tale.hand {handed : World σ} {next : Request} {url : Url}
    (tale : policy.Tale sink own count rested journal past) (due : count ≤ policy.maxAttempts.toNat)
    (turn : policy.target own (policy.slot count) = .ok url)
    (paired : journal.answered.length = journal.handed.length)
    (since : Since (fun moment => moment.world.journal = journal.hand handed next) past now) :
    policy.Tale sink own (count + 1) rested (journal.hand handed next) now := by
  obtain ⟨more, rfl, asked⟩ := since
  refine ⟨?_, ?_, fun {place attempt sent known} made =>
    tale.told_append (made.of_hand paired) due (Nat.le_succ _) ?_⟩
  · refine List.forall_mem_append.mpr ⟨tale.before, fun moment mem none => ?_⟩
    rw [asked moment mem] at none
    exact absurd none (List.append_ne_nil_of_right_ne_nil _ (List.cons_ne_nil _ _))
  · refine List.forall_mem_append.mpr ⟨tale.within, fun moment mem => Nat.le_of_eq ?_⟩
    rw [asked moment mem]
  · have nothing : interlude (place + 1) more = [] := by
      refine interlude_eq_nil fun moment mem same => ?_
      rw [asked moment mem] at same ⊢
      simp only [Journal.hand, List.length_append, List.length_singleton] at same ⊢
      omega
    rw [nothing, List.filterMap_nil, List.append_nil, skipped_succ_of_ok turn]

theorem Underway.asked {url : Url} (h : policy.Underway request octets count journal)
    (turn : policy.turn? request.url count = some url) (lt : count < policy.maxAttempts.toNat + 1)
    (handed : World σ) (next : Request) :
    policy.Asked request.url count (journal.hand handed next) (handed, next) where
  one := by simp [Journal.hand, h.length_answered]
  last := by simp [Journal.hand, h.length_answered]
  number := by
    show (policy.numbers request.url)[journal.answered.length]? = some count
    rw [h.length_answered, h.length_handed]
    exact sending_getElem? turn lt
  before := h.length_handed.symm.trans h.length_answered.symm
  after := by simp [turns_succ, turn, Journal.hand, h.length_handed]
  failed := h.failed
  lt := lt

section Answer

variable {sent' : World σ × Request} {asked : Journal σ} {world : World (Noted σ)} {after : World σ}
  {outcome : ExchangeResult σ}
  (h : policy.Asked own count asked sent)

include h

theorem Asked.hears (tale : policy.Tale sink own (count + 1) asked.answered.length asked past) :
    policy.Hears sink own asked past :=
  tale.hears h.lt (Nat.le_of_eq h.one) (h.one ▸ Nat.le_succ _) (Nat.le_of_eq h.after.symm) h.failed

/-- All that follows the attempts before was told when the new request was handed over. -/
theorem Asked.follows (tale : policy.Tale sink own (count + 1) asked.answered.length asked past)
    (made : policy.Made own asked place attempt sent' known) (complete : Prop) :
    policy.Follows sink own place attempt sent' known complete (interlude (place + 1) past) := by
  have lt := made.lt
  refine tale.follows made h.lt (fun _ => skipped_of_lt h.lt ?_) fun _ => lt
  rw [h.after, h.one]
  omega

/-- The new outcome is that of the attempt which it was waited for. -/
theorem Asked.made
    (made : policy.Made own (asked.answer after outcome) place attempt sent' known) :
    policy.Made own asked place attempt sent' known ∨
      place = asked.answered.length ∧ attempt = count ∧ sent' = sent ∧ known = (after, outcome) := by
  rcases made.of_answer with old | ⟨rfl, rfl⟩
  · exact .inl old
  · refine .inr ⟨rfl, ?_, ?_, rfl⟩
    · exact Option.some.inj (made.number.symm.trans h.number)
    · exact Option.some.inj (made.handed.symm.trans h.last)

variable (tale : policy.Tale sink own (count + 1) asked.answered.length asked past)
  (here : world.journal = asked.answer after outcome)

include tale here

/-- What is told behind an outcome belongs to that outcome. -/
theorem Asked.interlude_eq (told : List Event) :
    interlude (asked.answered.length + 1)
        (past ++ told.map fun event => (⟨world, some event⟩ : Moment (Noted σ) Event)) =
      told.map (fun event => ⟨world.plain, some event⟩) ∧
    ∀ place < asked.answered.length,
      interlude (place + 1)
          (past ++ told.map fun event => (⟨world, some event⟩ : Moment (Noted σ) Event)) =
        interlude (place + 1) past := by
  have handed : world.journal.handed.length = asked.answered.length + 1 := by
    rw [here]
    exact h.one
  have answered : world.journal.answered.length = asked.answered.length + 1 := by
    rw [here, Journal.answer, List.length_append, List.length_singleton]
  constructor
  · rw [interlude_append, interlude_told told handed answered, interlude_eq_nil, List.nil_append]
    intro moment mem _ same
    have within := tale.within moment mem
    omega
  · intro place lt
    rw [interlude_append]
    refine (congrArg (_ ++ ·) (interlude_eq_nil ?_)).trans (List.append_nil _)
    intro moment mem same
    obtain ⟨event, -, rfl⟩ := List.mem_map.mp mem
    dsimp only at same
    omega

theorem Asked.before_told (told : List Event) :
    ∀ moment ∈ past ++ told.map fun event => (⟨world, some event⟩ : Moment (Noted σ) Event),
      moment.world.journal.handed = [] → moment.event = none := by
  refine List.forall_mem_append.mpr ⟨tale.before, fun moment mem none => ?_⟩
  obtain ⟨event, -, rfl⟩ := List.mem_map.mp mem
  have some : asked.handed = [] := by
    rw [here] at none
    exact none
  have one := h.one
  rw [some] at one
  cases one

/-- What is told behind an outcome is what follows it, or nothing if it ends the call. -/
theorem Asked.hears_told (told : List Event)
    (plain : policy.isTerminal outcome = false → world.plain = outcome.discarded after)
    (silent : policy.isTerminal outcome = true → told = [])
    (begins : told <+: outcome.released ++ policy.retryLog sink count sent.2 outcome) :
    policy.Hears sink own (asked.answer after outcome)
      (past ++ told.map fun event => ⟨world, some event⟩) := by
  obtain ⟨new, old⟩ := h.interlude_eq tale here told
  refine ⟨?_, h.before_told tale here told, fun made terminal => ?_,
    fun {place number mine known} made failed => ?_⟩
  · exact Nat.le_of_eq (by rw [Journal.answer, List.length_append, List.length_singleton, h.one])
  · rcases h.made made with made | ⟨rfl, rfl, rfl, rfl⟩
    · rw [h.failed _ made.mem] at terminal
      cases terminal
    · rw [new, silent terminal]
      rfl
  · rcases h.made made with made | ⟨rfl, rfl, rfl, rfl⟩
    · rw [old _ made.lt]
      exact h.follows tale made _
    · rw [new]
      have events : (told.map fun event => (⟨world.plain, some event⟩ : Moment σ Event)).filterMap
          Moment.event = told := by
        rw [List.filterMap_map]
        exact List.filterMap_some
      have first : (told.map fun event => (⟨world.plain, some event⟩ : Moment σ Event)) <+:
          policy.spoken sink number mine (after, outcome) := by
        rw [plain failed]
        exact begins.map _
      have noMore : ¬ asked.answered.length + 1 < (asked.answer after outcome).handed.length := by
        rw [Journal.answer, h.one]
        exact Nat.lt_irrefl _
      refine ⟨.inl first, ?_, fun more => absurd more noMore, fun more => absurd more noMore,
        fun _ => first⟩
      rw [events]
      exact begins.trans (List.prefix_append _ _)

/-- When all was told that is told first after a failed attempt, the next attempt is due, but for the
wait. -/
theorem Asked.tale_answer (plain : world.plain = outcome.discarded after) :
    policy.Tale sink own (count + 1) asked.answered.length (asked.answer after outcome)
      (past ++ (outcome.released ++ policy.retryLog sink count sent.2 outcome).map fun event =>
        ⟨world, some event⟩) := by
  obtain ⟨new, old⟩ := h.interlude_eq tale here
    (outcome.released ++ policy.retryLog sink count sent.2 outcome)
  refine ⟨h.before_told tale here _, ?_, fun {_ number _ _} made => ?_⟩
  · refine List.forall_mem_append.mpr ⟨fun moment mem => ?_, fun moment mem => ?_⟩
    · refine Nat.le_trans (tale.within moment mem) ?_
      simp [Journal.answer]
    · obtain ⟨event, -, rfl⟩ := List.mem_map.mp mem
      exact Nat.le_of_eq (by rw [here])
  · rcases h.made made with made | ⟨rfl, rfl, rfl, rfl⟩
    · rw [old _ made.lt]
      exact tale.told made
    · refine ⟨[], ?_, Nat.lt_succ_self _, ?_, fun rested => absurd rested (Nat.lt_irrefl _), fun _ => rfl⟩
      · rw [new, spoken, List.append_nil, plain]
      · refine (skipped_eq_nil fun earlier lt => ?_).symm
        have le : (policy.turns own earlier).length ≤ (policy.turns own number).length :=
          (isPrefix_turns (Nat.le_of_lt_succ lt)).length_le
        rw [h.before] at le
        omega

end Answer

end Stands

end RetryPolicy
end ResilientHttp

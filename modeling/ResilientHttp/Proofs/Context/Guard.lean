import ResilientHttp.Proofs.Task.Keeping
import ResilientHttp.Proofs.Task.Run

/-!
Work bound to a context, among others and alone. `ensures_run` is the rule for `Context.run` under
any doings of the others: the work ends with one of its values, or the context was seen to have
ended on the way. `returns_run` says that a context never keeps work from ending: alone, bound work
gives a value whenever the work itself does.
-/

namespace ResilientHttp

variable {σ ε α β : Type}

/-- At some moment the context was seen to have ended in a certain way. -/
def Context.SeenEnded (context : Context) (past : List (Moment σ ε)) (ending : ContextEnd) : Prop :=
  ∃ moment ∈ past, context.endedIn? moment.world = some ending

theorem Context.SeenEnded.mono {context : Context} {past all : List (Moment σ ε)}
    {ending : ContextEnd} (h : context.SeenEnded past ending) (subset : past ⊆ all) :
    context.SeenEnded all ending := by
  obtain ⟨moment, mem, ended⟩ := h
  exact ⟨moment, subset mem, ended⟩

theorem Context.SeenEnded.append {context : Context} {past : List (Moment σ ε)}
    {ending : ContextEnd} (h : context.SeenEnded past ending) (later : List (Moment σ ε)) :
    context.SeenEnded (past ++ later) ending :=
  h.mono (List.subset_append_left _ _)

theorem Context.SeenEnded.last {context : Context} {past : List (Moment σ ε)} {world : World σ}
    {event : Option ε} {ending : ContextEnd} (h : context.endedIn? world = some ending) :
    context.SeenEnded (past ++ [⟨world, event⟩]) ending :=
  ⟨_, List.mem_concat_self, h⟩

namespace Task

section Rules

variable {rely : World σ → World σ → Prop} {always : List (Moment σ ε) → World σ → Prop}
  {past : List (Moment σ ε)} {world : World σ}

theorem ensures_emitAll {post : List (Moment σ ε) → Unit → World σ → Prop} (events : List ε)
    (steady : ∀ later, always (past ++ later) world) (h : ∀ later, post (past ++ later) () world) :
    (emitAll events).Ensures rely always post past world := by
  induction events generalizing past with
  | nil => exact ⟨by simpa using steady [], by simpa using h []⟩
  | cons event rest ih =>
      refine ⟨by simpa using steady [], ih (fun later => ?_) (fun later => ?_)⟩
      · simpa using steady (⟨world, some event⟩ :: later)
      · simpa using h (⟨world, some event⟩ :: later)

theorem ensures_release {post : List (Moment σ ε) → Unit → World σ → Prop} {held : Cleanup σ ε}
    (now : always past world) (steady : ∀ later, always (past ++ later) (held.effect world))
    (h : ∀ later, post (past ++ later) () (held.effect world)) :
    (release held).Ensures rely always post past world :=
  ⟨now, ensures_emitAll held.events steady h⟩

/-- Bound work that is gone on with ensures what follows it ensures, and says how its context has
ended if it has. -/
theorem Ensures.proceed {bound : Task σ ε (Except ContextEnd α)}
    {next : α → Task σ ε (Except ClientError β)}
    {post : List (Moment σ ε) → Except ClientError β → World σ → Prop}
    (h : bound.Ensures rely always (fun past result world =>
      match result with
      | .error ending => post past (.error ending.error) world
      | .ok value => (next value).Ensures rely always post past world) past world) :
    (bound.proceed next).Ensures rely always post past world := by
  refine .bind (h.mono fun past result world now then_ => ?_)
  cases result with
  | error ending => exact ⟨now, then_⟩
  | ok value => exact then_

end Rules

/-- The task gives a value when it is alone. -/
def Returns (task : Task σ ε α) (world : World σ) : Prop :=
  ∃ value, (task.course world).outcome = .value value

theorem Returns.bind {task : Task σ ε α} {f : α → Task σ ε β} {world : World σ}
    (h : task.Returns world) (next : ∀ value after, (f value).Returns after) :
    (task.bind f).Returns world := by
  obtain ⟨value, hvalue⟩ := h
  obtain ⟨result, hresult⟩ := next value (task.course world).world
  exact ⟨result, by simp [course_bind, Course.andThen, hvalue, hresult]⟩

theorem Returns.proceed {bound : Task σ ε (Except ContextEnd α)}
    {next : α → Task σ ε (Except ClientError β)} {world : World σ} (h : bound.Returns world)
    (goesOn : ∀ value after, (next value).Returns after) : (bound.proceed next).Returns world := by
  refine h.bind ?_
  intro result after
  cases result with
  | error ending => exact ⟨_, rfl⟩
  | ok value => exact goesOn value after

theorem Returns.holding {task : Task σ ε α} {world : World σ} (h : task.Returns world)
    (more : Cleanup σ ε) : (task.holding more).Returns world := by
  rwa [Returns, course_holding]

theorem returns_done (value : α) (world : World σ) :
    (Task.done value : Task σ ε α).Returns world :=
  ⟨value, rfl⟩

theorem returns_emitAll (events : List ε) (world : World σ) :
    (emitAll events : Task σ ε Unit).Returns world := by
  induction events with
  | nil => exact returns_done () world
  | cons event later ih => exact ih

theorem returns_release (held : Cleanup σ ε) (world : World σ) : (release held).Returns world :=
  returns_emitAll held.events _

theorem returns_sleep (held : Cleanup σ ε) (span : Duration) (world : World σ) :
    (sleep held span).Returns world := by
  unfold sleep
  split
  · exact returns_done () world
  · refine ⟨(), ?_⟩
    simp only [course]
    split <;> rfl

end Task

theorem Body.returns_collectChunks (held : Cleanup σ ε) (chunks : List Chunk) (read : Octets)
    (world : World σ) : (collectChunks held read chunks).Returns world := by
  induction chunks generalizing read world with
  | nil => exact Task.returns_done _ world
  | cons chunk later ih =>
      cases chunk with
      | data octets => exact ih _ world
      | fault error => exact Task.returns_done _ world
      | pause span => exact (Task.returns_sleep held span world).bind fun _ after => ih read after

/-- Reading a body ends. -/
theorem Body.returns_collect (held : Cleanup σ ε) (body : Body) (world : World σ) :
    (body.collect held).Returns world := by
  cases body with
  | full octets => exact Task.returns_done _ world
  | stream chunks => exact returns_collectChunks held chunks [] world

namespace Context

/-! ### The end of a context -/

theorem any_earlier (first second : Option Instant) (now : Instant) :
    (earlier first second).any (· ≤ now) = (first.any (· ≤ now) || second.any (· ≤ now)) := by
  cases first with
  | none => simp [earlier]
  | some left =>
      cases second with
      | none => simp [earlier]
      | some right => simp only [earlier, Option.any_some, Std.min_le, Bool.decide_or]

/-- The earlier of two instants is the first, unless the second has come by then. -/
theorem eq_some_of_earlier {first second : Option Instant} {instant : Instant}
    (h : earlier first second = some instant) (notYet : second.any (· ≤ instant) = false) :
    first = some instant := by
  cases first with
  | none =>
      change second = some instant at h
      simp [h] at notYet
  | some left =>
      cases second with
      | none => exact h
      | some right =>
          obtain rfl : min left right = instant := Option.some.inj h
          simp only [Option.any_some, decide_eq_false_iff_not, Nat.not_le] at notYet
          rw [Nat.min_eq_left (Nat.le_of_not_le fun below => ?_)]
          exact absurd (Nat.min_eq_right below) (Nat.ne_of_lt notYet)

theorem eq_none_of_earlier {first second : Option Instant} (h : earlier first second = none) :
    first = none := by
  cases first with
  | none => rfl
  | some left => cases second <;> cases h

theorem endedIn?_eq_none_iff {context : Context} {world : World σ} :
    context.endedIn? world = none ↔
      world.tokens.isCancelled context.token = false ∧
        context.deadline.any (· ≤ world.now) = false := by
  unfold endedIn? ended?
  split
  · simp_all
  · split <;> simp_all

/-- While its context has not ended, work goes on under it when it goes on alone. -/
theorem isDue_orEnd {context : Context} {world : World σ} (live : context.endedIn? world = none)
    (wake : Wake σ) : (context.orEnd wake).isDue world = wake.isDue world := by
  obtain ⟨notCancelled, notPassed⟩ := endedIn?_eq_none_iff.mp live
  simp only [Wake.isDue, orEnd, any_earlier, notCancelled, notPassed, Bool.or_false]

theorem isDue_orEnd_of_isDue {wake : Wake σ} {world : World σ} (context : Context)
    (due : wake.isDue world = true) : (context.orEnd wake).isDue world = true := by
  simp only [Wake.isDue, orEnd, any_earlier, Bool.or_eq_true] at due ⊢
  exact due.imp .inl .inl

/-- Under a context that has ended no work rests any longer. -/
theorem isDue_orEnd_of_ended {context : Context} {ending : ContextEnd} {wake : Wake σ}
    {world : World σ}
    (ended : context.endedIn? world = some ending) : (context.orEnd wake).isDue world = true := by
  refine eq_true_of_ne_false fun notDue => ?_
  simp only [Wake.isDue, orEnd, any_earlier, Bool.or_eq_false_iff] at notDue
  obtain ⟨⟨-, notPassed⟩, -, notCancelled⟩ := notDue
  rw [endedIn?_eq_none_iff.mpr ⟨notCancelled, notPassed⟩] at ended
  cases ended

theorem guard_bind (context : Context) (task : Task σ ε α) (f : α → Task σ ε β) :
    context.guard (task.bind f) =
      (context.guard task).bind fun
        | .error ending => .done (.error ending)
        | .ok value => context.guard (f value) := by
  induction task with
  | done value => rfl
  | look next ih => exact congrArg Task.look (funext ih)
  | change act next ih => exact congrArg (Task.change act) (funext ih)
  | emit event next ih => exact congrArg (Task.emit event) ih
  | rest wake held next ih =>
      refine congrArg (Task.rest _ held) (congrArg Task.look (funext fun world => ?_))
      dsimp only
      split
      · simp only [Task.bind_assoc, Task.bind]
      · exact ih
  | panic reason => rfl

/-! ### Among others -/

theorem ensures_check {rely : World σ → World σ → Prop}
    {always : List (Moment σ ε) → World σ → Prop}
    {post : List (Moment σ ε) → Except ContextEnd Unit → World σ → Prop}
    {past : List (Moment σ ε)} {world : World σ} {context : Context}
    (steady : ∀ past, always past world)
    (ended : ∀ past ending, context.SeenEnded past ending → post past (.error ending) world)
    (goesOn : ∀ past, post past (.ok ()) world) :
    context.check.Ensures rely always post past world := by
  refine ⟨steady past, ?_⟩
  dsimp only
  split
  · exact ⟨steady _, ended _ _ (.last ‹_›)⟩
  · exact ⟨steady _, goesOn _⟩

section Rules

variable {rely kept : World σ → World σ → Prop} (stays : World σ → Prop) {good : α → Prop}
  {always : List (Moment σ ε) → World σ → Prop}
  {post : List (Moment σ ε) → Except ContextEnd α → World σ → Prop}
  {past : List (Moment σ ε)} {world : World σ} {context : Context}
  (others : ∀ world after, stays world → rely world after → stays after)
  (own : ∀ world after, stays world → kept world after → stays after)
  (steady : ∀ past world, stays world → always past world)
  (ended : ∀ past ending world, stays world → context.SeenEnded past ending →
    post past (.error ending) world)
  (finish : ∀ past value world, stays world → good value → post past (.ok value) world)

include own steady ended

/-- Guarded work that is gone on with, unless its context has ended. -/
theorem ensures_resume {held : Cleanup σ ε} {next : Task σ ε (Except ContextEnd α)}
    (keeps : held.Keeps kept) (h : stays world)
    (goesOn : context.endedIn? world = none →
      next.Ensures rely always post (past ++ [⟨world, none⟩]) world) :
    (context.resume held next).Ensures rely always post past world := by
  refine ⟨steady _ _ h, ?_⟩
  dsimp only
  split
  · rename_i ending hended
    have after := own world _ h (keeps world)
    refine .bind (Task.ensures_release (steady _ _ h) (fun _ => steady _ _ after) fun later => ?_)
    have seen : context.SeenEnded (past ++ [⟨world, none⟩]) ending := .last hended
    exact ⟨steady _ _ after, ended _ _ _ after (seen.append later)⟩
  · exact goesOn ‹_›

include others finish

/-- Work under the eyes of a context, while the others and the work itself keep what `stays`. -/
theorem ensures_guard {task : Task σ ε α} (keeps : task.Keeps kept good) (h : stays world) :
    (context.guard task).Ensures rely always post past world := by
  induction task generalizing past world with
  | done value => exact ⟨steady _ _ h, finish _ _ _ h keeps⟩
  | look next ih => exact ⟨steady _ _ h, ih world (keeps world) h⟩
  | change act next ih => exact ⟨steady _ _ h, ih world (keeps.2 world) (own _ _ h (keeps.1 world))⟩
  | emit event next ih => exact ⟨steady _ _ h, ih keeps h⟩
  | rest wake held next ih =>
      refine ⟨steady _ _ h, fun later hrely _ => ?_⟩
      have hlater := others _ _ h hrely
      exact ensures_resume stays own steady ended keeps.1 hlater fun _ => ih keeps.2 hlater
  | panic reason => exact steady _ _ h

/-- Work bound to a context, while the others and the work itself keep what `stays`. -/
theorem ensures_run {pending : Cleanup σ ε} {task : Task σ ε α} (keepsPending : pending.Keeps kept)
    (keeps : task.Keeps kept good) (h : stays world) :
    (context.run pending task).Ensures rely always post past world :=
  ensures_resume stays own steady ended keepsPending h fun _ =>
    ensures_guard stays others own steady ended finish keeps h

end Rules

/-! ### Alone -/

theorem returns_check (context : Context) (world : World σ) :
    (context.check : Task σ ε (Except ContextEnd Unit)).Returns world := by
  rw [Task.Returns, check, Task.course_look]
  split <;> exact ⟨_, rfl⟩

theorem returns_resume (context : Context) (held : Cleanup σ ε)
    {next : Task σ ε (Except ContextEnd α)} {world : World σ}
    (goesOn : context.endedIn? world = none → next.Returns world) :
    (context.resume held next).Returns world := by
  rw [Task.Returns, resume, Task.course_look]
  split
  · exact (Task.returns_release held world).bind fun _ after => Task.returns_done _ after
  · exact goesOn ‹_›

/-- Under a context work ends when the work itself does, if not before. -/
theorem returns_guard (context : Context) {task : Task σ ε α} {world : World σ}
    (h : task.Returns world) : (context.guard task).Returns world := by
  induction task generalizing world with
  | done value => exact Task.returns_done _ world
  | look next ih => exact ih world h
  | change act next ih => exact ih world h
  | emit event next ih => exact ih h
  | rest wake held next ih =>
      rw [guard_rest]
      unfold Task.Returns at h ⊢
      by_cases due : (context.orEnd wake).isDue world = true
      · rw [Task.course_rest_of_due due]
        refine returns_resume context held fun live => ih ?_
        rw [isDue_orEnd live wake] at due
        rwa [Task.course_rest_of_due due] at h
      · have notDue := mt (isDue_orEnd_of_isDue context) due
        cases hinstant : (context.orEnd wake).instant with
        | none =>
            rw [Task.course_rest_of_never notDue (eq_none_of_earlier hinstant)] at h
            obtain ⟨_, ⟨⟩⟩ := h
        | some instant =>
            -- If the context still lives after the rest, then it was not the context that ended it.
            rw [Task.course_rest_of_wait due hinstant]
            refine returns_resume context held fun live => ih ?_
            have alone := eq_some_of_earlier hinstant (endedIn?_eq_none_iff.mp live).2
            rwa [Task.course_rest_of_wait notDue alone] at h
  | panic reason => exact absurd h (by rintro ⟨_, ⟨⟩⟩)

theorem returns_run (context : Context) (pending : Cleanup σ ε) {task : Task σ ε α}
    {world : World σ} (h : task.Returns world) : (context.run pending task).Returns world :=
  returns_resume context pending fun _ => returns_guard context h

/-- Alone and under a context that lives, bound work gives one of its values. -/
theorem exists_run_of_live {context : Context} {task : Task σ ε α} {good : α → Prop}
    {world : World σ} (keeps : task.Keeps (fun _ _ => True) good) (returns : task.Returns world)
    (live : ∀ moment ∈ (context.run .none task).moments world,
      context.endedIn? moment.world = none) :
    ∃ value, good value ∧ ((context.run .none task).course world).outcome = .value (.ok value) := by
  obtain ⟨result, returned⟩ := context.returns_run .none returns
  have anything : Task.AllowsWaiting fun _ _ : World σ => True :=
    ⟨fun _ => trivial, fun _ _ _ => trivial⟩
  have ensured : (context.run .none task).Ensures (fun _ _ => True) (fun _ _ => True)
      (fun past result _ =>
        match result with
        | .error ending => context.SeenEnded past ending
        | .ok value => good value) [] world :=
    ensures_run (fun _ => True) (fun _ _ _ _ => trivial) (fun _ _ _ _ => trivial)
      (fun _ _ _ => trivial) (fun _ _ _ _ seen => seen) (fun _ _ _ _ h => h)
      (Cleanup.keeps_none fun _ => trivial) keeps trivial
  have post := (ensured.of_run (Task.run_moments anything returned)).2
  cases result with
  | error ending =>
      obtain ⟨moment, mem, ended⟩ := post
      rw [live moment mem] at ended
      cases ended
  | ok value => exact ⟨value, post, returned⟩

end Context
end ResilientHttp

import ResilientHttp.Proofs.Context.Deadline
import ResilientHttp.Proofs.Task.Punctual

/-!
Bound work on time. While its context lives, work goes on as if it were not bound (`rests_orEnd`), and at
the first instant at which the context has ended it is abandoned where it rests.

* `Context.Ends` — how started work ends under its context: with its value, or with the end of the
  context at a rest. In both the work itself has run as long as the context lived.
* `onTime_guard`, `onTime_run_of_lives` — bound work ends in these ways and in no other.
* `onTime_run_run` — bound twice is bound once.
* `run_onTime` — all of it, with the instants at which the work ends.
-/

namespace ResilientHttp

variable {σ ε α β : Type}

namespace Context

/-- The context has not ended. -/
def Lives (context : Context) (world : World σ) : Prop := context.endedIn? world = none

section Rests

variable {context : Context} {others : World σ → World σ → Prop} {waits : World σ → Prop} {wake : Wake σ}
  {world later : World σ} {instant : Instant}

/-- Not before either of two instants is not before the earlier one. -/
theorem forall_mem_earlier {first second : Option Instant} :
    (∀ due ∈ earlier first second, instant ≤ due) ↔
      (∀ due ∈ first, instant ≤ due) ∧ ∀ due ∈ second, instant ≤ due := by
  cases first with
  | none => simp [earlier]
  | some left =>
      cases second with
      | none => simp [earlier]
      | some right =>
          simp only [earlier, Option.mem_some, forall_eq']
          exact Nat.le_min

/-- A context lives as long as time passes that is not cancelled and does not pass its deadline. -/
theorem lives_until (before : world.now < instant) :
    (∀ passing, world.now ≤ passing → passing < instant →
      context.Lives { world with now := passing }) ↔
      context.Lives world ∧ ∀ deadline ∈ context.deadline, instant ≤ deadline := by
  constructor
  · intro lives
    refine ⟨lives world.now (Nat.le_refl _) before, fun deadline mem => Nat.le_of_not_lt fun passed => ?_⟩
    -- At the deadline, or now if it has come already, the context would have ended.
    have last := lives (max world.now deadline) (Nat.le_max_left _ _) (Nat.max_lt.mpr ⟨before, passed⟩)
    have notPassed := (endedIn?_eq_none_iff.mp last).2
    rw [Option.mem_def.mp mem, Option.any_some, decide_eq_false_iff_not] at notPassed
    exact notPassed (Nat.le_max_right _ _)
  · rintro ⟨lives, notPassed⟩ passing - early
    have notCancelled := (endedIn?_eq_none_iff.mp lives).1
    refine endedIn?_eq_none_iff.mpr ⟨notCancelled, ?_⟩
    cases limit : context.deadline with
    | none => rfl
    | some deadline =>
        refine decide_eq_false fun reached => ?_
        exact Nat.not_lt.mpr (Nat.le_trans (notPassed deadline limit) reached) early

theorem isDue_orEnd_eq_false :
    (context.orEnd wake).isDue world = false ↔ wake.isDue world = false ∧ context.Lives world := by
  rw [Lives, endedIn?_eq_none_iff]
  simp only [Wake.isDue, orEnd, any_earlier, Bool.or_eq_false_iff]
  constructor
  · rintro ⟨⟨notReached, notPassed⟩, notAllowed, notCancelled⟩
    exact ⟨⟨notReached, notAllowed⟩, notCancelled, notPassed⟩
  · rintro ⟨⟨notReached, notAllowed⟩, notCancelled, notPassed⟩
    exact ⟨⟨notReached, notPassed⟩, notAllowed, notCancelled⟩

/-- In a rest that the end of a context ends too, time passes as in the rest itself while the context
lives. -/
theorem passes_orEnd :
    (context.orEnd wake).Passes others waits world later ↔
      wake.Passes others (fun world => waits world ∧ context.Lives world) world later := by
  constructor
  · intro passes
    cases passes with
    | beside acts same => exact .beside acts same
    | time before notDue bound steady =>
        obtain ⟨notDue, lives⟩ := isDue_orEnd_eq_false.mp notDue
        obtain ⟨bound, boundEnd⟩ := forall_mem_earlier.mp bound
        have living := (lives_until before).mpr ⟨lives, boundEnd⟩
        exact .time before notDue bound fun passing after early =>
          ⟨steady passing after early, living passing after early⟩
  · intro passes
    cases passes with
    | beside acts same => exact .beside acts same
    | time before notDue bound steady =>
        obtain ⟨lives, boundEnd⟩ :=
          (lives_until before).mp fun passing after early => (steady passing after early).2
        refine .time before (isDue_orEnd_eq_false.mpr ⟨notDue, lives⟩)
          (forall_mem_earlier.mpr ⟨bound, boundEnd⟩) fun passing after early => ?_
        exact (steady passing after early).1

theorem rests_orEnd :
    (context.orEnd wake).Rests others waits world later ↔
      wake.Rests others (fun world => waits world ∧ context.Lives world) world later := by
  constructor
  · exact Relation.ReflTransGen.mono (fun _ _ => passes_orEnd.mp) _ _
  · exact Relation.ReflTransGen.mono (fun _ _ => passes_orEnd.mpr) _ _

/-- A rest under the eyes of a context is a rest as long as the context lives. -/
theorem rests_orEnd_living :
    (context.orEnd wake).Rests others (fun _ => True) world later ↔
      wake.Rests others context.Lives world later := by
  rw [rests_orEnd]
  simp only [true_and]

/-- It makes no difference to ask for that as well. -/
theorem rests_orEnd_lives :
    (context.orEnd wake).Rests others context.Lives world later ↔
      wake.Rests others context.Lives world later := by
  rw [rests_orEnd]
  simp only [and_self]

/-- Time passes in it only while the context lives, whatever else is asked. -/
theorem rests_orEnd_of_rests (rests : (context.orEnd wake).Rests others (fun _ => True) world later) :
    (context.orEnd wake).Rests others context.Lives world later :=
  rests_orEnd_lives.mpr (rests_orEnd_living.mp rests)

/-- Under a deadline no rest lasts for ever. -/
theorem exists_isDue_of_deadline {deadline : Instant} (limited : context.deadline = some deadline) :
    ∃ later, (context.orEnd wake).Rests others (fun _ => True) world later ∧
      (context.orEnd wake).isDue later = true ∧ later.now ≤ max world.now deadline := by
  by_cases due : (context.orEnd wake).isDue world = true
  · exact ⟨world, .refl, due, Nat.le_max_left _ _⟩
  · obtain ⟨instant, bounded, reached⟩ : ∃ instant, instant ≤ deadline ∧
        (context.orEnd wake).instant = some instant := by
      simp only [orEnd, limited]
      exact earlier_le wake.instant deadline
    have passes := Task.passes_of_wait others due reached
    exact ⟨_, .single passes, Task.isDue_of_wait reached, Nat.le_trans bounded (Nat.le_max_right _ _)⟩

end Rests

/-! ### Work under the eyes of a context -/

/-- How started work ends under its context. In both ways the work has run on time and was woken only while
the context lived; if the context ended then at a rest, what was held there is given up. -/
inductive Ends (context : Context) (others : World σ → World σ → Prop) (work : Task σ ε α)
    (world : World σ) : List (Instant × ε) → Except ContextEnd α → World σ → Prop where
  | finished {events : List (Instant × ε)} {value : α} {after : World σ} :
      Task.Punctual others context.Lives context.Lives work world events (.done value) after →
      Ends context others work world events (.ok value) after
  | abandoned {events : List (Instant × ε)} {wake : Wake σ} {held : Cleanup σ ε} {next : Task σ ε α}
      {stop : World σ} {ending : ContextEnd} :
      Task.Punctual others context.Lives context.Lives work world events (.rest wake held next) stop →
      context.endedIn? stop = some ending →
      Ends context others work world (events ++ held.told stop) (.error ending) (held.effect stop)

section Bound

variable {context : Context} {others : World σ → World σ → Prop} {pending held : Cleanup σ ε}
  {work next : Task σ ε α} {world after stop : World σ} {events : List (Instant × ε)}
  {result : Except ContextEnd α} {ending : ContextEnd}

/-- Work that ends in a turn that follows a step of its own ends so with the step before it. -/
theorem Ends.before (own : List (Instant × ε)) {later : World σ} {task : Task σ ε α}
    (h : context.Ends others next later events result after)
    (step : ∀ {events left after},
      Task.Punctual others context.Lives context.Lives next later events left after →
      Task.Punctual others context.Lives context.Lives task world (own ++ events) left after) :
    context.Ends others task world (own ++ events) result after := by
  cases h with
  | finished run => exact .finished (step run)
  | abandoned run ended =>
      rw [← List.append_assoc]
      exact .abandoned (step run) ended

/-- Bound work that is to go on has not yet looked at its context, or finds that it has ended and gives up
what was held, or goes on. -/
theorem punctual_resume {waits wakes : World σ → Prop} {bound left : Task σ ε (Except ContextEnd α)} :
    Task.Punctual others waits wakes (context.resume held bound) world events left after ↔
      (left = context.resume held bound ∧ events = [] ∧ after = world) ∨
      (∃ ending, context.endedIn? world = some ending ∧
        Task.Punctual others waits wakes ((Task.release held).bind fun _ => .done (.error ending)) world
          events left after) ∨
      context.Lives world ∧ Task.Punctual others waits wakes bound world events left after := by
  constructor
  · intro run
    cases run with
    | here => exact .inl ⟨rfl, rfl, rfl⟩
    | look run =>
        cases ended : context.endedIn? world with
        | none =>
            simp only [ended] at run
            exact .inr (.inr ⟨ended, run⟩)
        | some ending =>
            simp only [ended] at run
            exact .inr (.inl ⟨ending, rfl, run⟩)
  · rintro (⟨rfl, rfl, rfl⟩ | ⟨ending, ended, run⟩ | ⟨lives, run⟩)
    · exact .here
    · refine .look ?_
      simp only [ended]
      exact run
    · refine .look ?_
      simp only [show context.endedIn? world = none from lives]
      exact run

theorem punctual_resume_of_lives {waits wakes : World σ → Prop}
    {bound left : Task σ ε (Except ContextEnd α)} (lives : context.Lives world) :
    Task.Punctual others waits wakes (context.resume held bound) world events left after ↔
      (left = context.resume held bound ∧ events = [] ∧ after = world) ∨
        Task.Punctual others waits wakes bound world events left after := by
  rw [punctual_resume]
  constructor
  · rintro (unseen | ⟨ending, ended, -⟩ | ⟨-, run⟩)
    · exact .inl unseen
    · cases ended.symm.trans lives
    · exact .inr run
  · rintro (unseen | run)
    · exact .inl unseen
    · exact .inr (.inr ⟨lives, run⟩)

theorem onTime_resume {bound : Task σ ε (Except ContextEnd α)} :
    Task.OnTime others (context.resume held bound) world events (.done result) after ↔
      (∃ ending, context.endedIn? world = some ending ∧ events = held.told world ∧
        result = .error ending ∧ after = held.effect world) ∨
      context.Lives world ∧ Task.OnTime others bound world events (.done result) after := by
  rw [Task.OnTime, punctual_resume]
  constructor
  · rintro (⟨⟨⟩, -⟩ | ⟨ending, ended, run⟩ | goesOn)
    · exact .inl ⟨ending, ended, Task.punctual_release.mp run⟩
    · exact .inr goesOn
  · rintro (⟨ending, ended, given⟩ | goesOn)
    · exact .inr (.inl ⟨ending, ended, Task.punctual_release.mpr given⟩)
    · exact .inr (.inr goesOn)

/-- Where the context has ended, work that rests is over in this turn. -/
theorem onTime_guard_of_ended {wake : Wake σ} (ended : context.endedIn? world = some ending) :
    Task.OnTime others (context.guard (.rest wake held next)) world (held.told world)
      (.done (.error ending)) (held.effect world) := by
  rw [guard_rest]
  refine .wake .refl (isDue_orEnd_of_ended ended) trivial ?_
  exact onTime_resume.mpr (.inl ⟨ending, ended, rfl, rfl, rfl⟩)

/-- Guarded work goes on from where the work itself is. -/
theorem onTime_guard_of_living {left : Task σ ε α} {more : List (Instant × ε)}
    (run : Task.Punctual others context.Lives context.Lives work world events left stop)
    (goesOn : Task.OnTime others (context.guard left) stop more (.done result) after) :
    Task.OnTime others (context.guard work) world (events ++ more) (.done result) after := by
  induction run with
  | here => exact goesOn
  | look _ ih => exact .look (ih goesOn)
  | change _ ih => exact .change (ih goesOn)
  | emit _ ih => exact .emit (ih goesOn)
  | resting rests =>
      cases goesOn with
      | wake onward due _ run =>
          exact .wake ((rests_orEnd_living.mpr rests).trans onward) due trivial run
  | wake rests due lives _ ih =>
      refine .wake (rests_orEnd_living.mpr rests) ?_ trivial (onTime_resume.mpr (.inr ⟨lives, ih goesOn⟩))
      rwa [isDue_orEnd lives]

/-- Guarded work ends with its value, or where it rests when the context ends. -/
theorem onTime_guard :
    Task.OnTime others (context.guard work) world events (.done result) after ↔
      context.Ends others work world events result after := by
  constructor
  · intro run
    induction work generalizing world events with
    | done value =>
        cases run with
        | here => exact .finished .here
    | look next ih =>
        cases run with
        | look run => exact (ih world run).before [] .look
    | change act next ih =>
        cases run with
        | change run => exact (ih world run).before [] .change
    | emit event next ih =>
        cases run with
        | emit run => exact (ih run).before [(world.now, event)] .emit
    | rest wake held next ih =>
        cases run with
        | wake rests due _ run =>
            rw [rests_orEnd_living] at rests
            rcases onTime_resume.mp run with ⟨ending, ended, rfl, rfl, rfl⟩ | ⟨lives, run⟩
            · rw [← List.nil_append (held.told _)]
              exact .abandoned (.resting rests) ended
            · rw [isDue_orEnd lives] at due
              exact (ih run).before [] (.wake rests due lives)
    | panic reason => cases run
  · intro ends
    cases ends with
    | finished run =>
        rw [← List.append_nil events]
        exact onTime_guard_of_living run .here
    | abandoned run ended => exact onTime_guard_of_living run (onTime_guard_of_ended ended)

theorem onTime_run_of_lives (lives : context.Lives world) :
    Task.OnTime others (context.run pending work) world events (.done result) after ↔
      context.Ends others work world events result after := by
  rw [run_eq_resume, onTime_resume, onTime_guard]
  constructor
  · rintro (⟨ending, ended, -⟩ | ⟨-, ends⟩)
    · rw [show context.endedIn? world = none from lives] at ended
      cases ended
    · exact ends
  · exact fun ends => .inr ⟨lives, ends⟩

theorem onTime_run_of_ended (ended : context.endedIn? world = some ending) :
    Task.OnTime others (context.run pending work) world events (.done result) after ↔
      events = pending.told world ∧ result = .error ending ∧ after = pending.effect world := by
  rw [run_eq_resume, onTime_resume]
  constructor
  · rintro (⟨other, ended', given⟩ | ⟨lives, -⟩)
    · cases ended.symm.trans ended'
      exact given
    · cases ended.symm.trans lives
  · exact fun given => .inl ⟨ending, ended, given⟩

/-- Time passes for bound work only while its context lives. -/
theorem living_of_onTime_guard {left : Task σ ε (Except ContextEnd α)}
    (run : Task.OnTime others (context.guard work) world events left after) :
    Task.Punctual others context.Lives (fun _ => True) (context.guard work) world events left after := by
  induction work generalizing world events with
  | done value =>
      cases run with
      | here => exact .here
  | look next ih =>
      cases run with
      | here => exact .here
      | look run => exact .look (ih world run)
  | change act next ih =>
      cases run with
      | here => exact .here
      | change run => exact .change (ih world run)
  | emit event next ih =>
      cases run with
      | here => exact .here
      | emit run => exact .emit (ih run)
  | rest wake held next ih =>
      cases run with
      | here => exact .here
      | resting rests => exact .resting (rests_orEnd_of_rests rests)
      | wake rests due woken run =>
          refine .wake (rests_orEnd_of_rests rests) due trivial (punctual_resume.mpr ?_)
          rcases punctual_resume.mp run with unseen | ⟨ending, ended, run⟩ | ⟨lives, run⟩
          · exact .inl unseen
          · exact .inr (.inl ⟨ending, ended, run.of_release.1 _ _⟩)
          · exact .inr (.inr ⟨lives, ih run⟩)
  | panic reason =>
      cases run with
      | here => exact .here

theorem living_of_onTime_run {left : Task σ ε (Except ContextEnd α)}
    (run : Task.OnTime others (context.run pending work) world events left after) :
    Task.Punctual others context.Lives (fun _ => True) (context.run pending work) world events left
      after := by
  refine punctual_resume.mpr ?_
  rcases punctual_resume.mp run with unseen | ⟨ending, ended, run⟩ | ⟨lives, run⟩
  · exact .inl unseen
  · exact .inr (.inl ⟨ending, ended, run.of_release.1 _ _⟩)
  · exact .inr (.inr ⟨lives, living_of_onTime_guard run⟩)

/-- Where bound work rests, it is work at a rest that is bound. -/
theorem exists_guard_of_rest {wake : Wake σ} {left : Task σ ε (Except ContextEnd α)}
    (run : Task.OnTime others (context.guard work) world events (.rest wake held left) stop) :
    ∃ own next, .rest wake held left = context.guard (.rest own held next : Task σ ε α) := by
  induction work generalizing world events with
  | done value => cases run
  | look next ih =>
      cases run with
      | look run => exact ih world run
  | change act next ih =>
      cases run with
      | change run => exact ih world run
  | emit event next ih =>
      cases run with
      | emit run => exact ih run
  | rest own kept next ih =>
      cases run with
      | here => exact ⟨own, next, rfl⟩
      | resting => exact ⟨own, next, rfl⟩
      | wake rests due woken run =>
          rcases punctual_resume.mp run with ⟨⟨⟩, -⟩ | ⟨ending, ended, run⟩ | ⟨lives, run⟩
          · exact absurd rfl (run.of_release.2 _ _ _)
          · exact ih run
  | panic reason => cases run

theorem exists_guard_of_rest_run {wake : Wake σ} {left : Task σ ε (Except ContextEnd α)}
    (lives : context.Lives world)
    (run : Task.OnTime others (context.run pending work) world events (.rest wake held left) stop) :
    ∃ own next, .rest wake held left = context.guard (.rest own held next : Task σ ε α) := by
  rcases (punctual_resume_of_lives lives).mp run with ⟨⟨⟩, -⟩ | run
  exact exists_guard_of_rest run

/-! ### Bound twice -/

/-- Work that is bound goes on while the context lives as the work itself does. -/
theorem living_of_guard {left : Task σ ε (Except ContextEnd α)}
    (run : Task.Punctual others context.Lives context.Lives (context.guard work) world events left after) :
    ∃ own, Task.Punctual others context.Lives context.Lives work world events own after ∧
      (left = context.guard own ∨ ∃ held, left = context.resume held (context.guard own)) := by
  induction work generalizing world events with
  | done value =>
      cases run with
      | here => exact ⟨_, .here, .inl rfl⟩
  | look next ih =>
      cases run with
      | here => exact ⟨_, .here, .inl rfl⟩
      | look run =>
          obtain ⟨own, ran, same⟩ := ih world run
          exact ⟨own, .look ran, same⟩
  | change act next ih =>
      cases run with
      | here => exact ⟨_, .here, .inl rfl⟩
      | change run =>
          obtain ⟨own, ran, same⟩ := ih world run
          exact ⟨own, .change ran, same⟩
  | emit event next ih =>
      cases run with
      | here => exact ⟨_, .here, .inl rfl⟩
      | emit run =>
          obtain ⟨own, ran, same⟩ := ih run
          exact ⟨own, .emit ran, same⟩
  | rest wake held next ih =>
      cases run with
      | here => exact ⟨_, .here, .inl rfl⟩
      | resting rests => exact ⟨_, .resting (rests_orEnd_lives.mp rests), .inl rfl⟩
      | wake rests due lives run =>
          rw [rests_orEnd_lives] at rests
          rw [isDue_orEnd lives] at due
          rcases (punctual_resume_of_lives lives).mp run with ⟨rfl, rfl, rfl⟩ | run
          · exact ⟨next, .wake rests due lives .here, .inr ⟨held, rfl⟩⟩
          · obtain ⟨own, ran, same⟩ := ih run
            exact ⟨own, .wake rests due lives ran, same⟩
  | panic reason =>
      cases run with
      | here => exact ⟨_, .here, .inl rfl⟩

theorem living_guard {left : Task σ ε α}
    (run : Task.Punctual others context.Lives context.Lives work world events left after) :
    Task.Punctual others context.Lives context.Lives (context.guard work) world events
      (context.guard left) after := by
  induction run with
  | here => exact .here
  | look _ ih => exact .look ih
  | change _ ih => exact .change ih
  | emit _ ih => exact .emit ih
  | resting rests => exact .resting (rests_orEnd_lives.mpr rests)
  | wake rests due lives _ ih =>
      refine .wake (rests_orEnd_lives.mpr rests) ?_ lives ((punctual_resume_of_lives lives).mpr (.inr ih))
      rwa [isDue_orEnd lives]

/-- Work that is bound already ends under the same context as the work itself. -/
theorem ends_run (lives : context.Lives world) {nested : Except ContextEnd (Except ContextEnd α)} :
    context.Ends others (context.run pending work) world events nested after ↔
      ∃ result, context.Ends others work world events result after ∧ nested = result.map .ok := by
  constructor
  · intro ends
    cases ends with
    | finished run =>
        rcases (punctual_resume_of_lives lives).mp run with ⟨⟨⟩, -⟩ | run
        obtain ⟨own, ran, same | ⟨held, same⟩⟩ := living_of_guard run
        · cases own with
          | done value =>
              cases same
              exact ⟨.ok value, .finished ran, rfl⟩
          | _ => cases same
        · cases same
    | abandoned run ended =>
        rcases (punctual_resume_of_lives lives).mp run with ⟨⟨⟩, -⟩ | run
        obtain ⟨own, ran, same | ⟨held, same⟩⟩ := living_of_guard run
        · cases own with
          | rest wake kept next =>
              cases same
              exact ⟨.error _, .abandoned ran ended, rfl⟩
          | _ => cases same
        · cases same
  · rintro ⟨result, ends, rfl⟩
    have begin : ∀ {events} {left : Task σ ε α} {after},
        Task.Punctual others context.Lives context.Lives work world events left after →
        Task.Punctual others context.Lives context.Lives (context.run pending work) world events
          (context.guard left) after := by
      intro events left after run
      exact (punctual_resume_of_lives lives).mpr (.inr (living_guard run))
    cases ends with
    | finished run => exact .finished (begin run)
    | abandoned run ended => exact .abandoned (begin run) ended

/-- Work that is bound twice to a context is bound once, whatever it was to take over. -/
theorem onTime_run_run (again : Cleanup σ ε) :
    Task.OnTime others ((context.run pending (context.run again work)).bind fun nested =>
        .done (nested.bind id)) world events (.done result) after ↔
      Task.OnTime others (context.run pending work) world events (.done result) after := by
  refine Task.punctual_map.trans ?_
  cases ended : context.endedIn? world with
  | some ending =>
      simp only [onTime_run_of_ended ended]
      constructor
      · rintro ⟨_, ⟨rfl, rfl, rfl⟩, rfl⟩
        exact ⟨rfl, rfl, rfl⟩
      · rintro ⟨rfl, rfl, rfl⟩
        exact ⟨_, ⟨rfl, rfl, rfl⟩, rfl⟩
  | none =>
      have flat : ∀ result : Except ContextEnd α, (result.map .ok).bind id = result := by
        intro result
        cases result <;> rfl
      simp only [onTime_run_of_lives ended, ends_run ended]
      constructor
      · rintro ⟨_, ⟨inner, ends, rfl⟩, rfl⟩
        rwa [flat]
      · intro ends
        exact ⟨_, ⟨result, ends, rfl⟩, flat result⟩

/-! ### The instants at which bound work ends -/

section Instants

variable {deadline : Instant} (limited : context.deadline = some deadline)

include limited

theorem lt_deadline_of_lives (lives : context.Lives world) : world.now < deadline := by
  have notPassed := (endedIn?_eq_none_iff.mp lives).2
  rw [limited, Option.any_some, decide_eq_false_iff_not] at notPassed
  exact Nat.lt_of_not_le notPassed

theorem deadline_le_of_ended (ended : context.endedIn? world = some .deadline) :
    deadline ≤ world.now := by
  unfold endedIn? ended? at ended
  split at ended
  · cases ended
  · split at ended
    · rename_i passed
      rw [limited] at passed
      exact of_decide_eq_true passed
    · cases ended

theorem le_deadline_of_rests {wake : Wake σ} (rests : wake.Rests others context.Lives world after)
    (before : world.now ≤ deadline) : after.now ≤ deadline := by
  induction rests with
  | refl => exact before
  | tail _ passes ih =>
      cases passes with
      | beside _ same => exact same ▸ ih
      | time before _ _ steady => exact ((lives_until before).mp steady).2 deadline limited

/-- Work that leaves the clock alone never comes beyond the deadline, and is done before it. -/
theorem le_deadline_of_living {left : Task σ ε α} (timeless : work.Keeps World.SameTime fun _ => True)
    (run : Task.Punctual others context.Lives context.Lives work world events left after)
    (before : world.now < deadline) :
    after.now ≤ deadline ∧ ∀ value, left = .done value → after.now < deadline := by
  induction run with
  | here => exact ⟨Nat.le_of_lt before, fun _ _ => before⟩
  | look _ ih => exact ih (timeless _) before
  | change _ ih => exact ih (timeless.2 _) (Nat.lt_of_le_of_lt (Nat.le_of_eq (timeless.1 _)) before)
  | emit _ ih => exact ih timeless before
  | resting rests => exact ⟨le_deadline_of_rests limited rests (Nat.le_of_lt before), nofun⟩
  | wake _ _ lives _ ih => exact ih timeless.2 (lt_deadline_of_lives limited lives)

end Instants

end Bound

/-! ### What bound work does, and when -/

/-- What becomes of work that is bound to a context, if it is begun in a certain world. -/
structure RunsOnTime (context : Context) (others : World σ → World σ → Prop) (pending : Cleanup σ ε)
    (work : Task σ ε α) (world : World σ) : Prop where
  /-- If the context has ended, the work is not begun, and what it was to take over is given up. -/
  refused : ∀ {ending events result after}, context.endedIn? world = some ending →
    (Task.OnTime others (context.run pending work) world events (.done result) after ↔
      events = pending.told world ∧ result = .error ending ∧ after = pending.effect world)
  /-- Else it ends with its value, or with the end of its context. -/
  ends : ∀ {events result after}, context.Lives world →
    (Task.OnTime others (context.run pending work) world events (.done result) after ↔
      context.Ends others work world events result after)
  /-- Time passes only while the context lives. -/
  lives : ∀ {events left after},
    Task.OnTime others (context.run pending work) world events left after →
      Task.Punctual others context.Lives (fun _ => True) (context.run pending work) world events left
        after
  /-- At a rest at which the context has ended all is over at once. -/
  prompt : ∀ {events wake held left stop ending}, context.Lives world →
    Task.OnTime others (context.run pending work) world events (.rest wake held left) stop →
      context.endedIn? stop = some ending →
        Task.OnTime others (.rest wake held left) stop (held.told stop) (.done (.error ending))
          (held.effect stop)
  /-- Under a deadline no rest lasts for ever. -/
  wakes : ∀ {events wake held left stop deadline}, context.Lives world →
    context.deadline = some deadline →
      Task.OnTime others (context.run pending work) world events (.rest wake held left) stop →
        ∃ later, wake.Rests others (fun _ => True) stop later ∧ wake.isDue later = true ∧
          later.now ≤ max stop.now deadline
  /-- Work that is done was done before the deadline. -/
  done : ∀ {events value after deadline}, context.Lives world → context.deadline = some deadline →
    context.Ends others work world events (.ok value) after → after.now < deadline
  /-- Work that was abandoned was so by the deadline, and at the deadline if this was why. -/
  abandoned : ∀ {events ending after deadline}, context.Lives world →
    context.deadline = some deadline → context.Ends others work world events (.error ending) after →
      after.now ≤ deadline ∧ (ending = .deadline → after.now = deadline)
  /-- To bind the work once more to the same context changes nothing. -/
  nested : ∀ {again events result after},
    Task.OnTime others ((context.run pending (context.run again work)).bind fun nested =>
        .done (nested.bind id)) world events (.done result) after ↔
      Task.OnTime others (context.run pending work) world events (.done result) after

/-- Work that does not set the clock is begun unless its context has ended, and is over at the first of
these: it is done, the context is cancelled, or the deadline has come. -/
theorem run_onTime (context : Context) (others : World σ → World σ → Prop) (pending : Cleanup σ ε)
    {work : Task σ ε α} (timeless : work.Keeps World.SameTime fun _ => True) (world : World σ) :
    context.RunsOnTime others pending work world where
  refused := onTime_run_of_ended
  ends := onTime_run_of_lives
  lives := living_of_onTime_run
  prompt := by
    intro events wake held left stop ending lives run ended
    obtain ⟨own, next, same⟩ := exists_guard_of_rest_run lives run
    rw [same]
    exact onTime_guard_of_ended ended
  wakes := by
    intro events wake held left stop deadline lives limited run
    obtain ⟨own, next, same⟩ := exists_guard_of_rest_run lives run
    cases same
    exact exists_isDue_of_deadline limited
  done := by
    intro events value after deadline lives limited ends
    cases ends with
    | finished run =>
        have before := lt_deadline_of_lives limited lives
        exact (le_deadline_of_living limited timeless run before).2 value rfl
  abandoned := by
    intro events ending after deadline lives limited ends
    cases ends with
    | abandoned run ended =>
        rename_i held _ stop
        have before := lt_deadline_of_lives limited lives
        have same : (held.effect stop).now = stop.now := (timeless.of_punctual run).1 stop
        have reached := (le_deadline_of_living limited timeless run before).1
        rw [same]
        refine ⟨reached, ?_⟩
        rintro rfl
        exact Nat.le_antisymm reached (deadline_le_of_ended limited ended)
  nested := onTime_run_run _

/-- Work that would be done at the deadline is abandoned there. -/
theorem run_onTime_tied :
    let context : Context := ⟨0, some 5⟩
    let work : Task Unit Unit Nat := .rest ⟨some 5, fun _ => false⟩ ⟨id, [()]⟩ (.done 7)
    let start : World Unit := ⟨2, none, ⟨[⟨none, false⟩]⟩, .empty, ()⟩
    (work.Keeps World.SameTime fun _ => True) ∧
      context.RunsOnTime (fun _ _ => False) .none work start ∧
      Task.OnTime (fun _ _ => False) (context.run .none work) start [(5, ())] (.done (.error .deadline))
        { start with now := 5 } := by
  intro context work start
  have timeless : work.Keeps World.SameTime fun _ => True := ⟨fun _ => rfl, trivial⟩
  have onTime := run_onTime context (fun _ _ => False) .none timeless start
  have passes : Wake.Passes (fun _ _ => False) context.Lives ⟨some 5, fun _ => false⟩ start
      { start with now := 5 } := by
    refine .time (by decide) rfl (fun _ mem => ?_) ?_
    · cases mem
      exact Nat.le_refl _
    · refine (lives_until (by decide)).mpr ⟨rfl, fun _ mem => ?_⟩
      cases mem
      exact Nat.le_refl _
  exact ⟨timeless, onTime, (onTime.ends rfl).mpr (.abandoned (.resting (.single passes)) rfl)⟩

end Context
end ResilientHttp

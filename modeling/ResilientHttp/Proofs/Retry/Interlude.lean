import ResilientHttp.Proofs.Recording
import ResilientHttp.Proofs.Task.Timely
import ResilientHttp.Proofs.Task.Trail

/-!
A call between its exchanges. The executor of a call tells what it likes while it has a request; what is
told when all requests are answered is told by the call itself. `interlude` picks the moments of that out
of a trail, and the steps of a call are taken here once more, with the moments that each of them leaves.

* `interlude_append`, `interlude_told` — the moments of an interlude, piece by piece.
* `Context.ensures_run_silent` — a body that is read leaves moments without events.
* `Context.ensures_run_sleep` — so does a wait, and when it has passed the world is looked at.
* `ensures_discard_told` — an outcome is discarded in the world that the discard leaves.
-/

namespace ResilientHttp

variable {σ α : Type}

/-! ### Between exchanges -/

/-- The moments between two exchanges: those at which a count of requests was handed over and all of them
were answered. -/
def interlude (count : Nat) (moments : List (Moment (Noted σ) Event)) : List (Moment σ Event) :=
  (moments.filter fun moment =>
    moment.world.journal.handed.length = count ∧ moment.world.journal.answered.length = count).map
      Moment.plain

section Interlude

variable {count : Nat} {moments more : List (Moment (Noted σ) Event)}

theorem interlude_append :
    interlude count (moments ++ more) = interlude count moments ++ interlude count more := by
  simp [interlude]

theorem interlude_eq_nil (h : ∀ moment ∈ moments, moment.world.journal.handed.length = count →
    moment.world.journal.answered.length ≠ count) : interlude count moments = [] := by
  rw [interlude, List.map_eq_nil_iff, List.filter_eq_nil_iff]
  intro moment mem
  simpa using h moment mem

/-- Where nothing was told at all, nothing was told between two exchanges. -/
theorem events_interlude_eq_nil (h : ∀ moment ∈ moments, moment.event = none) :
    (interlude count moments).filterMap Moment.event = [] := by
  simp only [interlude, List.filterMap_map, List.filterMap_eq_nil_iff, List.mem_filter]
  rintro moment ⟨mem, -⟩
  exact h moment mem

/-- What is told in one world. -/
theorem interlude_told {world : World (Noted σ)} (events : List Event)
    (handed : world.journal.handed.length = count) (answered : world.journal.answered.length = count) :
    interlude count (events.map fun event => ⟨world, some event⟩) =
      events.map fun event => ⟨world.plain, some event⟩ := by
  rw [interlude, List.filter_eq_self.mpr ?_, List.map_map]
  · rfl
  · intro moment mem
    obtain ⟨event, -, rfl⟩ := List.mem_map.mp mem
    simp [handed, answered]

theorem events_interlude_singleton (world : World (Noted σ)) (event : Event) :
    (interlude count [⟨world, some event⟩]).filterMap Moment.event =
      if world.journal.handed.length = count ∧ world.journal.answered.length = count then [event]
      else [] := by
  by_cases h : world.journal.handed.length = count ∧ world.journal.answered.length = count
  · simp [interlude, h, Moment.plain]
  · rw [if_neg h, interlude_eq_nil]
    · rfl
    · exact List.forall_mem_singleton.mpr fun handed answered => h ⟨handed, answered⟩

end Interlude

namespace ExchangeResult

/-- What is told when an outcome is discarded. -/
def released : ExchangeResult σ → List Event
  | .ok response => response.held.events
  | .error _ => []

/-- The world in which an outcome has been discarded. -/
def discarded : ExchangeResult σ → World σ → World σ
  | .ok response, world => response.held.effect world
  | .error _, world => world

end ExchangeResult

/-! ### Steps of a call, moment by moment -/

/-- A rest that only time ends is over when its time has come. -/
theorem Wake.le_now {instant : Instant} {world : World σ}
    (due : (⟨some instant, fun _ => false⟩ : Wake σ).isDue world = true) : instant ≤ world.now := by
  simpa [isDue] using due

namespace Context

section Steps

variable {context : Context} {good : α → Prop}
  {always : List (Moment (Noted σ) Event) → World (Noted σ) → Prop}
  {past : List (Moment (Noted σ) Event)} {world : World (Noted σ)}

theorem ensures_check_told
    {post : List (Moment (Noted σ) Event) → Except ContextEnd Unit → World (Noted σ) → Prop}
    (now : always past world) (looked : always (past ++ [⟨world, none⟩]) world)
    (ended : ∀ now ending after, context.SeenEnded now ending → post now (.error ending) after)
    (goesOn : post (past ++ [⟨world, none⟩]) (.ok ()) world) :
    context.check.Ensures World.Alongside always post past world := by
  refine ⟨now, ?_⟩
  dsimp only
  split
  · exact ⟨looked, ended _ _ _ (.last ‹_›)⟩
  · exact ⟨looked, goesOn⟩

/-- Bound work that leaves the journal alone and tells of nothing. -/
theorem ensures_run_silent
    {post : List (Moment (Noted σ) Event) → Except ContextEnd α → World (Noted σ) → Prop}
    {task : Task (Noted σ) Event α} (keeps : task.Keeps World.SameJournal good) (silent : task.Silent)
    (steady : ∀ now after, after.journal = world.journal →
      Since (fun moment => moment.world.journal = world.journal ∧ moment.event = none) past now →
      always now after)
    (ended : ∀ now ending after, context.SeenEnded now ending → post now (.error ending) after)
    (finish : ∀ now value after, after.journal = world.journal →
      Since (fun moment => moment.world.journal = world.journal ∧ moment.event = none) past now →
      good value → post now (.ok value) after) :
    (context.run .none task).Ensures World.Alongside always post past world := by
  have quiet : (context.run .none task).Ensures World.Alongside
      (fun _ after => after.journal = world.journal)
      (fun now result _ => context.Gives good now result) past world :=
    ensures_run_quiet keeps (fun _ _ same => same) (fun _ _ _ _ seen => seen) fun _ _ _ _ good => good
  have told := (quiet.since (fun after => after.journal = world.journal)
    (fun _ _ same => same) (.refl _ past)).silently (context.silent_run silent) (.refl _ past)
  refine (told.mono ?_).weaken ?_
  · rintro now result after ⟨⟨same, journals⟩, events⟩ ends
    cases result with
    | error ending => exact ended now ending after ends
    | ok value => exact finish now value after same (journals.and events) ends
  · rintro now after ⟨⟨same, journals⟩, events⟩
    exact steady now after same (journals.and events)

/-- A sleep that is bound. When it is over and the context has not ended, the world was looked at after
its time had passed. -/
theorem ensures_run_sleep
    {post : List (Moment (Noted σ) Event) → Except ContextEnd Unit → World (Noted σ) → Prop}
    (span : Duration)
    (steady : ∀ now after, after.journal = world.journal →
      Since (fun moment => moment.world.journal = world.journal ∧ moment.event = none) past now →
      always now after)
    (ended : ∀ now ending after, context.SeenEnded now ending → post now (.error ending) after)
    (finish : ∀ now after, after.journal = world.journal →
      Since (fun moment => moment.world.journal = world.journal ∧ moment.event = none) past now →
      world.now + world.lasting span ≤ after.now → post (now ++ [⟨after, none⟩]) (.ok ()) after) :
    (context.run .none (Task.sleep .none span)).Ensures World.Alongside always post past world := by
  let still (moment : Moment (Noted σ) Event) : Prop :=
    moment.world.journal = world.journal ∧ moment.event = none
  have begun : Since still past past := .refl _ past
  have looked : Since still past (past ++ [⟨world, none⟩]) := begun.concat ⟨rfl, rfl⟩
  refine ⟨steady past world rfl begun, ?_⟩
  dsimp only
  cases live : context.endedIn? world with
  | some ending => exact ⟨steady _ world rfl looked, steady _ world rfl looked, ended _ _ _ (.last live)⟩
  | none =>
      rw [Task.sleep_eq]
      by_cases zero : span.isZero = true
      · rw [if_pos zero]
        have nothing : world.now + world.lasting span ≤ world.now := by
          simp [world.lasting_of_isZero zero]
        exact ⟨steady _ world rfl looked, finish past world rfl begun nothing⟩
      · rw [if_neg zero]
        have twice : Since still past (past ++ [⟨world, none⟩] ++ [⟨world, none⟩]) :=
          looked.concat ⟨rfl, rfl⟩
        refine ⟨steady _ world rfl looked, steady _ world rfl twice, fun later beside due => ?_⟩
        have same : later.journal = world.journal := beside.journal
        have thrice : Since still past
            (past ++ [⟨world, none⟩] ++ [⟨world, none⟩] ++ [⟨later, none⟩]) :=
          twice.concat ⟨same, rfl⟩
        refine ⟨steady _ later same twice, ?_⟩
        dsimp only
        cases alive : context.endedIn? later with
        | some ending =>
            exact ⟨steady _ later same thrice, steady _ later same thrice, ended _ _ _ (.last alive)⟩
        | none =>
            rw [isDue_orEnd alive] at due
            exact ⟨steady _ later same thrice, finish _ later same twice (Wake.le_now due)⟩

end Steps
end Context

theorem ensures_discard_told {always : List (Moment (Noted σ) Event) → World (Noted σ) → Prop}
    {post : List (Moment (Noted σ) Event) → Unit → World (Noted σ) → Prop}
    {past : List (Moment (Noted σ) Event)} {world : World (Noted σ)} (outcome : ExchangeResult σ)
    (now : always past world)
    (steady : ∀ told, told <+: outcome.released →
      always (past ++ told.map fun event =>
        ⟨(outcome.discarded world.plain).noted world.journal, some event⟩)
        ((outcome.discarded world.plain).noted world.journal))
    (h : post (past ++ outcome.released.map fun event =>
        ⟨(outcome.discarded world.plain).noted world.journal, some event⟩) ()
        ((outcome.discarded world.plain).noted world.journal)) :
    (ExchangeResult.discard (outcome.map Response.noted)).Ensures World.Alongside always post past
      world := by
  cases outcome with
  | error error =>
      rw [ExchangeResult.released, List.map_nil, List.append_nil] at h
      exact ⟨now, h⟩
  | ok response => exact Task.ensures_release_told now steady h

end ResilientHttp

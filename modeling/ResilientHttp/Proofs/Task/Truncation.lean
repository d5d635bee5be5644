import ResilientHttp.Proofs.Task.Keeping
import ResilientHttp.Proofs.Task.Run

/-!
Tasks that are cut off at an instant. Two tasks agree up to an instant if they take the same steps as
long as the clock has not reached it (`Task.Agrees`), and a task yields at the instant if it never
rests beyond it and then only gives up what it holds (`Task.Yields`). Of two tasks of these kinds the
second is the first one, truncated: `truncatedAt_of_agrees`. What the first one holds when its time has
run out is `Task.interrupted?`.
-/

namespace ResilientHttp

variable {σ ε α β : Type}

/-- Both worlds have the same time. -/
def World.SameTime (world after : World σ) : Prop := after.now = world.now

theorem Cleanup.timeless_none : (Cleanup.none : Cleanup σ ε).Keeps World.SameTime :=
  Cleanup.keeps_none fun _ => rfl

namespace Task

/-- The worlds that the course of a task passes through. -/
def worlds : Task σ ε α → World σ → List (World σ)
  | .done _, world => [world]
  | .look next, world => world :: (next world).worlds world
  | .change act next, world => world :: (next world).worlds (act world)
  | .emit _ next, world => world :: next.worlds world
  | .rest wake _ next, world =>
      world ::
        if wake.isDue world then next.worlds world
        else
          match wake.instant with
          | some instant => next.worlds { world with now := instant }
          | none => []
  | .panic _, world => [world]

/-- What the course of a task still holds when the clock comes to an instant, and the world of that
moment; nothing if the course is over before. -/
def interrupted? (limit : Instant) : Task σ ε α → World σ → Option (Cleanup σ ε × World σ)
  | .done _, _ => none
  | .look next, world => (next world).interrupted? limit world
  | .change act next, world => (next world).interrupted? limit (act world)
  | .emit _ next, world => next.interrupted? limit world
  | .rest wake held next, world =>
      if wake.isDue world then next.interrupted? limit world
      else
        match wake.instant with
        | some instant =>
            if instant < limit then next.interrupted? limit { world with now := instant }
            else some (held, { world with now := limit })
        | none => some (held, { world with now := limit })
  | .panic _, _ => none

/-! ### Time in a course -/

section Time

variable {good : α → Prop} {task : Task σ ε α} {world : World σ} {limit : Instant}

/-- In the course of a task that leaves the clock alone nothing happens before it began. -/
theorem Keeps.le_course (keeps : task.Keeps World.SameTime good) (world : World σ) :
    world.now ≤ (task.course world).finish ∧
      ∀ event ∈ (task.course world).events, world.now ≤ event.1 := by
  induction task generalizing world with
  | done value => exact ⟨Nat.le_refl _, nofun⟩
  | look next ih => exact ih world (keeps world) world
  | change act next ih =>
      have same : (act world).now = world.now := keeps.1 world
      rw [course_change, ← same]
      exact ih world (keeps.2 world) (act world)
  | emit event next ih =>
      obtain ⟨finish, events⟩ := ih keeps world
      refine ⟨finish, fun other mem => ?_⟩
      rcases List.mem_cons.mp mem with rfl | mem
      · exact Nat.le_refl _
      · exact events other mem
  | rest wake held next ih =>
      by_cases due : wake.isDue world = true
      · rw [course_rest_of_due due]
        exact ih keeps.2 world
      · cases hinstant : wake.instant with
        | none =>
            rw [course_rest_of_never due hinstant]
            exact ⟨Nat.le_refl _, nofun⟩
        | some instant =>
            rw [course_rest_of_wait due hinstant]
            have later := Nat.le_of_lt (lt_of_not_isDue due hinstant)
            obtain ⟨finish, events⟩ := ih keeps.2 { world with now := instant }
            exact ⟨Nat.le_trans later finish, fun event mem => Nat.le_trans later (events event mem)⟩
  | panic reason => exact ⟨Nat.le_refl _, nofun⟩

/-- What is held at an instant leaves the clock alone, and the clock shows the instant. -/
theorem Keeps.of_interrupted {held : Cleanup σ ε} {after : World σ}
    (keeps : task.Keeps World.SameTime good)
    (h : task.interrupted? limit world = some (held, after)) :
    held.Keeps World.SameTime ∧ after.now = limit := by
  induction task generalizing world with
  | done value => cases h
  | look next ih => exact ih world (keeps world) h
  | change act next ih => exact ih world (keeps.2 world) h
  | emit event next ih => exact ih keeps h
  | rest wake kept next ih =>
      simp only [interrupted?] at h
      split at h
      · exact ih keeps.2 h
      · split at h
        · split at h
          · exact ih keeps.2 h
          · cases h
            exact ⟨keeps.1, rfl⟩
        · cases h
          exact ⟨keeps.1, rfl⟩
  | panic reason => cases h

/-- A course is interrupted at an instant unless it is over before. -/
theorem Keeps.interrupted?_eq_none_iff (keeps : task.Keeps World.SameTime good)
    (before : world.now < limit) :
    task.interrupted? limit world = none ↔
      (task.course world).outcome ≠ .never ∧ (task.course world).finish < limit := by
  induction task generalizing world with
  | done value => exact ⟨fun _ => ⟨nofun, before⟩, fun _ => rfl⟩
  | look next ih => exact ih world (keeps world) before
  | change act next ih =>
      have same : (act world).now = world.now := keeps.1 world
      exact ih world (keeps.2 world) (by rwa [same])
  | emit event next ih => exact ih keeps before
  | rest wake held next ih =>
      rw [interrupted?]
      by_cases due : wake.isDue world = true
      · rw [if_pos due, course_rest_of_due due]
        exact ih keeps.2 before
      · rw [if_neg due]
        cases hinstant : wake.instant with
        | none =>
            rw [course_rest_of_never due hinstant]
            exact ⟨nofun, fun h => absurd rfl h.1⟩
        | some instant =>
            rw [course_rest_of_wait due hinstant]
            by_cases early : instant < limit
            · simp only [if_pos early]
              exact ih keeps.2 early
            · simp only [if_neg early]
              refine ⟨nofun, fun h => absurd h.2 (Nat.not_lt.mpr ?_)⟩
              have finish := (keeps.2.le_course { world with now := instant }).1
              exact Nat.le_trans (Nat.not_lt.mp early) finish
  | panic reason => exact ⟨fun _ => ⟨nofun, before⟩, fun _ => rfl⟩

end Time

theorem course_emitAll (events : List ε) (world : World σ) :
    (emitAll events : Task σ ε Unit).course world =
      ⟨events.map fun event => (world.now, event), world, .value ()⟩ := by
  induction events with
  | nil => rfl
  | cons event later ih =>
      rw [emitAll, course_emit, ih]
      rfl

theorem course_release (held : Cleanup σ ε) (stop : α) (world : World σ) :
    ((release held).bind fun _ => .done stop).course world =
      ⟨held.events.map fun event => ((held.effect world).now, event), held.effect world,
        .value stop⟩ := by
  rw [course_bind, release, course_change, course_emitAll]
  simp [Course.andThen]

/-! ### Rests beyond an instant -/

section Late

variable {wake : Wake σ} {held : Cleanup σ ε} {next : Task σ ε α} {world : World σ}
  {limit : Instant}

theorem interrupted?_of_late (notDue : ¬ wake.isDue world = true)
    (late : ∀ instant, instant < limit → wake.instant ≠ some instant) :
    (Task.rest wake held next).interrupted? limit world =
      some (held, { world with now := limit }) := by
  rw [interrupted?, if_neg notDue]
  cases hinstant : wake.instant with
  | none => rfl
  | some instant => exact if_neg fun early => late instant early hinstant

theorem filter_events_of_late {good : α → Prop} (keeps : next.Keeps World.SameTime good)
    (notDue : ¬ wake.isDue world = true)
    (late : ∀ instant, instant < limit → wake.instant ≠ some instant) :
    ((Task.rest wake held next).course world).events.filter (fun event => event.1 < limit) = [] := by
  cases hinstant : wake.instant with
  | none =>
      rw [course_rest_of_never notDue hinstant]
      rfl
  | some instant =>
      have notEarly : limit ≤ instant := Nat.not_lt.mp fun early => late instant early hinstant
      rw [course_rest_of_wait notDue hinstant]
      refine List.filter_eq_nil_iff.mpr ?_
      intro event mem
      have after := (keeps.le_course { world with now := instant }).2 event mem
      simpa using Nat.le_trans notEarly after

end Late

/-! ### Agreeing up to an instant -/

section Limit

variable (calm : World σ → Prop) (limit : Instant)

/-- Two tasks take the same steps as long as the world is calm and the clock has not reached an
instant. -/
inductive Agrees : Task σ ε α → Task σ ε α → Prop where
  | done {value : α} : Agrees (.done value) (.done value)
  | look {next next' : World σ → Task σ ε α} :
      (∀ world, calm world → world.now < limit → Agrees (next world) (next' world)) →
      Agrees (.look next) (.look next')
  | change {act : World σ → World σ} {next next' : World σ → Task σ ε α} :
      (∀ world, Agrees (next world) (next' world)) → Agrees (.change act next) (.change act next')
  | emit {event : ε} {next next' : Task σ ε α} :
      Agrees next next' → Agrees (.emit event next) (.emit event next')
  | rest {wake wake' : Wake σ} {held : Cleanup σ ε} {next next' : Task σ ε α} :
      (∀ world, calm world → world.now < limit → wake'.isDue world = wake.isDue world) →
      (∀ instant, instant < limit → (wake'.instant = some instant ↔ wake.instant = some instant)) →
      Agrees next next' → Agrees (.rest wake held next) (.rest wake' held next')
  | panic {reason : String} : Agrees (.panic reason) (.panic reason)

/-- A task never rests beyond an instant; when it is woken there it gives up what it holds and
stops. -/
def Yields (stop : α) : Task σ ε α → Prop
  | .done _ => True
  | .look next => ∀ world, (next world).Yields stop
  | .change _ next => ∀ world, (next world).Yields stop
  | .emit _ next => next.Yields stop
  | .rest wake held next =>
      (∃ instant, instant ≤ limit ∧ wake.instant = some instant) ∧
      (∀ world, calm world → world.now = limit →
        next.course world = ((release held).bind fun _ => .done stop).course world) ∧
      next.Yields stop
  | .panic _ => True

variable {calm limit} {stop : α} {first second : Task σ ε α}

theorem Agrees.refl (task : Task σ ε α) : Agrees calm limit task task := by
  induction task with
  | done value => exact .done
  | look next ih => exact .look fun world _ _ => ih world
  | change act next ih => exact .change ih
  | emit event next ih => exact .emit ih
  | rest wake held next ih => exact .rest (fun _ _ _ => rfl) (fun _ _ => Iff.rfl) ih
  | panic reason => exact .panic

theorem Agrees.bind {f g : α → Task σ ε β} (h : Agrees calm limit first second)
    (next : ∀ value, Agrees calm limit (f value) (g value)) :
    Agrees calm limit (first.bind f) (second.bind g) := by
  induction h with
  | done => exact next _
  | look _ ih => exact .look ih
  | change _ ih => exact .change ih
  | emit _ ih => exact .emit ih
  | rest due instants _ ih => exact .rest due instants ih
  | panic => exact .panic

theorem Yields.bind {f : α → Task σ ε β} {stop' : β} (h : first.Yields calm limit stop)
    (stops : f stop = .done stop') (next : ∀ value, (f value).Yields calm limit stop') :
    (first.bind f).Yields calm limit stop' := by
  induction first with
  | done value => exact next value
  | look after ih => exact fun world => ih world (h world)
  | change act after ih => exact fun world => ih world (h world)
  | emit event after ih => exact ih h
  | rest wake held after ih =>
      obtain ⟨bounded, stopped, later⟩ := h
      refine ⟨bounded, fun world steady reached => ?_, ih later⟩
      rw [course_bind, stopped world steady reached, ← course_bind, bind_assoc]
      show ((release held).bind fun _ => f stop).course world = _
      rw [stops]
  | panic reason => trivial

/-- What is given up is given up at once. -/
theorem yields_release {held : Cleanup σ ε} {f : Unit → Task σ ε β} {stop : β}
    (next : (f ()).Yields calm limit stop) : ((release held).bind f).Yields calm limit stop := by
  have emits : ∀ events : List ε, ((emitAll events).bind f).Yields calm limit stop := by
    intro events
    induction events with
    | nil => exact next
    | cons event later ih => exact ih
  exact fun _ => emits held.events

/-- A course that agrees with a yielding one up to an instant is cut off there. -/
theorem course_of_agrees {good : α → Prop} {world : World σ}
    (agrees : Agrees calm limit first second) (keeps : first.Keeps World.SameTime good)
    (yields : second.Yields calm limit stop)
    (timeless : ∀ world instant, calm world → calm { world with now := instant })
    (before : world.now < limit) (steady : ∀ passed ∈ first.worlds world, calm passed) :
    second.course world =
      match first.interrupted? limit world with
      | none => first.course world
      | some (held, after) =>
          ⟨(first.course world).events.filter (fun event => event.1 < limit) ++
            held.events.map fun event => (limit, event), held.effect after, .value stop⟩ := by
  induction agrees generalizing world with
  | done => rfl
  | look _ ih =>
      obtain ⟨now, later⟩ := List.forall_mem_cons.mp steady
      exact ih world now before (keeps world) (yields world) before later
  | change _ ih =>
      obtain ⟨-, later⟩ := List.forall_mem_cons.mp steady
      refine ih world (keeps.2 world) (yields world) ?_ later
      rwa [show _ = world.now from keeps.1 world]
  | emit _ ih =>
      obtain ⟨-, later⟩ := List.forall_mem_cons.mp steady
      rw [course_emit, ih keeps yields before later, interrupted?, course_emit]
      split
      · rfl
      · simp [Course.prepend, before]
  | rest due instants _ ih =>
      rename_i wake wake' held next next' _
      obtain ⟨now, later⟩ := List.forall_mem_cons.mp steady
      obtain ⟨⟨instant, le, hinstant⟩, stops, yields⟩ := yields
      have sameDue := due world now before
      by_cases isDue : wake.isDue world = true
      · rw [if_pos isDue] at later
        rw [course_rest_of_due (sameDue.trans isDue), course_rest_of_due isDue, interrupted?,
          if_pos isDue]
        exact ih keeps.2 yields before later
      · rw [if_neg isDue] at later
        have notDue : ¬ wake'.isDue world = true := sameDue ▸ isDue
        rw [course_rest_of_wait notDue hinstant]
        -- The second task wakes before the limit, and then so does the first one, or right at it.
        rcases Nat.lt_or_eq_of_le le with early | rfl
        · have own := (instants instant early).mp hinstant
          simp only [own] at later
          rw [course_rest_of_wait isDue own, ih keeps.2 yields early later]
          simp only [interrupted?, own, if_neg isDue, if_pos early]
        · have late : ∀ early, early < instant → wake.instant ≠ some early := by
            intro early lt own
            have same := (instants early lt).mpr own
            rw [hinstant] at same
            exact Nat.ne_of_gt lt (Option.some.inj same)
          have same : (held.effect { world with now := instant }).now = instant := keeps.1 _
          rw [stops _ (timeless _ _ now) rfl, course_release, interrupted?_of_late isDue late,
            filter_events_of_late keeps.2 isDue late, same]
          rfl
  | panic => rfl

/-- The second task is the first one, truncated at an instant. If the first one is over before, both
have the same course. Otherwise the second one stops at the instant: up to then it has the events of
the first one, and then it gives up what the first one holds at that moment. -/
def TruncatedAt (limit : Instant) (stop : α) (first second : Task σ ε α) (world : World σ) : Prop :=
  ((first.course world).outcome ≠ .never → (first.course world).finish < limit →
    second.course world = first.course world) ∧
  ((first.course world).outcome = .never ∨ limit ≤ (first.course world).finish →
    ∃ held after, first.interrupted? limit world = some (held, after) ∧
      (second.course world).outcome = .value stop ∧
      (second.course world).finish = limit ∧
      (second.course world).world = held.effect after ∧
      (second.course world).events =
        (first.course world).events.filter (fun event => event.1 < limit) ++
          held.events.map fun event => (limit, event))

/-- A task that agrees with a yielding one up to an instant is truncated to it. -/
theorem truncatedAt_of_agrees {good : α → Prop} {world : World σ}
    (agrees : Agrees calm limit first second) (keeps : first.Keeps World.SameTime good)
    (yields : second.Yields calm limit stop)
    (timeless : ∀ world instant, calm world → calm { world with now := instant })
    (before : world.now < limit) (steady : ∀ passed ∈ first.worlds world, calm passed) :
    TruncatedAt limit stop first second world := by
  have course := course_of_agrees agrees keeps yields timeless before steady
  have finished := keeps.interrupted?_eq_none_iff before
  refine ⟨fun ends early => ?_, fun late => ?_⟩
  · rw [finished.mpr ⟨ends, early⟩] at course
    exact course
  · cases hinterrupted : first.interrupted? limit world with
    | none =>
        obtain ⟨ends, early⟩ := finished.mp hinterrupted
        exact late.elim (absurd · ends) fun le => absurd early (Nat.not_lt.mpr le)
    | some rest =>
        obtain ⟨held, after⟩ := rest
        obtain ⟨sameTime, reached⟩ := keeps.of_interrupted hinterrupted
        rw [hinterrupted] at course
        refine ⟨held, after, rfl, ?_, ?_, ?_, ?_⟩
        · rw [course]
        · rw [course]
          exact (sameTime after).trans reached
        · rw [course]
        · rw [course]

end Limit

/-! ### What is held -/

/-- Wherever a task rests it holds the same. -/
def Holds (held : Cleanup σ ε) : Task σ ε α → Prop
  | .done _ => True
  | .look next => ∀ world, (next world).Holds held
  | .change _ next => ∀ world, (next world).Holds held
  | .emit _ next => next.Holds held
  | .rest _ kept next => kept = held ∧ next.Holds held
  | .panic _ => True

section Holds

variable {held : Cleanup σ ε} {task : Task σ ε α} {limit : Instant} {world : World σ}

theorem Holds.bind {f : α → Task σ ε β} (h : task.Holds held) (next : ∀ value, (f value).Holds held) :
    (task.bind f).Holds held := by
  induction task with
  | done value => exact next value
  | look after ih => exact fun world => ih world (h world)
  | change act after ih => exact fun world => ih world (h world)
  | emit event after ih => exact ih h
  | rest wake kept after ih => exact ⟨h.1, ih h.2⟩
  | panic reason => trivial

theorem holds_emitAll (events : List ε) : (emitAll events : Task σ ε Unit).Holds held := by
  induction events with
  | nil => trivial
  | cons event later ih => exact ih

theorem holds_release (other : Cleanup σ ε) : (release other).Holds held :=
  fun _ => holds_emitAll other.events

theorem holds_sleep (span : Duration) : (sleep held span).Holds held := by
  unfold sleep
  split
  · trivial
  · exact fun _ => ⟨rfl, trivial⟩

/-- What a task holds throughout is what it holds when it is interrupted. -/
theorem Holds.eq_of_interrupted {kept : Cleanup σ ε} {after : World σ} (h : task.Holds held)
    (interrupted : task.interrupted? limit world = some (kept, after)) : kept = held := by
  induction task generalizing world with
  | done value => cases interrupted
  | look next ih => exact ih world (h world) interrupted
  | change act next ih => exact ih world (h world) interrupted
  | emit event next ih => exact ih h interrupted
  | rest wake own next ih =>
      simp only [interrupted?] at interrupted
      split at interrupted
      · exact ih h.2 interrupted
      · split at interrupted
        · split at interrupted
          · exact ih h.2 interrupted
          · cases interrupted
            exact h.1
        · cases interrupted
          exact h.1
  | panic reason => cases interrupted

/-- A task that is followed by another one and is over before an instant is not interrupted then, but
the other one may be. -/
theorem interrupted?_bind {f : α → Task σ ε β} {value : α}
    (finished : task.interrupted? limit world = none)
    (outcome : (task.course world).outcome = .value value) :
    (task.bind f).interrupted? limit world =
      (f value).interrupted? limit (task.course world).world := by
  induction task generalizing world with
  | done result =>
      cases outcome
      rfl
  | look next ih => exact ih world finished outcome
  | change act next ih => exact ih world finished outcome
  | emit event next ih => exact ih finished outcome
  | rest wake kept next ih =>
      rw [bind, interrupted?]
      rw [interrupted?] at finished
      by_cases due : wake.isDue world = true
      · rw [if_pos due] at finished ⊢
        rw [course_rest_of_due due] at outcome ⊢
        exact ih finished outcome
      · rw [if_neg due] at finished ⊢
        cases hinstant : wake.instant with
        | none =>
            rw [course_rest_of_never due hinstant] at outcome
            cases outcome
        | some instant =>
            rw [hinstant] at finished
            rw [course_rest_of_wait due hinstant] at outcome ⊢
            by_cases early : instant < limit
            · simp only [if_pos early] at finished ⊢
              exact ih finished outcome
            · simp only [if_neg early] at finished
              cases finished
  | panic reason => cases outcome

end Holds
end Task

theorem Body.holds_collectChunks (held : Cleanup σ ε) (read : Octets) (chunks : List Chunk) :
    (collectChunks held read chunks).Holds held := by
  induction chunks generalizing read with
  | nil => trivial
  | cons chunk later ih =>
      cases chunk with
      | data octets => exact ih _
      | fault error => trivial
      | pause span => exact (Task.holds_sleep span).bind fun _ => ih read

/-- A response is held as long as its body is read. -/
theorem Response.holds_bytes (response : Response σ ε) : response.bytes.Holds response.held := by
  have collects : (response.body.collect response.held).Holds response.held := by
    cases response.body with
    | full octets => trivial
    | stream chunks => exact Body.holds_collectChunks response.held [] chunks
  exact collects.bind fun _ => (Task.holds_release response.held).bind fun _ => trivial

end ResilientHttp

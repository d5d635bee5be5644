import ResilientHttp.Task.Laws

/-!
Runs of a task among others. A course is what a task does alone in its world; in a `Run` the others
may change the world whenever the task rests, as far as a relation `rely` lets them, and the run may
stop anywhere. A run leaves a trail of moments: the worlds that the task looked at, and the events
that it emitted.

* `Task.Ensures` is the weakest precondition of a task among others: what holds at every step, and
  what holds of the value. `Ensures.of_run` says that it is kept along every run.
* `Ensures.bind` composes it; `ensures_check` is its rule for a look at a context.
* `Run.of_bind` takes the runs of a task that another one follows apart.
* `run_moments` — a course that gives a value is a run in which the others let only time pass, and
  `Task.moments` lists its steps.
-/

namespace ResilientHttp

variable {σ ε α β : Type}

/-- A moment of a run: the world that was looked at, or in which an event was emitted. -/
structure Moment (σ ε : Type) where
  world : World σ
  event : Option ε

namespace Task

/-- The runs of a task from a world on: the moments that passed, what is left of the task then, and
the world that was reached. -/
inductive Run (rely : World σ → World σ → Prop) :
    Task σ ε α → World σ → List (Moment σ ε) → Task σ ε α → World σ → Prop where
  | here {task : Task σ ε α} {world : World σ} : Run rely task world [] task world
  | look {next : World σ → Task σ ε α} {world after : World σ} {moments : List (Moment σ ε)}
      {left : Task σ ε α} :
      Run rely (next world) world moments left after →
      Run rely (.look next) world (⟨world, none⟩ :: moments) left after
  | change {act : World σ → World σ} {next : World σ → Task σ ε α} {world after : World σ}
      {moments : List (Moment σ ε)} {left : Task σ ε α} :
      Run rely (next world) (act world) moments left after →
      Run rely (.change act next) world moments left after
  | emit {event : ε} {next left : Task σ ε α} {world after : World σ}
      {moments : List (Moment σ ε)} :
      Run rely next world moments left after →
      Run rely (.emit event next) world (⟨world, some event⟩ :: moments) left after
  | wake {wake : Wake σ} {held : Cleanup σ ε} {next left : Task σ ε α}
      {world later after : World σ} {moments : List (Moment σ ε)} :
      rely world later → wake.isDue later = true → Run rely next later moments left after →
      Run rely (.rest wake held next) world moments left after

/-- A run of a task followed by another one is still in the first one, or it has gone on with one of
its values. -/
theorem Run.of_bind {rely : World σ → World σ → Prop} {task : Task σ ε α} {f : α → Task σ ε β}
    {world after : World σ} {moments : List (Moment σ ε)} {left : Task σ ε β}
    (run : Run rely (task.bind f) world moments left after) :
    (∃ rest, left = rest.bind f ∧ Run rely task world moments rest after) ∨
      ∃ early late value middle, moments = early ++ late ∧
        Run rely task world early (.done value) middle ∧
        Run rely (f value) middle late left after := by
  induction task generalizing world moments with
  | done value => exact .inr ⟨[], moments, value, world, rfl, .here, run⟩
  | look next ih =>
      cases run with
      | here => exact .inl ⟨_, rfl, .here⟩
      | look run =>
          rcases ih world run with
            ⟨rest, hleft, first⟩ | ⟨early, late, value, middle, rfl, first, second⟩
          · exact .inl ⟨rest, hleft, .look first⟩
          · exact .inr ⟨_ :: early, late, value, middle, rfl, .look first, second⟩
  | change act next ih =>
      cases run with
      | here => exact .inl ⟨_, rfl, .here⟩
      | change run =>
          rcases ih world run with
            ⟨rest, hleft, first⟩ | ⟨early, late, value, middle, rfl, first, second⟩
          · exact .inl ⟨rest, hleft, .change first⟩
          · exact .inr ⟨early, late, value, middle, rfl, .change first, second⟩
  | emit event next ih =>
      cases run with
      | here => exact .inl ⟨_, rfl, .here⟩
      | emit run =>
          rcases ih run with ⟨rest, hleft, first⟩ | ⟨early, late, value, middle, rfl, first, second⟩
          · exact .inl ⟨rest, hleft, .emit first⟩
          · exact .inr ⟨_ :: early, late, value, middle, rfl, .emit first, second⟩
  | rest wake held next ih =>
      cases run with
      | here => exact .inl ⟨_, rfl, .here⟩
      | wake hrely hdue run =>
          rcases ih run with ⟨rest, hleft, first⟩ | ⟨early, late, value, middle, rfl, first, second⟩
          · exact .inl ⟨rest, hleft, .wake hrely hdue first⟩
          · exact .inr ⟨early, late, value, middle, rfl, .wake hrely hdue first, second⟩
  | panic reason =>
      cases run
      exact .inl ⟨_, rfl, .here⟩

/-- What a task ensures from a world on, whatever the others do: `always` holds at every step, and
`post` holds of the value. Both may speak of the moments that have passed. -/
def Ensures (rely : World σ → World σ → Prop) (always : List (Moment σ ε) → World σ → Prop)
    (post : List (Moment σ ε) → α → World σ → Prop) :
    Task σ ε α → List (Moment σ ε) → World σ → Prop
  | .done value, past, world => always past world ∧ post past value world
  | .look next, past, world =>
      always past world ∧ (next world).Ensures rely always post (past ++ [⟨world, none⟩]) world
  | .change act next, past, world =>
      always past world ∧ (next world).Ensures rely always post past (act world)
  | .emit event next, past, world =>
      always past world ∧ next.Ensures rely always post (past ++ [⟨world, some event⟩]) world
  | .rest wake _ next, past, world =>
      always past world ∧ ∀ later, rely world later → wake.isDue later = true →
        next.Ensures rely always post past later
  | .panic _, past, world => always past world

section Ensures

variable {rely : World σ → World σ → Prop} {always : List (Moment σ ε) → World σ → Prop}
  {post : List (Moment σ ε) → α → World σ → Prop} {past : List (Moment σ ε)} {world : World σ}

theorem Ensures.now {task : Task σ ε α} (h : task.Ensures rely always post past world) :
    always past world := by
  cases task with
  | panic reason => exact h
  | _ => exact h.1

/-- A task followed by another one ensures what the other one ensures of each of its values. -/
theorem Ensures.bind {task : Task σ ε α} {f : α → Task σ ε β}
    {post : List (Moment σ ε) → β → World σ → Prop}
    (h : task.Ensures rely always
      (fun past value world => (f value).Ensures rely always post past world) past world) :
    (task.bind f).Ensures rely always post past world := by
  induction task generalizing past world with
  | done value => exact h.2
  | look next ih => exact ⟨h.1, ih world h.2⟩
  | change act next ih => exact ⟨h.1, ih world h.2⟩
  | emit event next ih => exact ⟨h.1, ih h.2⟩
  | rest wake held next ih => exact ⟨h.1, fun later hrely hdue => ih (h.2 later hrely hdue)⟩
  | panic reason => exact h

/-- Along a run nothing is lost: what the task ensures, what is left of it ensures. -/
theorem Ensures.of_run {task left : Task σ ε α} {moments : List (Moment σ ε)} {after : World σ}
    (h : task.Ensures rely always post past world) (run : Run rely task world moments left after) :
    left.Ensures rely always post (past ++ moments) after := by
  induction run generalizing past with
  | here => simpa using h
  | look _ ih => simpa using ih h.2
  | change _ ih => exact ih h.2
  | emit _ ih => simpa using ih h.2
  | wake hrely hdue _ ih => exact ih (h.2 _ hrely hdue)

/-- A weaker demand is met where a stronger one is. -/
theorem Ensures.mono {task : Task σ ε α} {post' : List (Moment σ ε) → α → World σ → Prop}
    (h : task.Ensures rely always post past world)
    (weaker : ∀ past value world, always past world → post past value world →
      post' past value world) :
    task.Ensures rely always post' past world := by
  induction task generalizing past world with
  | done value => exact ⟨h.1, weaker _ _ _ h.1 h.2⟩
  | look next ih => exact ⟨h.1, ih world h.2⟩
  | change act next ih => exact ⟨h.1, ih world h.2⟩
  | emit event next ih => exact ⟨h.1, ih h.2⟩
  | rest wake held next ih => exact ⟨h.1, fun later hrely hdue => ih (h.2 later hrely hdue)⟩
  | panic reason => exact h

/-- What holds at every step may be weakened too. -/
theorem Ensures.weaken {task : Task σ ε α} {always' : List (Moment σ ε) → World σ → Prop}
    (h : task.Ensures rely always post past world)
    (weaker : ∀ past world, always past world → always' past world) :
    task.Ensures rely always' post past world := by
  induction task generalizing past world with
  | done value => exact ⟨weaker _ _ h.1, h.2⟩
  | look next ih => exact ⟨weaker _ _ h.1, ih world h.2⟩
  | change act next ih => exact ⟨weaker _ _ h.1, ih world h.2⟩
  | emit event next ih => exact ⟨weaker _ _ h.1, ih h.2⟩
  | rest wake held next ih =>
      exact ⟨weaker _ _ h.1, fun later hrely hdue => ih (h.2 later hrely hdue)⟩
  | panic reason => exact weaker _ _ h

end Ensures

/-! ### Courses are runs -/

/-- The moments of the course of a task. -/
def moments : Task σ ε α → World σ → List (Moment σ ε)
  | .done _, _ => []
  | .look next, world => ⟨world, none⟩ :: (next world).moments world
  | .change act next, world => (next world).moments (act world)
  | .emit event next, world => ⟨world, some event⟩ :: next.moments world
  | .rest wake _ next, world =>
      if wake.isDue world then next.moments world
      else
        match wake.instant with
        | some instant => next.moments { world with now := instant }
        | none => []
  | .panic _, _ => []

/-- The moments of a task come first when another one follows it. -/
theorem isPrefix_moments_bind (task : Task σ ε α) (f : α → Task σ ε β) (world : World σ) :
    task.moments world <+: (task.bind f).moments world := by
  induction task generalizing world with
  | done value => exact List.nil_prefix
  | look next ih => exact List.prefix_cons_inj _ |>.mpr (ih world world)
  | change act next ih => exact ih world (act world)
  | emit event next ih => exact List.prefix_cons_inj _ |>.mpr (ih world)
  | rest wake held next ih =>
      simp only [bind, moments]
      split
      · exact ih world
      · cases wake.instant with
        | none => exact List.nil_prefix
        | some instant => exact ih _
  | panic reason => exact List.nil_prefix

/-- What others must at least be allowed so that a task can be alone: nothing happens, or nothing
but the time passes. -/
structure AllowsWaiting (rely : World σ → World σ → Prop) : Prop where
  still : ∀ world, rely world world
  wait : ∀ world instant, world.now ≤ instant → rely world { world with now := instant }

/-- A rest that is not due ends later than it began. -/
theorem lt_of_not_isDue {wake : Wake σ} {world : World σ} {instant : Instant}
    (notDue : ¬ wake.isDue world = true) (hinstant : wake.instant = some instant) :
    world.now < instant := by
  simp only [Wake.isDue, hinstant, Option.any_some, Bool.or_eq_true, decide_eq_true_eq,
    not_or, Nat.not_le] at notDue
  exact notDue.1

section Rest

variable {wake : Wake σ} {held : Cleanup σ ε} {next : Task σ ε α} {world : World σ}

theorem course_rest_of_due (due : wake.isDue world = true) :
    (Task.rest wake held next).course world = next.course world := by
  rw [course, if_pos due]

theorem course_rest_of_wait {instant : Instant} (notDue : ¬ wake.isDue world = true)
    (hinstant : wake.instant = some instant) :
    (Task.rest wake held next).course world = next.course { world with now := instant } := by
  rw [course, if_neg notDue, hinstant]

theorem course_rest_of_never (notDue : ¬ wake.isDue world = true) (hinstant : wake.instant = none) :
    (Task.rest wake held next).course world = ⟨[], world, .never⟩ := by
  rw [course, if_neg notDue, hinstant]

end Rest

/-- The course of a task is a run, whatever it ends with. If that is a value, nothing else is left. -/
theorem exists_run_course {rely : World σ → World σ → Prop} (waiting : AllowsWaiting rely)
    (task : Task σ ε α) (world : World σ) :
    ∃ left, Run rely task world (task.moments world) left (task.course world).world ∧
      ∀ value, (task.course world).outcome = .value value → left = .done value := by
  induction task generalizing world with
  | done result =>
      refine ⟨_, .here, ?_⟩
      rintro value ⟨⟩
      rfl
  | look next ih =>
      obtain ⟨left, run, ends⟩ := ih world world
      exact ⟨left, .look run, ends⟩
  | change act next ih =>
      obtain ⟨left, run, ends⟩ := ih world (act world)
      exact ⟨left, .change run, ends⟩
  | emit event next ih =>
      obtain ⟨left, run, ends⟩ := ih world
      exact ⟨left, .emit run, ends⟩
  | rest wake held next ih =>
      rw [moments]
      by_cases due : wake.isDue world = true
      · rw [course_rest_of_due due, if_pos due]
        obtain ⟨left, run, ends⟩ := ih world
        exact ⟨left, .wake (waiting.still world) due run, ends⟩
      · rw [if_neg due]
        cases hinstant : wake.instant with
        | none =>
            rw [course_rest_of_never due hinstant]
            refine ⟨_, .here, ?_⟩
            rintro value ⟨⟩
        | some instant =>
            rw [course_rest_of_wait due hinstant]
            obtain ⟨left, run, ends⟩ := ih { world with now := instant }
            have later := Nat.le_of_lt (lt_of_not_isDue due hinstant)
            refine ⟨left, .wake (waiting.wait world instant later) ?_ run, ends⟩
            simp [Wake.isDue, hinstant]
  | panic reason =>
      refine ⟨_, .here, ?_⟩
      rintro value ⟨⟩

/-- A course that gives a value is a run. -/
theorem run_moments {rely : World σ → World σ → Prop} (waiting : AllowsWaiting rely)
    {task : Task σ ε α} {world : World σ} {value : α}
    (h : (task.course world).outcome = .value value) :
    Run rely task world (task.moments world) (.done value) (task.course world).world := by
  obtain ⟨left, run, ends⟩ := exists_run_course waiting task world
  rwa [ends value h] at run

end Task
end ResilientHttp

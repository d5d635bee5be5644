import ResilientHttp.Proofs.Recording

/-!
Runs taken apart. What is left of a task may be done, and `Task.result?` is its value then. A run of
tasks that follow one another is a run of the first that is not done, or one of each
(`Run.apart`, `Run.apart_proceed`). A run of work that is bound to a context is, as far as a journal
tells, a run of the work itself: it was not begun, or it is where the work is, or it was abandoned there
because the context was seen to have ended (`Run.stands_run`).
-/

namespace ResilientHttp

variable {σ ε α β γ : Type}

namespace Task

/-- The value of a task that is done. -/
def result? : Task σ ε α → Option α
  | .done value => some value
  | _ => none

section Result

variable {task : Task σ ε α} {value : α}

theorem eq_done_of_result? (h : task.result? = some value) : task = .done value := by
  cases task with
  | done other =>
      cases h
      rfl
  | _ => cases h

theorem result?_bind (f : α → Task σ ε β) (h : task.result? = none) : (task.bind f).result? = none := by
  cases task with
  | done value => cases h
  | _ => rfl

/-- A task that is done has ensured what it ensures of its value. -/
theorem Ensures.of_result? {rely : World σ → World σ → Prop}
    {always : List (Moment σ ε) → World σ → Prop} {post : List (Moment σ ε) → α → World σ → Prop}
    {past : List (Moment σ ε)} {world : World σ} (h : task.Ensures rely always post past world)
    (done : task.result? = some value) : post past value world := by
  rw [eq_done_of_result? done] at h
  exact h.2

/-- What a task that keeps to the journal leaves of it, whatever the others do beside it. -/
theorem Keeps.of_run {good : α → Prop} {task left : Task (Noted σ) ε α}
    {world after : World (Noted σ)} {moments : List (Moment (Noted σ) ε)}
    (keeps : task.Keeps World.SameJournal good)
    (run : Run World.Alongside task world moments left after) :
    after.journal = world.journal ∧ left.Keeps World.SameJournal good := by
  induction run with
  | here => exact ⟨rfl, keeps⟩
  | look _ ih => exact ih (keeps _)
  | change _ ih =>
      obtain ⟨same, kept⟩ := ih (keeps.2 _)
      exact ⟨same.trans (keeps.1 _), kept⟩
  | emit _ ih => exact ih keeps
  | wake beside _ _ ih =>
      obtain ⟨same, kept⟩ := ih keeps.2
      exact ⟨same.trans beside.journal, kept⟩

end Result

/-! ### One task after the other -/

section Apart

variable {rely : World σ → World σ → Prop} {world after : World σ} {moments : List (Moment σ ε)}

/-- A run of a task followed by another one has not ended the first, or it is a run of each. -/
theorem Run.apart {task : Task σ ε α} {f : α → Task σ ε β} {left : Task σ ε β}
    (run : Run rely (task.bind f) world moments left after) :
    (left.result? = none ∧ ∃ rest, rest.result? = none ∧ Run rely task world moments rest after) ∨
      ∃ early late value middle, moments = early ++ late ∧
        Run rely task world early (.done value) middle ∧
        Run rely (f value) middle late left after := by
  rcases run.of_bind with ⟨rest, rfl, first⟩ | both
  · cases hrest : rest.result? with
    | none => exact .inl ⟨result?_bind f hrest, rest, hrest, first⟩
    | some value =>
        obtain rfl := eq_done_of_result? hrest
        exact .inr ⟨moments, [], value, after, (List.append_nil _).symm, first, .here⟩
  · exact .inr both

/-- A run of bound work that is gone on with has not ended the work, or it is over with the end of the
context, or it is a run of the work and of what follows. -/
theorem Run.apart_proceed {bound : Task σ ε (Except ContextEnd α)}
    {next : α → Task σ ε (Except ClientError β)} {left : Task σ ε (Except ClientError β)}
    (run : Run rely (bound.proceed next) world moments left after) :
    (left.result? = none ∧ ∃ rest, rest.result? = none ∧ Run rely bound world moments rest after) ∨
      (∃ ending : ContextEnd, left.result? = some (.error ending.error) ∧
        Run rely bound world moments (.done (.error ending)) after) ∨
      ∃ early late value middle, moments = early ++ late ∧
        Run rely bound world early (.done (.ok value)) middle ∧
        Run rely (next value) middle late left after := by
  rcases run.apart with unfinished | ⟨early, late, result, middle, rfl, first, second⟩
  · exact .inl unfinished
  · cases result with
    | error ending =>
        cases second
        rw [List.append_nil]
        exact .inr (.inl ⟨ending, rfl, first⟩)
    | ok value => exact .inr (.inr ⟨early, late, value, middle, rfl, first, second⟩)

end Apart

/-! ### Bound work, as far as a journal tells -/

/-- Where work stands that a context guards: it has itself come this far, or it was abandoned where it
had come to. Either way the journal is as the work has left it. -/
inductive Stands (context : Context) (work : Task (Noted σ) ε β) (world : World (Noted σ))
    (moments : List (Moment (Noted σ) ε)) (left : Task (Noted σ) ε (Except ContextEnd β))
    (after : World (Noted σ)) : Prop where
  | going {early : List (Moment (Noted σ) ε)} {rest : Task (Noted σ) ε β} {middle : World (Noted σ)} :
      Run World.Alongside work world early rest middle → early ⊆ moments →
      after.journal = middle.journal → left.result? = rest.result?.map .ok →
      Stands context work world moments left after
  | abandoned {early : List (Moment (Noted σ) ε)} {rest : Task (Noted σ) ε β}
      {middle : World (Noted σ)} {ending : ContextEnd} :
      Run World.Alongside work world early rest middle → early ⊆ moments →
      after.journal = middle.journal → rest.result? = none → context.SeenEnded moments ending →
      left.result? = some (.error ending) → Stands context work world moments left after

section Bound

variable {view : α → β} {task : Task σ ε α} {task' next : Task (Noted σ) ε β} {context : Context}
  {world later after : World (Noted σ)} {moments : List (Moment (Noted σ) ε)}
  {left : Task (Noted σ) ε (Except ContextEnd β)}

/-- Where work stands after a step, it stands as well with the step before it. -/
theorem Stands.before {own : List (Moment (Noted σ) ε)}
    (h : Stands context next later moments left after) (seen : List (Moment (Noted σ) ε))
    (step : ∀ early rest middle, Run World.Alongside next later early rest middle →
      Run World.Alongside task' world (own ++ early) rest middle) (subset : own ⊆ seen) :
    Stands context task' world (seen ++ moments) left after := by
  have grows : ∀ early, early ⊆ moments → own ++ early ⊆ seen ++ moments := fun early h =>
    List.append_subset.mpr ⟨List.subset_append_of_subset_left _ subset,
      List.subset_append_of_subset_right _ h⟩
  cases h with
  | going run sub same result => exact .going (step _ _ _ run) (grows _ sub) same result
  | abandoned run sub same unfinished ended result =>
      exact .abandoned (step _ _ _ run) (grows _ sub) same unfinished
        (ended.mono (List.subset_append_right _ _)) result

/-- Giving something up and then telling of the end of a context leaves the journal alone. -/
theorem Run.of_abandoned {held : Cleanup (Noted σ) ε} {ending : ContextEnd}
    (keeps : held.Keeps World.SameJournal)
    (run : Run World.Alongside
      ((release held).bind fun _ => .done (.error ending : Except ContextEnd β)) world moments left
      after) :
    after.journal = world.journal ∧
      (left.result? = none ∨ left.result? = some (.error ending)) := by
  have same := keeps world
  have ensured : ((release held).bind fun _ =>
      .done (.error ending : Except ContextEnd β)).Ensures World.Alongside
      (fun _ later => later.journal = world.journal) (fun _ result _ => result = .error ending) []
      world :=
    .bind (ensures_release rfl (fun _ => same) fun _ => ⟨same, rfl⟩)
  have kept := ensured.of_run run
  refine ⟨kept.now, ?_⟩
  cases hleft : left.result? with
  | none => exact .inl rfl
  | some result => exact .inr (congrArg some (kept.of_result? hleft))

/-- Guarded work is where the work is, unless it was abandoned there. -/
theorem Run.stands_guard (h : Recorded view task task')
    (run : Run World.Alongside (context.guard task') world moments left after) :
    Stands context task' world moments left after := by
  have unmoved : ∀ {task' : Task (Noted σ) ε β} {world : World (Noted σ)},
      (context.guard task').result? = task'.result?.map .ok →
      Stands context task' world [] (context.guard task') world :=
    fun result => .going .here (List.Subset.refl _) rfl result
  induction h generalizing world moments with
  | done =>
      cases run
      exact unmoved rfl
  | look _ ih =>
      cases run with
      | here => exact unmoved rfl
      | look run =>
          exact (ih _ run).before [⟨world, none⟩] (fun _ _ _ => .look) (List.Subset.refl _)
  | change _ ih =>
      cases run with
      | here => exact unmoved rfl
      | change run => exact (ih _ run).before [] (fun _ _ _ => .change) (List.Subset.refl [])
  | note _ _ ih =>
      cases run with
      | here => exact unmoved rfl
      | change run => exact (ih _ run).before [] (fun _ _ _ => .change) (List.Subset.refl [])
  | emit _ ih =>
      cases run with
      | here => exact unmoved rfl
      | emit run =>
          exact (ih run).before [⟨world, some _⟩] (fun _ _ _ => .emit) (List.Subset.refl _)
  | rest _ ih =>
      rename_i wake held next next' _
      cases run with
      | here => exact unmoved rfl
      | wake beside due run =>
          rename_i later
          have waiting : Run World.Alongside (.rest wake.noted held.noted next') world [] _ world := .here
          cases run with
          | here => exact .going waiting (List.nil_subset _) beside.journal rfl
          | look run =>
              cases hended : context.endedIn? later with
              | none =>
                  simp only [hended] at run
                  rw [Context.isDue_orEnd hended] at due
                  exact (ih run).before [⟨later, none⟩] (fun _ _ _ => .wake beside due)
                    (List.nil_subset _)
              | some ending =>
                  simp only [hended] at run
                  obtain ⟨same, unfinished | closed⟩ := Run.of_abandoned held.keeps_noted run
                  · exact .going waiting (List.nil_subset _) (same.trans beside.journal) unfinished
                  · exact .abandoned waiting (List.nil_subset _) (same.trans beside.journal) rfl
                      ⟨_, List.mem_cons_self, hended⟩ closed
  | panic =>
      cases run
      exact unmoved rfl

/-- A look at a context changes nothing; if it fails, the context was seen to have ended. -/
theorem Run.of_check {rely : World σ → World σ → Prop} {world after : World σ}
    {moments : List (Moment σ ε)} {left : Task σ ε (Except ContextEnd Unit)}
    (run : Run rely context.check world moments left after) :
    after = world ∧ ∀ ending, left.result? = some (.error ending) →
      context.SeenEnded moments ending := by
  cases run with
  | here => exact ⟨rfl, nofun⟩
  | look run =>
      cases hended : context.endedIn? world with
      | none =>
          simp only [hended] at run
          cases run
          exact ⟨rfl, nofun⟩
      | some ending =>
          simp only [hended] at run
          cases run
          refine ⟨rfl, ?_⟩
          rintro _ ⟨⟩
          exact ⟨_, List.mem_cons_self, hended⟩

/-- Bound work was not begun, perhaps because its context had ended, or it stands somewhere. -/
theorem Run.stands_run (h : Recorded view task task')
    (run : Run World.Alongside (context.run .none task') world moments left after) :
    (after.journal = world.journal ∧ (left.result? = none ∨
      ∃ ending, context.SeenEnded moments ending ∧ left.result? = some (.error ending))) ∨
      Stands context task' world moments left after := by
  cases run with
  | here => exact .inl ⟨rfl, .inl rfl⟩
  | look run =>
      cases hended : context.endedIn? world with
      | none =>
          simp only [hended] at run
          exact .inr ((run.stands_guard h).before [⟨world, none⟩] (fun _ _ _ => id) (List.nil_subset _))
      | some ending =>
          simp only [hended] at run
          obtain ⟨same, unfinished | closed⟩ :=
            Run.of_abandoned (Cleanup.keeps_none World.sameJournal_refl) run
          · exact .inl ⟨same, .inl unfinished⟩
          · exact .inl ⟨same, .inr ⟨ending, ⟨_, List.mem_cons_self, hended⟩, closed⟩⟩

end Bound
end Task
end ResilientHttp

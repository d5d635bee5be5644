import ResilientHttp.Proofs.Context.Guard
import ResilientHttp.Proofs.Task.Truncation

/-!
Work under a deadline. Of two contexts that nobody cancels, one has a deadline and the other one has
none. Up to the deadline work does the same under both (`agrees_run`), and under the one with the
deadline it yields there (`yields_run`), whatever the work itself does about it.
-/

namespace ResilientHttp

variable {σ ε α β : Type}

/-- Neither of two tokens is cancelled. -/
structure World.Calm (first second : Token) (world : World σ) : Prop where
  first : world.tokens.isCancelled first = false
  second : world.tokens.isCancelled second = false

instance (first second : Token) (world : World σ) : Decidable (world.Calm first second) :=
  decidable_of_iff
    (world.tokens.isCancelled first = false ∧ world.tokens.isCancelled second = false)
    ⟨fun h => ⟨h.1, h.2⟩, fun h => ⟨h.first, h.second⟩⟩

theorem World.Calm.timeless {first second : Token} (world : World σ) (instant : Instant)
    (h : world.Calm first second) : World.Calm first second { world with now := instant } :=
  ⟨h.first, h.second⟩

namespace Context

variable {first second : Token} {limit : Instant} {world : World σ}

theorem endedIn?_unlimited (calm : world.Calm first second) :
    (Context.mk first none).endedIn? world = none :=
  endedIn?_eq_none_iff.mpr ⟨calm.first, rfl⟩

theorem endedIn?_limited (calm : world.Calm first second) (before : world.now < limit) :
    (Context.mk second (some limit)).endedIn? world = none :=
  endedIn?_eq_none_iff.mpr ⟨calm.second, by simpa using before⟩

theorem endedIn?_of_reached (calm : world.Calm first second) (reached : world.now = limit) :
    (Context.mk second (some limit)).endedIn? world = some .deadline := by
  simp [endedIn?, ended?, calm.second, reached]

/-- Before the deadline the earlier of an instant and the deadline is the instant. -/
theorem earlier_eq_some_iff {own : Option Instant} {instant : Instant} (early : instant < limit) :
    earlier own (some limit) = some instant ↔ own = some instant := by
  cases own with
  | none =>
      refine ⟨fun h => ?_, nofun⟩
      exact absurd (Option.some.inj h) (Nat.ne_of_gt early)
  | some other =>
      simp only [earlier, Option.some.injEq]
      rcases Nat.le_total other limit with le | le
      · rw [Nat.min_eq_left le]
      · rw [Nat.min_eq_right le]
        constructor
        · rintro rfl
          exact absurd early (Nat.lt_irrefl _)
        · rintro rfl
          exact absurd early (Nat.not_lt.mpr le)

theorem earlier_le (own : Option Instant) (limit : Instant) :
    ∃ instant, instant ≤ limit ∧ earlier own (some limit) = some instant := by
  cases own with
  | none => exact ⟨limit, Nat.le_refl _, rfl⟩
  | some other => exact ⟨min other limit, Nat.min_le_right _ _, rfl⟩

theorem earlier_le_left (instant : Instant) (limit : Option Instant) :
    ∃ other, other ≤ instant ∧ earlier (some instant) limit = some other := by
  cases limit with
  | none => exact ⟨instant, Nat.le_refl _, rfl⟩
  | some limit => exact ⟨min instant limit, Nat.min_le_left _ _, rfl⟩

theorem earlier_none (own : Option Instant) : earlier own none = own := by
  cases own <;> rfl

/-! ### Up to the deadline -/

section Agrees

variable {held : Cleanup σ ε} {task task' : Task σ ε α}

theorem agrees_check :
    Task.Agrees (World.Calm first second) limit
      ((Context.mk first none).check : Task σ ε (Except ContextEnd Unit))
      (Context.mk second (some limit)).check := by
  refine .look ?_
  intro world calm before
  rw [endedIn?_unlimited calm, endedIn?_limited calm before]
  exact .done

theorem agrees_resume {next next' : Task σ ε (Except ContextEnd α)}
    (h : Task.Agrees (World.Calm first second) limit next next') :
    Task.Agrees (World.Calm first second) limit
      ((Context.mk first none).resume held next)
      ((Context.mk second (some limit)).resume held next') := by
  refine .look ?_
  intro world calm before
  rw [endedIn?_unlimited calm, endedIn?_limited calm before]
  exact h

theorem agrees_guard (h : Task.Agrees (World.Calm first second) limit task task') :
    Task.Agrees (World.Calm first second) limit
      ((Context.mk first none).guard task) ((Context.mk second (some limit)).guard task') := by
  induction h with
  | done => exact .done
  | look _ ih => exact .look ih
  | change _ ih => exact .change ih
  | emit _ ih => exact .emit ih
  | rest due instants _ ih =>
      refine .rest (fun world calm before => ?_) (fun instant early => ?_) (agrees_resume ih)
      · rw [isDue_orEnd (endedIn?_limited calm before), isDue_orEnd (endedIn?_unlimited calm)]
        exact due world calm before
      · rw [orEnd, orEnd, earlier_none, earlier_eq_some_iff early]
        exact instants instant early
  | panic => exact .panic

/-- Up to the deadline work does the same under both contexts. -/
theorem agrees_run (h : Task.Agrees (World.Calm first second) limit task task') :
    Task.Agrees (World.Calm first second) limit
      ((Context.mk first none).run held task) ((Context.mk second (some limit)).run held task') :=
  agrees_resume (agrees_guard h)

end Agrees

/-! ### At the deadline -/

section Yields

theorem yields_check (context : Context) :
    (context.check : Task σ ε (Except ContextEnd Unit)).Yields (World.Calm first second) limit
      (.error .deadline) := by
  intro world
  dsimp only
  split <;> trivial

theorem yields_resume {held : Cleanup σ ε} {next : Task σ ε (Except ContextEnd α)} (context : Context)
    (h : next.Yields (World.Calm first second) limit (.error .deadline)) :
    (context.resume held next).Yields (World.Calm first second) limit (.error .deadline) := by
  intro world
  dsimp only
  split
  · exact Task.yields_release trivial
  · exact h

theorem yields_guard (task : Task σ ε α) :
    ((Context.mk second (some limit)).guard task).Yields (World.Calm first second) limit
      (.error .deadline) := by
  induction task with
  | done value => trivial
  | look next ih => exact ih
  | change act next ih => exact ih
  | emit event next ih => exact ih
  | rest wake held next ih =>
      refine ⟨earlier_le wake.instant limit, fun world calm reached => ?_, yields_resume _ ih⟩
      rw [Task.course_look, endedIn?_of_reached calm reached]
  | panic reason => trivial

/-- Under a context with a deadline work yields there. -/
theorem yields_run (held : Cleanup σ ε) (task : Task σ ε α) :
    ((Context.mk second (some limit)).run held task).Yields (World.Calm first second) limit
      (.error .deadline) :=
  yields_resume _ (yields_guard task)

end Yields

/-! ### What bound work holds -/

section Holds

variable {held : Cleanup σ ε} {task : Task σ ε α}

theorem holds_resume {next : Task σ ε (Except ContextEnd α)} (context : Context)
    (h : next.Holds held) : (context.resume held next).Holds held := by
  intro world
  dsimp only
  split
  · exact (Task.holds_release held).bind fun _ => trivial
  · exact h

theorem holds_guard (context : Context) (h : task.Holds held) : (context.guard task).Holds held := by
  induction task with
  | done value => trivial
  | look next ih => exact fun world => ih world (h world)
  | change act next ih => exact fun world => ih world (h world)
  | emit event next ih => exact ih h
  | rest wake kept next ih =>
      obtain ⟨rfl, later⟩ := h
      exact ⟨rfl, holds_resume context (ih later)⟩
  | panic reason => trivial

theorem holds_run (context : Context) (h : task.Holds held) : (context.run held task).Holds held :=
  holds_resume context (holds_guard context h)

end Holds
end Context

/-! ### Work that is gone on with -/

namespace Task

variable {calm : World σ → Prop} {limit : Instant}
  {bound bound' : Task σ ε (Except ContextEnd α)} {next next' : α → Task σ ε (Except ClientError β)}

theorem Agrees.proceed (h : Agrees calm limit bound bound')
    (goesOn : ∀ value, Agrees calm limit (next value) (next' value)) :
    Agrees calm limit (bound.proceed next) (bound'.proceed next') := by
  refine h.bind ?_
  intro result
  cases result with
  | error ending => exact .done
  | ok value => exact goesOn value

theorem Yields.proceed (h : bound.Yields calm limit (.error .deadline))
    (goesOn : ∀ value, (next value).Yields calm limit (.error .deadlineExceeded)) :
    (bound.proceed next).Yields calm limit (.error .deadlineExceeded) := by
  refine h.bind rfl ?_
  intro result
  cases result with
  | error ending => trivial
  | ok value => exact goesOn value

end Task
end ResilientHttp

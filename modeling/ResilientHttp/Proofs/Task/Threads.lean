import Mathlib.Logic.Function.Basic
import ResilientHttp.Proofs.Task.Crowd

/-!
Tasks that go on at the same time. Where a `Crowd` takes turns, threads take actions: between any two
actions of one thread the others may act, also in the midst of its turn. `Threads.Runs` is any such
run, with the list of what the threads did, each thing with the worlds before and after it. A thread
that rests can be abandoned there, and others than the threads change the world in between.

* `Task.Keeps.acts` — what a task keeps to as it is written, each of its actions keeps to, whatever
  the others do.
* `Threads.runs_play` — a turn is a sequence of actions, so what threads do that take turns as a
  schedule tells is a run.
-/

namespace ResilientHttp

variable {ι σ ε α : Type}

/-- One action of a task. -/
inductive Task.Acts : Task σ ε α → World σ → Task σ ε α → World σ → Prop where
  | look {next : World σ → Task σ ε α} {world : World σ} :
      Acts (.look next) world (next world) world
  | change {act : World σ → World σ} {next : World σ → Task σ ε α} {world : World σ} :
      Acts (.change act next) world (next world) (act world)
  | emit {event : ε} {next : Task σ ε α} {world : World σ} :
      Acts (.emit event next) world next world
  | wake {wake : Wake σ} {held : Cleanup σ ε} {next : Task σ ε α} {world : World σ} :
      wake.isDue world = true → Acts (.rest wake held next) world next world

/-- Each action of a task does nothing to the world or moves it along what the task keeps to. -/
theorem Task.Keeps.acts {kept : World σ → World σ → Prop} {good : α → Prop}
    {task next : Task σ ε α} {world after : World σ} (h : task.Keeps kept good)
    (acts : task.Acts world next after) :
    (after = world ∨ kept world after) ∧ next.Keeps kept good := by
  cases acts with
  | look => exact ⟨.inl rfl, h world⟩
  | change => exact ⟨.inr (h.1 world), h.2 world⟩
  | emit => exact ⟨.inl rfl, h⟩
  | wake => exact ⟨.inl rfl, h.2⟩

/-- Something that a thread did. -/
structure Deed (ι σ : Type) where
  thread : ι
  before : World σ
  after : World σ

/-- Tasks that go on at the same time, as far as they have not been abandoned, and the world that
they share. -/
structure Threads (ι σ ε α : Type) where
  world : World σ
  tasks : ι → Option (Task σ ε α)

namespace Threads

variable [DecidableEq ι]

/-- The threads after one of them has acted or was abandoned. -/
def set (threads : Threads ι σ ε α) (i : ι) (world : World σ) (task : Option (Task σ ε α)) :
    Threads ι σ ε α :=
  ⟨world, Function.update threads.tasks i task⟩

/-- What has become of threads, and what they did in the course of it, the first thing first. -/
inductive Runs (others : World σ → World σ → Prop) (start : Threads ι σ ε α) :
    List (Deed ι σ) → Threads ι σ ε α → Prop where
  | start : Runs others start [] start
  | acted {deeds : List (Deed ι σ)} {threads : Threads ι σ ε α} {i : ι} {task next : Task σ ε α}
      {after : World σ} : Runs others start deeds threads → threads.tasks i = some task →
      task.Acts threads.world next after →
      Runs others start (deeds ++ [⟨i, threads.world, after⟩]) (threads.set i after (some next))
  | abandoned {deeds : List (Deed ι σ)} {threads : Threads ι σ ε α} {i : ι} {wake : Wake σ}
      {held : Cleanup σ ε} {next : Task σ ε α} : Runs others start deeds threads →
      threads.tasks i = some (.rest wake held next) →
      Runs others start (deeds ++ [⟨i, threads.world, held.effect threads.world⟩])
        (threads.set i (held.effect threads.world) none)
  | others {deeds : List (Deed ι σ)} {threads : Threads ι σ ε α} {later : World σ} :
      Runs others start deeds threads → others threads.world later →
      Runs others start deeds { threads with world := later }

variable {others : World σ → World σ → Prop} {start threads : Threads ι σ ε α}
  {deeds : List (Deed ι σ)} {i : ι} {task : Task σ ε α}

theorem set_set (first second : World σ) (task other : Option (Task σ ε α)) :
    (threads.set i first task).set i second other = threads.set i second other := by
  rw [set, set, set, Function.update_idem]

theorem tasks_set (world : World σ) (task : Option (Task σ ε α)) :
    (threads.set i world task).tasks i = task :=
  Function.update_self ..

theorem tasks_set_of_ne {j : ι} (world : World σ) (task : Option (Task σ ε α)) (h : j ≠ i) :
    (threads.set i world task).tasks j = threads.tasks j :=
  Function.update_of_ne h ..

theorem set_of_tasks (h : threads.tasks i = some task) :
    threads.set i threads.world (some task) = threads := by
  rw [set, ← h, Function.update_eq_self]

end Threads

/-! ### Turns -/

/-- What a thread does in a turn, action by action. -/
def Task.deeds (i : ι) : Task σ ε α → World σ → List (Deed ι σ)
  | .look next, world => ⟨i, world, world⟩ :: (next world).deeds i world
  | .change act next, world => ⟨i, world, act world⟩ :: (next world).deeds i (act world)
  | .emit _ next, world => ⟨i, world, world⟩ :: next.deeds i world
  | .done _, _ | .rest _ _ _, _ | .panic _, _ => []

namespace Threads

variable [DecidableEq ι]

/-- A thread takes a turn, if it does not rest or can be woken: what it does, and the threads then. -/
def resume (threads : Threads ι σ ε α) (i : ι) : List (Deed ι σ) × Threads ι σ ε α :=
  match threads.tasks i with
  | none => ([], threads)
  | some (.rest wake _ next) =>
      if wake.isDue threads.world then
        (⟨i, threads.world, threads.world⟩ :: next.deeds i threads.world,
          threads.set i (next.turn threads.world).2 (some (next.turn threads.world).1))
      else ([], threads)
  | some task =>
      (task.deeds i threads.world,
        threads.set i (task.turn threads.world).2 (some (task.turn threads.world).1))

/-- A schedule: which threads take a turn, and to what the clock is set in between. -/
def play : List (ι ⊕ Instant) → Threads ι σ ε α → List (Deed ι σ) × Threads ι σ ε α
  | [], threads => ([], threads)
  | .inl i :: later, threads =>
      let played := (threads.resume i).2.play later
      ((threads.resume i).1 ++ played.1, played.2)
  | .inr now :: later, threads => play later { threads with world := { threads.world with now } }

variable {others : World σ → World σ → Prop} {start threads : Threads ι σ ε α}
  {deeds : List (Deed ι σ)} {i : ι} {task : Task σ ε α}

/-- A thread may take a whole turn, action by action. -/
theorem Runs.turned (runs : Runs others start deeds threads) (h : threads.tasks i = some task) :
    Runs others start (deeds ++ task.deeds i threads.world)
      (threads.set i (task.turn threads.world).2 (some (task.turn threads.world).1)) := by
  induction task generalizing deeds threads with
  | done value | rest wake held next | panic reason =>
      rw [Task.deeds, List.append_nil, Task.turn, set_of_tasks h]
      exact runs
  | look next ih =>
      have onward := ih threads.world (runs.acted h .look) (tasks_set ..)
      rwa [List.append_assoc, set_set] at onward
  | change act next ih =>
      have onward := ih threads.world (runs.acted h .change) (tasks_set ..)
      rwa [List.append_assoc, set_set] at onward
  | emit event next ih =>
      have onward := ih (runs.acted h .emit) (tasks_set ..)
      rwa [List.append_assoc, set_set] at onward

theorem Runs.resumed (runs : Runs others start deeds threads) (i : ι) :
    Runs others start (deeds ++ (threads.resume i).1) (threads.resume i).2 := by
  cases h : threads.tasks i with
  | none =>
      simp only [resume, h, List.append_nil]
      exact runs
  | some task =>
      cases task with
      | rest wake held next =>
          by_cases due : wake.isDue threads.world = true
          · have onward := (runs.acted h (.wake due)).turned (tasks_set ..)
            rw [List.append_assoc, set_set] at onward
            simp only [resume, h, if_pos due]
            exact onward
          · simp only [resume, h, if_neg due, List.append_nil]
            exact runs
      | _ =>
          simp only [resume, h]
          exact runs.turned h

theorem Runs.played (waits : ∀ world now, others world { world with now := now })
    (schedule : List (ι ⊕ Instant)) (runs : Runs others start deeds threads) :
    Runs others start (deeds ++ (threads.play schedule).1) (threads.play schedule).2 := by
  induction schedule generalizing deeds threads with
  | nil =>
      rw [play, List.append_nil]
      exact runs
  | cons next later ih =>
      cases next with
      | inl i =>
          have onward := ih (runs.resumed i)
          rwa [List.append_assoc] at onward
      | inr now => exact ih (runs.others (waits threads.world now))

/-- Taking turns as a schedule tells is something that threads may do. -/
theorem runs_play (waits : ∀ world now, others world { world with now := now })
    (start : Threads ι σ ε α) (schedule : List (ι ⊕ Instant)) :
    Runs others start (start.play schedule).1 (start.play schedule).2 := by
  have begun : Runs others start [] start := .start
  have runs := begun.played waits schedule
  rwa [List.nil_append] at runs

end Threads

/-- Where the members of a crowd go on by single actions, one of them may take a whole turn. -/
theorem Crowd.reaches_turn {rules : Crowd.Rules ι σ ε α} (acts : rules.goes = Task.Acts)
    (front behind : List (Member ι σ ε α)) (label : ι) (task : Task σ ε α) (world : World σ) :
    Crowd.Reaches rules ⟨world, front ++ ⟨label, task⟩ :: behind⟩
      ⟨(task.turn world).2, front ++ ⟨label, (task.turn world).1⟩ :: behind⟩ := by
  induction task generalizing world with
  | look next ih => exact .head ⟨_, .went (acts ▸ .look)⟩ (ih world world)
  | change act next ih => exact .head ⟨_, .went (acts ▸ .change)⟩ (ih world (act world))
  | emit event next ih => exact .head ⟨_, .went (acts ▸ .emit)⟩ (ih world)
  | done value | rest wake held next | panic reason => exact .refl

end ResilientHttp

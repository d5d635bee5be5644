import ResilientHttp.Proofs.Task.Keeping
import ResilientHttp.Proofs.Task.Threads

/-!
Tasks that look before they act. There are things that such a task does only right after a look at a world
that is `live` for it. Others may act between the look and what is done, so the world in which it is done need
not be live any more; but nothing else of the task itself stands between the two.

* `Task.LooksFirst` — such a task, as it is written; `looksFirst_run` is where the looks come from.
* `Threads.looked_of_runs` — where such tasks go on at the same time, whatever is done in this way, the last
  thing that its thread did before was a look at a live world.
* `Threads.Runs.trans`, `Threads.Runs.along` — runs one after the other, and what is along a run.
-/

namespace ResilientHttp

variable {ι σ ε α β : Type}

namespace Task

/-- A task that does certain things (`does`) only right after a look at a world that is `live`. All else that
it does moves the world along `kept`, and each of its values is `good`. What the task is asked about at last
is whether the thing that was done right before it goes on was such a look. -/
def LooksFirst (live : World σ → Prop) (kept does : World σ → World σ → Prop) (good : α → Prop) :
    Task σ ε α → Prop → Prop
  | .done value, _ => good value
  | .look next, _ => ∀ world, (next world).LooksFirst live kept does good (live world)
  | .change act next, seen =>
      ((∀ world, kept world (act world)) ∨ seen ∧ ∀ world, does world (act world)) ∧
        ∀ world, (next world).LooksFirst live kept does good False
  | .emit _ next, _ => next.LooksFirst live kept does good False
  | .rest _ held next, _ => held.Keeps kept ∧ next.LooksFirst live kept does good False
  | .panic _, _ => True

variable {live : World σ → Prop} {kept does : World σ → World σ → Prop} {good : α → Prop}
  {task next : Task σ ε α} {seen now : Prop} {world after : World σ}

/-- To have looked is never in the way. -/
theorem LooksFirst.mono (h : task.LooksFirst live kept does good seen) (looked : seen → now) :
    task.LooksFirst live kept does good now := by
  cases task with
  | change act next =>
      refine ⟨?_, h.2⟩
      rcases h.1 with quiet | ⟨saw, acts⟩
      · exact .inl quiet
      · exact .inr ⟨looked saw, acts⟩
  | done | look | emit | rest | panic => exact h

/-- A task that does no such thing need not look. -/
theorem Keeps.looksFirst (keeps : task.Keeps kept good) (seen : Prop) :
    task.LooksFirst live kept does good seen := by
  induction task generalizing seen with
  | done value => exact keeps
  | look next ih => exact fun world => ih world (keeps world) _
  | change act next ih => exact ⟨.inl keeps.1, fun world => ih world (keeps.2 world) _⟩
  | emit event next ih => exact ih keeps _
  | rest wake held next ih => exact ⟨keeps.1, ih keeps.2 _⟩
  | panic reason => trivial

/-- What follows a task cannot count on the last look of that task. -/
theorem LooksFirst.bind {other : β → Prop} {f : α → Task σ ε β}
    (h : task.LooksFirst live kept does good seen)
    (next : ∀ value, good value → (f value).LooksFirst live kept does other False) :
    (task.bind f).LooksFirst live kept does other seen := by
  induction task generalizing seen with
  | done value => exact (next value h).mono False.elim
  | look after ih => exact fun world => ih world (h world)
  | change act after ih => exact ⟨h.1, fun world => ih world (h.2 world)⟩
  | emit event after ih => exact ih h
  | rest wake held after ih => exact ⟨h.1, ih h.2⟩
  | panic reason => trivial

theorem LooksFirst.proceed {bound : Task σ ε (Except ContextEnd α)}
    {next : α → Task σ ε (Except ClientError β)} {other : Except ClientError β → Prop}
    (h : bound.LooksFirst live kept does (fun result => ∀ value, result = .ok value → good value) seen)
    (ended : ∀ ending : ContextEnd, other (.error ending.error))
    (goesOn : ∀ value, good value → (next value).LooksFirst live kept does other False) :
    (bound.proceed next).LooksFirst live kept does other seen := by
  refine h.bind ?_
  intro result good
  cases result with
  | error ending => exact ended ending
  | ok value => exact goesOn value (good value rfl)

/-- What one action of such a task does, and whether it was a look at a live world. -/
theorem LooksFirst.acts (h : task.LooksFirst live kept does good seen) (acts : task.Acts world next after) :
    ((after = world ∨ kept world after) ∨ seen ∧ does world after) ∧
      ∃ looked : Prop, (looked → after = world ∧ live world) ∧
        next.LooksFirst live kept does good looked := by
  cases acts with
  | look => exact ⟨.inl (.inl rfl), live _, fun saw => ⟨rfl, saw⟩, h _⟩
  | change => exact ⟨h.1.imp (fun quiet => .inr (quiet _)) (.imp_right fun acts => acts _),
      False, False.elim, h.2 _⟩
  | emit => exact ⟨.inl (.inl rfl), False, False.elim, h⟩
  | wake => exact ⟨.inl (.inl rfl), False, False.elim, h.2⟩

end Task

/-! ### Work bound to a context -/

namespace Context

variable {live : World σ → Prop} {kept does : World σ → World σ → Prop} {good : α → Prop}
  {task : Task σ ε α} {seen : Prop}

theorem looksFirst_resume (context : Context) {held : Cleanup σ ε}
    {next : Task σ ε (Except ContextEnd α)} (keeps : held.Keeps kept)
    (h : ∀ world, context.endedIn? world = none → next.LooksFirst live kept does
      (fun result => ∀ value, result = .ok value → good value) (live world)) :
    (context.resume held next).LooksFirst live kept does
      (fun result => ∀ value, result = .ok value → good value) seen := by
  intro world
  dsimp only
  cases ended : context.endedIn? world with
  | none => exact h world ended
  | some ending =>
      have release : ((Task.release held).bind fun _ => .done (.error ending)).Keeps kept
          fun result : Except ContextEnd α => ∀ value, result = .ok value → good value :=
        (Task.keeps_release keeps).bind fun _ _ => by rintro _ ⟨⟩
      exact release.looksFirst _

theorem looksFirst_guard (context : Context) (h : task.LooksFirst live kept does good seen) :
    (context.guard task).LooksFirst live kept does
      (fun result => ∀ value, result = .ok value → good value) seen := by
  induction task generalizing seen with
  | done value =>
      rintro _ ⟨⟩
      exact h
  | look next ih => exact fun world => ih world (h world)
  | change act next ih => exact ⟨h.1, fun world => ih world (h.2 world)⟩
  | emit event next ih => exact ih h
  | rest wake held next ih =>
      exact ⟨h.1, looksFirst_resume context h.1 fun _ _ => (ih h.2).mono False.elim⟩
  | panic reason => trivial

/-- Bound work goes on right after a look at which its context has not ended. -/
theorem looksFirst_run (context : Context) {pending : Cleanup σ ε} (keeps : pending.Keeps kept)
    (sees : ∀ world, context.endedIn? world = none → live world)
    (h : task.LooksFirst live kept does good True) :
    (context.run pending task).LooksFirst live kept does
      (fun result => ∀ value, result = .ok value → good value) seen :=
  looksFirst_resume context keeps fun world alive =>
    (looksFirst_guard context h).mono fun _ => sees world alive

end Context

/-! ### At the same time -/

section Deeds

variable [DecidableEq ι] {i j : ι} {deed : Deed ι σ} {deeds more : List (Deed ι σ)}

/-- The last thing that a thread did. -/
def Deed.last? (i : ι) (deeds : List (Deed ι σ)) : Option (Deed ι σ) :=
  (deeds.filter fun deed => deed.thread = i).getLast?

/-- The last thing that a thread did was a look at a live world. -/
def Deed.LookedLast (live : World σ → Prop) (i : ι) (deeds : List (Deed ι σ)) : Prop :=
  ∃ look, Deed.last? i deeds = some look ∧ look.after = look.before ∧ live look.before

theorem Deed.last?_concat : Deed.last? deed.thread (deeds ++ [deed]) = some deed := by
  simp [Deed.last?]

theorem Deed.last?_concat_of_ne (different : j ≠ deed.thread) :
    Deed.last? j (deeds ++ [deed]) = Deed.last? j deeds := by
  simp [Deed.last?, Ne.symm different]

/-- If a thread has done something later, the last of it is the last of all. -/
theorem Deed.last?_append (mem : ∃ other ∈ more, other.thread = i) :
    Deed.last? i (deeds ++ more) = Deed.last? i more := by
  obtain ⟨other, mem, rfl⟩ := mem
  have own : other ∈ more.filter fun deed => deed.thread = other.thread :=
    List.mem_filter.mpr ⟨mem, decide_eq_true rfl⟩
  have last := List.getLast?_eq_some_getLast (List.ne_nil_of_mem own)
  rw [Deed.last?, Deed.last?, List.filter_append, List.getLast?_append, last]
  rfl

end Deeds

namespace Threads

variable [DecidableEq ι] {others : World σ → World σ → Prop} {start mid threads : Threads ι σ ε α}
  {deeds more : List (Deed ι σ)} {live : ι → World σ → Prop} {kept : World σ → World σ → Prop}
  {does : ι → World σ → World σ → Prop} {good : α → Prop}

/-- Threads that looked first whenever they did certain things, and that have tasks left which will. -/
structure Looked (live : ι → World σ → Prop) (kept : World σ → World σ → Prop)
    (does : ι → World σ → World σ → Prop) (good : α → Prop) (deeds : List (Deed ι σ))
    (threads : Threads ι σ ε α) : Prop where
  past : ∀ earlier deed, earlier ++ [deed] <+: deeds →
    (deed.after = deed.before ∨ kept deed.before deed.after) ∨
      does deed.thread deed.before deed.after ∧ Deed.LookedLast (live deed.thread) deed.thread earlier
  left : ∀ i task, threads.tasks i = some task → ∃ seen : Prop,
    (seen → Deed.LookedLast (live i) i deeds) ∧ task.LooksFirst (live i) kept (does i) good seen

/-- One deed more. -/
theorem Looked.concat (looked : Looked live kept does good deeds threads) (deed : Deed ι σ)
    {task : Option (Task σ ε α)}
    (did : (deed.after = deed.before ∨ kept deed.before deed.after) ∨
      does deed.thread deed.before deed.after ∧ Deed.LookedLast (live deed.thread) deed.thread deeds)
    (left : ∀ next, task = some next → ∃ seen : Prop,
      (seen → deed.after = deed.before ∧ live deed.thread deed.before) ∧
        next.LooksFirst (live deed.thread) kept (does deed.thread) good seen) :
    Looked live kept does good (deeds ++ [deed]) (threads.set deed.thread deed.after task) where
  past earlier other h := by
    rcases List.prefix_concat_iff.mp h with last | old
    · obtain ⟨rfl, rfl⟩ := List.append_singleton_inj.mp last
      exact did
    · exact looked.past earlier other old
  left j other h := by
    by_cases same : j = deed.thread
    · subst same
      rw [tasks_set] at h
      obtain ⟨seen, look, next⟩ := left other h
      exact ⟨seen, fun saw => ⟨deed, Deed.last?_concat, look saw⟩, next⟩
    · rw [tasks_set_of_ne _ _ same] at h
      obtain ⟨seen, look, next⟩ := looked.left j other h
      refine ⟨seen, fun saw => ?_, next⟩
      rw [Deed.LookedLast, Deed.last?_concat_of_ne same]
      exact look saw

/-- In every run of tasks that look first, they do. -/
theorem looked_of_runs (starts : ∀ i task, start.tasks i = some task →
      task.LooksFirst (live i) kept (does i) good False)
    (runs : Runs others start deeds threads) : Looked live kept does good deeds threads := by
  induction runs with
  | start =>
      exact ⟨fun earlier deed h => by simp at h, fun i task h => ⟨False, False.elim, starts i task h⟩⟩
  | @acted deeds threads i task next after _ h acts ih =>
      obtain ⟨seen, look, left⟩ := ih.left i task h
      obtain ⟨did, left⟩ := left.acts acts
      refine ih.concat ⟨i, threads.world, after⟩ (did.imp_right fun both => ?_) ?_
      · exact ⟨both.2, look both.1⟩
      · rintro _ ⟨⟩
        exact left
  | @abandoned deeds threads i wake held next _ h ih =>
      obtain ⟨seen, -, left⟩ := ih.left i _ h
      have keeps : held.Keeps kept := left.1
      exact ih.concat ⟨i, threads.world, held.effect threads.world⟩ (.inl (.inr (keeps _))) nofun
  | others _ _ ih => exact ⟨ih.past, ih.left⟩

/-- What comes of a run after another one comes of both together. -/
theorem Runs.trans (runs : Runs others start deeds mid) (goesOn : Runs others mid more threads) :
    Runs others start (deeds ++ more) threads := by
  induction goesOn with
  | start =>
      rw [List.append_nil]
      exact runs
  | acted _ h acts ih =>
      rw [← List.append_assoc]
      exact ih.acted h acts
  | abandoned _ h ih =>
      rw [← List.append_assoc]
      exact ih.abandoned h
  | others _ quiet ih => exact ih.others quiet

end Threads

section Along

variable {onward : World σ → World σ → Prop} {first world later : World σ} {deeds : List (Deed ι σ)} {i : ι}

/-- Deeds that lie along a relation: so do all worlds in which they were done, and the worlds before the first
of them and after the last one. -/
structure Deed.Along (onward : World σ → World σ → Prop) (first : World σ) (deeds : List (Deed ι σ))
    (now : World σ) : Prop where
  whole : onward first now
  since : ∀ deed ∈ deeds, onward first deed.before
  upto : ∀ deed ∈ deeds, onward deed.before now
  order : deeds.Pairwise fun deed later => onward deed.before later.before

variable (trans : ∀ first second third, onward first second → onward second third → onward first third)

include trans

theorem Deed.Along.aside (h : Deed.Along onward first deeds world) (more : onward world later) :
    Deed.Along onward first deeds later :=
  ⟨trans _ _ _ h.whole more, h.since, fun deed mem => trans _ _ _ (h.upto deed mem) more, h.order⟩

theorem Deed.Along.concat (h : Deed.Along onward first deeds world) (more : onward world later) :
    Deed.Along onward first (deeds ++ [⟨i, world, later⟩]) later where
  whole := trans _ _ _ h.whole more
  since := List.forall_mem_append.mpr ⟨h.since, List.forall_mem_singleton.mpr h.whole⟩
  upto := List.forall_mem_append.mpr
    ⟨(h.aside trans more).upto, List.forall_mem_singleton.mpr more⟩
  order := by
    refine List.pairwise_append.mpr ⟨h.order, List.pairwise_singleton _ _, fun deed mem => ?_⟩
    exact List.forall_mem_singleton.mpr (h.upto deed mem)

/-- If all that is done and all that others do moves the world along a relation, a run lies along it. -/
theorem Threads.Runs.along [DecidableEq ι] {others : World σ → World σ → Prop}
    {start threads : Threads ι σ ε α} (refl : ∀ world, onward world world)
    (quiet : ∀ world later, others world later → onward world later)
    (runs : Runs others start deeds threads) (moves : ∀ deed ∈ deeds, onward deed.before deed.after) :
    Deed.Along onward start.world deeds threads.world := by
  induction runs with
  | start => exact ⟨refl _, List.forall_mem_nil _, List.forall_mem_nil _, .nil⟩
  | acted _ _ _ ih | abandoned _ _ ih =>
      obtain ⟨old, new⟩ := List.forall_mem_append.mp moves
      exact (ih old).concat trans (new _ List.mem_cons_self)
  | others _ aside ih => exact (ih moves).aside trans (quiet _ _ aside)

end Along

end ResilientHttp

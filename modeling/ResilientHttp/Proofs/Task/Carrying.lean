import ResilientHttp.Proofs.Task.Terms
import ResilientHttp.Proofs.Task.Threads

/-!
Tasks that carry something and give it up once. As it is written, such a task does things that leave what it
carries alone (`does`), until it does the one thing that gives it up (`frees`); then it emits events at most,
and is over. Wherever it rests, what it holds gives up what it carries. Since this is said of the task as
it is written, it holds whatever others do between its single actions.

* `Task.Carries`, `Task.Over` — such a task, and what is left of it at the end.
* `Carries.bind`, `carries_guard`, `carries_holding` — how such tasks are put together.
* `Carries.acts` — one action of such a task.
* `Carries.abides` — such a task keeps terms that allow what it does and what gives up what it carries.
-/

namespace ResilientHttp

variable {σ ε α β : Type}

/-- To give up something that is held is something that frees. -/
def Cleanup.Frees (frees : World σ → World σ → Prop) (held : Cleanup σ ε) : Prop :=
  ∀ world, frees world (held.effect world)

namespace Task

/-- A task that has nothing to do any more but to emit events. -/
def Over (spent : α → Prop) : Task σ ε α → Prop
  | .done value => spent value
  | .emit _ next => next.Over spent
  | .look _ | .change _ _ | .rest _ _ _ | .panic _ => False

/-- A task that carries something. It is done with a value that is `kept`, and then it still carries it, or
it has given it up, and its value is as `spent` says. -/
def Carries (does frees : World σ → World σ → Prop) (kept spent : α → Prop) : Task σ ε α → Prop
  | .done value => kept value
  | .look next => ∀ world, (next world).Carries does frees kept spent
  | .change act next =>
      (∀ world, does world (act world)) ∧ (∀ world, (next world).Carries does frees kept spent) ∨
        (∀ world, frees world (act world)) ∧ ∀ world, (next world).Over spent
  | .emit _ next => next.Carries does frees kept spent
  | .rest _ held next => held.Frees frees ∧ next.Carries does frees kept spent
  | .panic _ => True

variable {does frees : World σ → World σ → Prop} {kept spent : α → Prop} {task next : Task σ ε α}
  {held : Cleanup σ ε} {world after : World σ}

/-! ### How such tasks are put together -/

theorem Over.bind {f : α → Task σ ε β} {spent' : β → Prop} (h : task.Over spent)
    (ends : ∀ value, spent value → (f value).Over spent') : (task.bind f).Over spent' := by
  induction task with
  | done value => exact ends value h
  | emit event next ih => exact ih h
  | look | change | rest | panic => exact h.elim

theorem over_emitAll (events : List ε) : (emitAll events : Task σ ε Unit).Over fun _ => True := by
  induction events with
  | nil => trivial
  | cons event later ih => exact ih

theorem Carries.bind {f : α → Task σ ε β} {kept' spent' : β → Prop} (h : task.Carries does frees kept spent)
    (goesOn : ∀ value, kept value → (f value).Carries does frees kept' spent')
    (ends : ∀ value, spent value → (f value).Over spent') :
    (task.bind f).Carries does frees kept' spent' := by
  induction task with
  | done value => exact goesOn value h
  | look next ih => exact fun world => ih world (h world)
  | change act next ih =>
      rcases h with ⟨own, next⟩ | ⟨gives, next⟩
      · exact .inl ⟨own, fun world => ih world (next world)⟩
      · exact .inr ⟨gives, fun world => (next world).bind ends⟩
  | emit event next ih => exact ih h
  | rest wake held next ih => exact ⟨h.1, ih h.2⟩
  | panic reason => trivial

/-- To give up what is held, and to be done. -/
theorem carries_release_bind {f : Unit → Task σ ε β} {kept' spent' : β → Prop} (gives : held.Frees frees)
    (ends : (f ()).Over spent') : ((release held).bind f).Carries does frees kept' spent' := by
  refine .inr ⟨gives, fun _ => ?_⟩
  exact (over_emitAll held.events).bind fun _ _ => ends

theorem carries_sleep (gives : held.Frees frees) (span : Duration) :
    (sleep held span).Carries does frees (fun _ => True) fun _ => False := by
  unfold sleep
  split
  · trivial
  · exact fun _ => ⟨gives, trivial⟩

/-- Whatever a task does besides, it carries what it holds wherever it rests. -/
theorem carries_holding {good : α → Prop} {more : Cleanup σ ε} (keeps : task.Keeps does good)
    (gives : more.Frees frees)
    (joins : ∀ first second third, does first second → frees second third → frees first third) :
    (task.holding more).Carries does frees good fun _ => False := by
  induction task with
  | done value => exact keeps
  | look next ih => exact fun world => ih world (keeps world)
  | change act next ih => exact .inl ⟨keeps.1, fun world => ih world (keeps.2 world)⟩
  | emit event next ih => exact ih keeps
  | rest wake held next ih =>
      exact ⟨fun world => joins _ _ _ (keeps.1 world) (gives _), ih keeps.2⟩
  | panic reason => trivial

end Task

/-- A body that is read while something is held. -/
theorem Body.carries_collect {does frees : World σ → World σ → Prop} {held : Cleanup σ ε}
    (gives : held.Frees frees) (body : Body) :
    (body.collect held).Carries does frees (fun _ => True) fun _ => False := by
  cases body with
  | full octets => trivial
  | stream chunks =>
      rw [Body.collect]
      generalize ([] : Octets) = read
      induction chunks generalizing read with
      | nil => trivial
      | cons chunk later ih =>
          cases chunk with
          | data octets => exact ih _
          | fault error => trivial
          | pause span => exact (Task.carries_sleep gives span).bind (fun _ _ => ih read) fun _ => False.elim

namespace Context

variable {does frees : World σ → World σ → Prop} {kept spent : α → Prop} {task : Task σ ε α}
  {held : Cleanup σ ε}

/-- How bound work that carries something is done. -/
def Kept (kept : α → Prop) : Except ContextEnd α → Prop
  | .ok value => kept value
  | .error _ => False

/-- How bound work is over. -/
def Over (spent : α → Prop) : Except ContextEnd α → Prop
  | .ok value => spent value
  | .error _ => True

theorem over_guard (context : Context) (h : task.Over spent) : (context.guard task).Over (Over spent) := by
  induction task with
  | done value => exact h
  | emit event next ih => exact ih h
  | look | change | rest | panic => exact h.elim

/-- Once the context has ended, what is held is given up. -/
theorem carries_resume (context : Context) {next : Task σ ε (Except ContextEnd α)}
    (gives : held.Frees frees) (h : next.Carries does frees (Kept kept) (Over spent)) :
    (context.resume held next).Carries does frees (Kept kept) (Over spent) := by
  intro world
  dsimp only
  cases context.endedIn? world with
  | some ending =>
      have ends : (Task.done (.error ending) : Task σ ε (Except ContextEnd α)).Over (Over spent) := trivial
      exact Task.carries_release_bind gives ends
  | none => exact h

/-- Bound work that is abandoned at the end of its context gives up what it carries. -/
theorem carries_guard (context : Context) (h : task.Carries does frees kept spent) :
    (context.guard task).Carries does frees (Kept kept) (Over spent) := by
  induction task with
  | done value => exact h
  | look next ih => exact fun world => ih world (h world)
  | change act next ih =>
      rcases h with ⟨own, next⟩ | ⟨gives, next⟩
      · exact .inl ⟨own, fun world => ih world (next world)⟩
      · exact .inr ⟨gives, fun world => context.over_guard (next world)⟩
  | emit event next ih => exact ih h
  | rest wake held next ih => exact ⟨h.1, context.carries_resume h.1 (ih h.2)⟩
  | panic reason => trivial

theorem carries_run (context : Context) (gives : held.Frees frees)
    (h : task.Carries does frees kept spent) :
    (context.run held task).Carries does frees (Kept kept) (Over spent) :=
  context.carries_resume gives (context.carries_guard h)

end Context

namespace Task

variable {does frees : World σ → World σ → Prop} {kept spent : α → Prop} {task next : Task σ ε α}
  {wake : Wake σ} {held : Cleanup σ ε} {world after : World σ}

/-- Bound work and what follows it. -/
theorem Carries.proceed {bound : Task σ ε (Except ContextEnd α)}
    {f : α → Task σ ε (Except ClientError β)} {kept' spent' : Except ClientError β → Prop}
    (h : bound.Carries does frees (Context.Kept kept) (Context.Over spent))
    (goesOn : ∀ value, kept value → (f value).Carries does frees kept' spent')
    (ends : ∀ value, spent value → (f value).Over spent')
    (fails : ∀ ending : ContextEnd, spent' (.error ending.error)) :
    (bound.proceed f).Carries does frees kept' spent' := by
  refine h.bind ?_ ?_
  · rintro (ending | value) kept
    · exact kept.elim
    · exact goesOn value kept
  · rintro (ending | value) spent
    · exact fails ending
    · exact ends value spent

/-! ### One action -/

/-- A task that is over changes nothing. -/
theorem Over.acts (h : task.Over spent) (acts : task.Acts world next after) :
    after = world ∧ next.Over spent := by
  cases acts with
  | emit => exact ⟨rfl, h⟩
  | look | change | wake => exact h.elim

/-- A task that carries something still does after an action that leaves it alone, or it gives it up and is
over. -/
theorem Carries.acts (h : task.Carries does frees kept spent) (acts : task.Acts world next after) :
    (after = world ∨ does world after) ∧ next.Carries does frees kept spent ∨
      frees world after ∧ next.Over spent := by
  cases acts with
  | look => exact .inl ⟨.inl rfl, h world⟩
  | change =>
      rcases h with ⟨own, next⟩ | ⟨gives, next⟩
      · exact .inl ⟨.inr (own world), next world⟩
      · exact .inr ⟨gives world, next world⟩
  | emit => exact .inl ⟨.inl rfl, h⟩
  | wake => exact .inl ⟨.inl rfl, h.2⟩

/-! ### On terms -/

section Terms

variable {terms : Terms σ ε} {stays left : World σ → Prop} (tells : ∀ event world, terms.tells event world)

include tells

theorem Over.abides {post : α → World σ → Prop} (h : task.Over spent)
    (ends : ∀ value, spent value → post value world) : task.Abides terms post world := by
  induction task with
  | done value => exact ends value h
  | emit event next ih => exact ⟨tells event world, ih h⟩
  | look | change | rest | panic => exact h.elim

/-- A task that carries something keeps terms under which it may do what it does, and which hold where it
gives up what it carries. -/
theorem Carries.abides (own : ∀ world after, stays world → does world after →
      terms.guar world after ∧ stays after)
    (gives : ∀ world after, stays world → frees world after → terms.guar world after ∧ left after)
    (others : ∀ world later, stays world → terms.rely world later → stays later)
    (rests : ∀ world, stays world → terms.rests world) (leaves : ∀ world, left world → terms.leaves world)
    (h : task.Carries does frees kept spent) (now : stays world) :
    task.Abides terms (fun value world => kept value ∧ stays world ∨ spent value ∧ left world) world := by
  induction task generalizing world with
  | done value => exact .inl ⟨h, now⟩
  | look next ih => exact ih world (h world) now
  | change act next ih =>
      rcases h with ⟨changes, next⟩ | ⟨frees, next⟩
      · obtain ⟨guar, still⟩ := own _ _ now (changes world)
        exact ⟨guar, ih world (next world) still⟩
      · obtain ⟨guar, gone⟩ := gives _ _ now (frees world)
        exact ⟨guar, (next world).abides tells fun value spent => .inr ⟨spent, gone⟩⟩
  | emit event next ih => exact ⟨tells event world, ih h now⟩
  | rest wake held next ih =>
      refine ⟨rests world now, fun later hrely => ?_⟩
      have still := others _ _ now hrely
      obtain ⟨guar, gone⟩ := gives _ _ still (h.1 later)
      exact ⟨⟨guar, fun event _ => tells event _, leaves _ gone⟩, fun _ => ih h.2 still⟩
  | panic reason => exact rests world now

end Terms

end Task
end ResilientHttp

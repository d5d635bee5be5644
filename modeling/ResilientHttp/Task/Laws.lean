import ResilientHttp.Task.Course

/-!
Laws of tasks. Tasks form a monad (`instance : LawfulMonad`), and `course_bind` says what that
means in time: the course of a task followed by another one is the course of the first, continued
by the course of the second in the world in which the first was done.
-/

namespace ResilientHttp

variable {σ ε α β γ : Type}

/-- A course continued where its task was done. -/
def Course.andThen (course : Course σ ε α) (next : α → World σ → Course σ ε β) :
    Course σ ε β :=
  match course.outcome with
  | .value result =>
    let later := next result course.world
    { later with events := course.events ++ later.events }
  | .never => ⟨course.events, course.world, .never⟩
  | .panicked reason => ⟨course.events, course.world, .panicked reason⟩

/-- An event before the first part of a continued course is before all of it. -/
theorem Course.prepend_andThen (event : Instant × ε) (course : Course σ ε α)
    (next : α → World σ → Course σ ε β) :
    (course.prepend event).andThen next = (course.andThen next).prepend event := by
  obtain ⟨events, world, outcome⟩ := course
  cases outcome <;> rfl

namespace Task

/-- Going on with nothing more to do changes nothing. -/
theorem bind_done (task : Task σ ε α) : task.bind .done = task := by
  induction task with
  | done value => rfl
  | look next ih =>
    show Task.look _ = _
    congr 1
    funext world
    exact ih world
  | change act next ih => exact congrArg (Task.change act) (funext ih)
  | emit event next ih => exact congrArg (Task.emit event) ih
  | rest wake held next ih => exact congrArg (Task.rest wake held) ih
  | panic reason => rfl

/-- It does not matter how steps that follow one another are grouped. -/
theorem bind_assoc (task : Task σ ε α) (f : α → Task σ ε β) (g : β → Task σ ε γ) :
    (task.bind f).bind g = task.bind fun value => (f value).bind g := by
  induction task with
  | done value => rfl
  | look next ih =>
    show Task.look _ = Task.look _
    congr 1
    funext world
    exact ih world
  | change act next ih => exact congrArg (Task.change act) (funext ih)
  | emit event next ih => exact congrArg (Task.emit event) ih
  | rest wake held next ih => exact congrArg (Task.rest wake held) ih
  | panic reason => rfl

instance : LawfulMonad (Task σ ε) :=
  LawfulMonad.mk' _
    (fun task => bind_done task)
    (fun _ _ => rfl)
    (fun task f g => bind_assoc task f g)

/-- A task that is done has an empty course. -/
@[simp]
theorem course_done (value : α) (world : World σ) :
    (Task.done value : Task σ ε α).course world = ⟨[], world, .value value⟩ := rfl

/-- The course of a task followed by another one is the course of the first, continued. -/
theorem course_bind (task : Task σ ε α) (f : α → Task σ ε β) (world : World σ) :
    (task.bind f).course world =
      (task.course world).andThen fun value after => (f value).course after := by
  induction task generalizing world with
  | done value => rfl
  | look next ih => exact ih world world
  | change act next ih => exact ih world (act world)
  | emit event next ih =>
    show ((next.bind f).course world).prepend _ = ((next.course world).prepend _).andThen _
    rw [ih world, Course.prepend_andThen]
  | rest wake held next ih =>
    simp only [Task.bind, Task.course]
    split
    · exact ih world
    · cases wake.instant with
      | none => rfl
      | some instant => exact ih _
  | panic reason => rfl

/-- The course of a change is the course of what follows, in the changed world. -/
@[simp]
theorem course_change (act : World σ → World σ) (next : World σ → Task σ ε α) (world : World σ) :
    (Task.change act next).course world = (next world).course (act world) := rfl

/-- The course of a look is that of the task that the world leads to. -/
@[simp]
theorem course_look (next : World σ → Task σ ε α) (world : World σ) :
    (Task.look next).course world = (next world).course world := rfl

/-- An emitted event comes first, at the instant that the clock shows. -/
@[simp]
theorem course_emit (event : ε) (next : Task σ ε α) (world : World σ) :
    (Task.emit event next).course world = (next.course world).prepend (world.now, event) := rfl

/-- What a task holds besides is of no account as long as nobody abandons it. -/
@[simp]
theorem course_holding (more : Cleanup σ ε) (task : Task σ ε α) (world : World σ) :
    (task.holding more).course world = task.course world := by
  induction task generalizing world with
  | done value => rfl
  | look next ih => exact ih world world
  | change act next ih => exact ih world (act world)
  | emit event next ih => exact congrArg (Course.prepend _) (ih world)
  | rest wake held next ih => simp only [Task.holding, Task.course, ih]
  | panic reason => rfl

end Task
end ResilientHttp

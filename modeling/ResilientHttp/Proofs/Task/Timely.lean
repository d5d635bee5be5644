import ResilientHttp.Proofs.Context.Punctual

/-!
What a task ensures in its runs on time. `Task.EnsuresOnTime` is the weakest precondition of a task that
is not left waiting: in a rest, all that can be reached before the rest is over counts, and what the task
waits for there is told by the instant at which it goes on by itself.

* `EnsuresOnTime.bind`, `EnsuresOnTime.proceed` — the rules for what follows a task and for bound work. A
  context that has not ended is as good as none.
* `ensuresOnTime_sleep`, `ensuresOnTime_collect` — with exact timers a sleep ends when its time has passed,
  and a body has been read when the time of its pauses has.
* `EnsuresOnTime.of_run`, `EnsuresOnTime.of_course` — what is ensured is kept along every run on time, and
  so it holds at the end of a course.
-/

namespace ResilientHttp

variable {σ ε α β : Type}

namespace Wake

variable {others : World σ → World σ → Prop} {waits stays : World σ → Prop} {wake : Wake σ}
  {world later : World σ}

/-- Something less may be asked of the instants that pass in a rest. -/
theorem Rests.anyway (rests : wake.Rests others waits world later) :
    wake.Rests others (fun _ => True) world later := by
  refine Relation.ReflTransGen.mono (fun before after passes => ?_) _ _ rests
  cases passes with
  | beside act same => exact .beside act same
  | time earlier notDue bound _ => exact .time earlier notDue bound fun _ _ _ => trivial

/-- What the others and the passing of time leave, a rest leaves. -/
theorem Rests.of_stays (rests : wake.Rests others waits world later)
    (acts : ∀ world later, stays world → others world later → stays later)
    (wait : ∀ world instant, stays world → stays { world with now := instant }) (h : stays world) :
    stays later := by
  induction rests with
  | refl => exact h
  | tail _ passes ih =>
      cases passes with
      | beside act _ => exact acts _ _ ih act
      | time _ _ _ _ => exact wait _ _ ih

/-- A rest does not last beyond the instant at which it ends by itself. -/
theorem Rests.now_le {due : Instant} (rests : wake.Rests others waits world later)
    (ends : wake.instant = some due) (before : world.now ≤ due) : later.now ≤ due := by
  induction rests with
  | refl => exact before
  | tail _ passes ih =>
      cases passes with
      | beside _ same => exact same ▸ ih
      | time _ _ bound _ => exact bound due ends

end Wake

theorem Duration.toNanos_of_isZero {span : Duration} (h : span.isZero = true) : span.toNanos = 0 := by
  obtain ⟨seconds, nanos⟩ : span.seconds = 0 ∧ span.nanos = 0 := by simpa [Duration.isZero] using h
  rw [Duration.toNanos, seconds, nanos]
  rfl

namespace World

/-- Timers of any length are exact. -/
def Exact (world : World σ) : Prop := world.longestTimer = none

theorem lasting_of_exact {world : World σ} (exact : world.Exact) (span : Duration) :
    world.lasting span = span.toNanos := by
  rw [lasting, exact]

theorem lasting_of_isZero (world : World σ) {span : Duration} (h : span.isZero = true) :
    world.lasting span = 0 := by
  rw [lasting, Duration.toNanos_of_isZero h]
  split
  · rfl
  · exact Nat.zero_min _

end World

namespace Task

theorem sleep_eq (held : Cleanup σ ε) (span : Duration) :
    sleep held span =
      if span.isZero then .done ()
      else .look fun world =>
        .rest ⟨some (world.now + world.lasting span), fun _ => false⟩ held (.done ()) :=
  rfl

/-- What a task ensures from a world on in its runs on time, as long as each world that it looks at
`lives`: `always` holds at every step, `waits` holds of the instant at which a rest ends by itself, and
`post` holds of the value. A task that panicked rests for ever. -/
def EnsuresOnTime (others : World σ → World σ → Prop) (lives always : World σ → Prop)
    (waits : Option Instant → World σ → Prop) (post : α → World σ → Prop) :
    Task σ ε α → World σ → Prop
  | .done value, world => always world ∧ post value world
  | .look next, world =>
      always world ∧
        (lives world → (next world).EnsuresOnTime others lives always waits post world)
  | .change act next, world =>
      always world ∧ (next world).EnsuresOnTime others lives always waits post (act world)
  | .emit _ next, world => always world ∧ next.EnsuresOnTime others lives always waits post world
  | .rest wake _ next, world =>
      ∀ later, wake.Rests others (fun _ => True) world later →
        always later ∧ waits wake.instant later ∧
          (wake.isDue later = true → next.EnsuresOnTime others lives always waits post later)
  | .panic _, world => always world ∧ waits none world

section Rules

variable {others : World σ → World σ → Prop} {lives always : World σ → Prop}
  {waits : Option Instant → World σ → Prop} {post : α → World σ → Prop} {task left : Task σ ε α}
  {world after : World σ} {events : List (Instant × ε)}

theorem EnsuresOnTime.now (h : task.EnsuresOnTime others lives always waits post world) :
    always world := by
  cases task with
  | rest wake held next => exact (h world .refl).1
  | _ => exact h.1

/-- A task followed by another one ensures what the other one ensures of each of its values. -/
theorem EnsuresOnTime.bind {f : α → Task σ ε β} {post : β → World σ → Prop}
    (h : task.EnsuresOnTime others lives always waits
      (fun value => (f value).EnsuresOnTime others lives always waits post) world) :
    (task.bind f).EnsuresOnTime others lives always waits post world := by
  induction task generalizing world with
  | done value => exact h.2
  | look next ih => exact ⟨h.1, fun living => ih world (h.2 living)⟩
  | change act next ih => exact ⟨h.1, ih world h.2⟩
  | emit event next ih => exact ⟨h.1, ih h.2⟩
  | rest wake held next ih =>
      intro later rests
      obtain ⟨now, waiting, goesOn⟩ := h later rests
      exact ⟨now, waiting, fun due => ih (goesOn due)⟩
  | panic reason => exact h

/-- In runs in which every world lives nothing is lost: what the task ensures, what is left of it
ensures. -/
theorem EnsuresOnTime.of_run (h : task.EnsuresOnTime others lives always waits post world)
    (run : OnTime others task world events left after)
    (living : ∀ {events left after}, OnTime others task world events left after → lives after) :
    left.EnsuresOnTime others lives always waits post after := by
  induction run with
  | here => exact h
  | look _ ih => exact ih (h.2 (living .here)) fun run => living (.look run)
  | change _ ih => exact ih h.2 fun run => living (.change run)
  | emit _ ih => exact ih h.2 fun run => living (.emit run)
  | resting rests => exact fun later onward => h later (rests.trans onward)
  | wake rests due woken _ ih =>
      exact ih ((h _ rests).2.2 due) fun run => living (.wake rests due woken run)

/-- Alone a task gives a value of which it ensures something, unless it comes to a rest without end. -/
theorem EnsuresOnTime.of_course (h : task.EnsuresOnTime others lives always waits post world)
    (living : ∀ {events left after}, OnTime others task world events left after → lives after) :
    always (task.course world).world ∧
      ((∃ value, (task.course world).outcome = .value value ∧ post value (task.course world).world) ∨
        waits none (task.course world).world) := by
  obtain ⟨left, run, ends⟩ := exists_onTime_course others task world
  have kept := h.of_run run living
  refine ⟨kept.now, ?_⟩
  cases outcome : (task.course world).outcome with
  | value value =>
      rw [outcome] at ends
      rw [ends] at kept
      exact .inl ⟨value, rfl, kept.2⟩
  | never =>
      rw [outcome] at ends
      obtain ⟨wake, held, next, same, never⟩ := ends
      rw [same] at kept
      exact .inr (never ▸ (kept _ .refl).2.1)
  | panicked reason =>
      rw [outcome] at ends
      rw [ends] at kept
      exact .inr kept.2

/-- A task that keeps to a relation ensures what the relation, the others and the passing of time
leave. -/
theorem Keeps.ensuresOnTime {kept : World σ → World σ → Prop} {good : α → Prop}
    (keeps : task.Keeps kept good) (stays : World σ → Prop)
    (own : ∀ world after, stays world → kept world after → stays after)
    (acts : ∀ world later, stays world → others world later → stays later)
    (wait : ∀ world instant, stays world → stays { world with now := instant })
    (steady : ∀ world, stays world → always world)
    (resting : ∀ instant world, stays world → waits instant world)
    (finish : ∀ value world, stays world → good value → post value world) (h : stays world) :
    task.EnsuresOnTime others lives always waits post world := by
  induction task generalizing world with
  | done value => exact ⟨steady _ h, finish _ _ h keeps⟩
  | look next ih => exact ⟨steady _ h, fun _ => ih world (keeps world) h⟩
  | change act next ih => exact ⟨steady _ h, ih world (keeps.2 world) (own _ _ h (keeps.1 world))⟩
  | emit event next ih => exact ⟨steady _ h, ih keeps h⟩
  | rest wake held next ih =>
      intro later rests
      have hlater : stays later := rests.of_stays acts wait h
      exact ⟨steady _ hlater, resting _ _ hlater, fun _ => ih keeps.2 hlater⟩
  | panic reason => exact ⟨steady _ h, resting _ _ h⟩

/-- What the relation, the others and the passing of time leave holds after every run. -/
theorem Keeps.stays_of_run {kept : World σ → World σ → Prop} {good : α → Prop}
    (keeps : task.Keeps kept good) (stays : World σ → Prop)
    (own : ∀ world after, stays world → kept world after → stays after)
    (acts : ∀ world later, stays world → others world later → stays later)
    (wait : ∀ world instant, stays world → stays { world with now := instant }) (h : stays world)
    (run : OnTime others task world events left after) : stays after := by
  have ensured : task.EnsuresOnTime others (fun _ => True) stays (fun _ _ => True) (fun _ _ => True)
      world :=
    keeps.ensuresOnTime stays own acts wait (fun _ => id) (fun _ _ _ => trivial)
      (fun _ _ _ _ => trivial) h
  exact (ensured.of_run run fun _ => trivial).now

theorem ensuresOnTime_emitAll {post : Unit → World σ → Prop} (given : List ε) (now : always world)
    (h : post () world) :
    (emitAll given).EnsuresOnTime others lives always waits post world := by
  induction given with
  | nil => exact ⟨now, h⟩
  | cons event later ih => exact ⟨now, ih⟩

/-- With exact timers a sleep ends when its time has passed, and before that the others can leave what they
leave. -/
theorem ensuresOnTime_sleep {post : Unit → World σ → Prop} (stays : World σ → Prop)
    {held : Cleanup σ ε} {span : Duration} {due : Instant}
    (exact : ∀ world, lives world → world.Exact)
    (acts : ∀ world later, stays world → others world later → stays later)
    (wait : ∀ world instant, stays world → stays { world with now := instant })
    (steady : ∀ world, stays world → world.now ≤ due → always world)
    (resting : ∀ world, stays world → world.now ≤ due → waits (some due) world)
    (finish : ∀ world, stays world → world.now = due → post () world) (h : stays world)
    (lasts : due = world.now + span.toNanos) :
    (sleep held span).EnsuresOnTime others lives always waits post world := by
  rw [sleep_eq]
  split
  · rename_i empty
    have same : world.now = due := by rw [lasts, Duration.toNanos_of_isZero empty, Nat.add_zero]
    exact ⟨steady _ h (Nat.le_of_eq same), finish _ h same⟩
  · have before : world.now ≤ due := lasts ▸ Nat.le_add_right _ _
    refine ⟨steady _ h before, fun living => ?_⟩
    dsimp only
    rw [World.lasting_of_exact (exact world living), ← lasts]
    intro later rests
    have hlater : stays later := rests.of_stays acts wait h
    have notBeyond : later.now ≤ due := rests.now_le rfl before
    refine ⟨steady _ hlater notBeyond, resting _ hlater notBeyond, fun isDue => ?_⟩
    have reached : due ≤ later.now := by simpa [Wake.isDue] using isDue
    have same : later.now = due := Nat.le_antisymm notBeyond reached
    exact ⟨steady _ hlater notBeyond, finish _ hlater same⟩

end Rules

end Task

/-! ### Bodies -/

namespace Body

/-- How long it takes to read chunks up to the end or the first fault, with timers that run for certain
times. -/
def readingTimeOf (timer : Duration → Nat) : List Chunk → Nat
  | [] => 0
  | .data _ :: later => readingTimeOf timer later
  | .fault _ :: _ => 0
  | .pause span :: later => timer span + readingTimeOf timer later

/-- How long it takes to read a body up to its end or its first fault. -/
def readingTime (timer : Duration → Nat) : Body → Nat
  | .full _ => 0
  | .stream chunks => readingTimeOf timer chunks

section Collect

variable {others : World σ → World σ → Prop} {lives always : World σ → Prop}
  {waits : Option Instant → World σ → Prop} {post : ChunkResult → World σ → Prop}
  {held : Cleanup σ ε} {due : Instant} {world : World σ} (stays : World σ → Prop)
  (exact : ∀ world, lives world → world.Exact)
  (acts : ∀ world later, stays world → others world later → stays later)
  (wait : ∀ world instant, stays world → stays { world with now := instant })
  (steady : ∀ world, stays world → world.now ≤ due → always world)
  (resting : ∀ instant world, stays world → world.now ≤ due → instant ≤ due →
    waits (some instant) world)

include exact acts wait steady resting

theorem ensuresOnTime_collectChunks (chunks : List Chunk) (read : Octets)
    (finish : ∀ world, stays world → world.now = due →
      post ((contentOf chunks).map (read ++ ·)) world)
    (h : stays world) (lasts : due = world.now + readingTimeOf Duration.toNanos chunks) :
    (collectChunks held read chunks).EnsuresOnTime others lives always waits post world := by
  induction chunks generalizing read world with
  | nil =>
      have finished := finish world h lasts.symm
      rw [contentOf, Except.map, List.append_nil] at finished
      exact ⟨steady _ h (Nat.le_of_eq lasts.symm), finished⟩
  | cons chunk later ih =>
      cases chunk with
      | data octets =>
          refine ih (read ++ octets) (fun after hafter reached => ?_) h lasts
          have finished := finish after hafter reached
          cases content : contentOf later <;> simpa [contentOf, content, Except.map] using finished
      | fault error => exact ⟨steady _ h (Nat.le_of_eq lasts.symm), finish world h lasts.symm⟩
      | pause span =>
          have order : world.now + span.toNanos ≤ due := by
            rw [lasts, readingTimeOf, ← Nat.add_assoc]
            exact Nat.le_add_right _ _
          refine .bind (Task.ensuresOnTime_sleep stays exact acts wait
            (fun after hafter before => steady after hafter (Nat.le_trans before order))
            (fun after hafter before => resting _ after hafter (Nat.le_trans before order) order)
            (fun after hafter reached => ?_) h rfl)
          refine ih read finish hafter ?_
          rw [lasts, reached, readingTimeOf, Nat.add_assoc]

/-- With exact timers a body has been read when the time of its pauses has passed. -/
theorem ensuresOnTime_collect (body : Body)
    (finish : ∀ world, stays world → world.now = due → post body.content world)
    (h : stays world) (lasts : due = world.now + body.readingTime Duration.toNanos) :
    (body.collect held).EnsuresOnTime others lives always waits post world := by
  cases body with
  | full octets => exact ⟨steady _ h (Nat.le_of_eq lasts.symm), finish world h lasts.symm⟩
  | stream chunks =>
      refine ensuresOnTime_collectChunks stays exact acts wait steady resting chunks []
        (fun after hafter reached => ?_) h lasts
      have finished := finish after hafter reached
      cases content : contentOf chunks <;> simpa [Body.content, content, Except.map] using finished

end Collect

end Body

/-! ### Bound work -/

namespace Task

section Bound

variable {context : Context} {others : World σ → World σ → Prop} {lives always : World σ → Prop}
  {waits : Option Instant → World σ → Prop} {world : World σ}
  (alive : ∀ world, lives world → context.Lives world)
  (bounded : ∀ instant world, waits instant world →
    waits (Context.earlier instant context.deadline) world)

include alive bounded

theorem EnsuresOnTime.guard {post : Except ContextEnd α → World σ → Prop} {task : Task σ ε α}
    (h : task.EnsuresOnTime others lives always waits (fun value => post (.ok value)) world) :
    (context.guard task).EnsuresOnTime others lives always waits post world := by
  induction task generalizing world with
  | done value => exact h
  | look next ih => exact ⟨h.1, fun living => ih world (h.2 living)⟩
  | change act next ih => exact ⟨h.1, ih world h.2⟩
  | emit event next ih => exact ⟨h.1, ih h.2⟩
  | rest wake held next ih =>
      intro later rests
      have own : wake.Rests others (fun _ => True) world later :=
        (Context.rests_orEnd_living.mp rests).anyway
      obtain ⟨now, waiting, goesOn⟩ := h later own
      refine ⟨now, bounded _ _ waiting, fun due => ⟨now, fun living => ?_⟩⟩
      have unended : context.endedIn? later = none := alive later living
      rw [Context.isDue_orEnd unended] at due
      simp only [unended]
      exact ih (goesOn due)
  | panic reason => exact h

/-- Bound work whose context lives is gone on with as if it were not bound. -/
theorem EnsuresOnTime.proceed {post : Except ClientError β → World σ → Prop} {task : Task σ ε α}
    {next : α → Task σ ε (Except ClientError β)} (now : always world)
    (h : lives world → task.EnsuresOnTime others lives always waits
      (fun value => (next value).EnsuresOnTime others lives always waits post) world) :
    ((context.run .none task).proceed next).EnsuresOnTime others lives always waits post world := by
  refine .bind ⟨now, fun living => ?_⟩
  simp only [show context.endedIn? world = none from alive world living]
  exact .guard alive bounded (h living)

end Bound

/-- A look at a context that lives lets the task go on. -/
theorem EnsuresOnTime.proceed_check {context : Context} {others : World σ → World σ → Prop}
    {lives always : World σ → Prop} {waits : Option Instant → World σ → Prop} {world : World σ}
    {post : Except ClientError β → World σ → Prop} {next : Unit → Task σ ε (Except ClientError β)}
    (alive : ∀ world, lives world → context.Lives world) (now : always world)
    (h : lives world → (next ()).EnsuresOnTime others lives always waits post world) :
    (context.check.proceed next).EnsuresOnTime others lives always waits post world := by
  refine .bind ⟨now, fun living => ?_⟩
  simp only [show context.endedIn? world = none from alive world living]
  exact ⟨now, h living⟩

end Task
end ResilientHttp

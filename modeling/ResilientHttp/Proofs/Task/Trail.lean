import ResilientHttp.Proofs.Context.Guard

/-!
What comes to a trail. `Task.Ensures` speaks of all moments that have passed; here it is told what the
moments are that have come to them since a task began.

* `Ensures.since` — each of them saw a world in which held what always holds.
* `Task.Silent`, `Ensures.silently` — a task that emits nothing leaves moments without events.
* `ensures_emitAll_told`, `ensures_release_told` — what is told event by event.
-/

namespace ResilientHttp

variable {σ ε α β : Type}

/-- A trail has grown by moments of a certain kind. -/
def Since (kind : Moment σ ε → Prop) (before now : List (Moment σ ε)) : Prop :=
  ∃ more, now = before ++ more ∧ ∀ moment ∈ more, kind moment

section Since

variable {kind other : Moment σ ε → Prop} {before now : List (Moment σ ε)} {moment : Moment σ ε}

theorem Since.refl (kind : Moment σ ε → Prop) (before : List (Moment σ ε)) :
    Since kind before before :=
  ⟨[], (List.append_nil _).symm, List.forall_mem_nil _⟩

theorem Since.concat (h : Since kind before now) (last : kind moment) :
    Since kind before (now ++ [moment]) := by
  obtain ⟨more, rfl, all⟩ := h
  refine ⟨more ++ [moment], List.append_assoc .., ?_⟩
  exact List.forall_mem_append.mpr ⟨all, List.forall_mem_singleton.mpr last⟩

theorem Since.single (last : kind moment) : Since kind before (before ++ [moment]) :=
  (Since.refl kind before).concat last

theorem Since.and (h : Since kind before now) (h' : Since other before now) :
    Since (fun moment => kind moment ∧ other moment) before now := by
  obtain ⟨more, rfl, all⟩ := h
  obtain ⟨same, equal, all'⟩ := h'
  obtain rfl := List.append_cancel_left equal
  exact ⟨more, rfl, fun moment mem => ⟨all moment mem, all' moment mem⟩⟩

end Since

namespace Task

variable {rely : World σ → World σ → Prop} {always : List (Moment σ ε) → World σ → Prop}
  {post : List (Moment σ ε) → α → World σ → Prop} {before past : List (Moment σ ε)} {world : World σ}

/-- What always holds of the world holds of the world of each moment that passes. -/
theorem Ensures.since {task : Task σ ε α} (h : task.Ensures rely always post past world)
    (stays : World σ → Prop)
    (keeps : ∀ past world, always past world → stays world)
    (begun : Since (fun moment => stays moment.world) before past) :
    task.Ensures rely
      (fun now world => always now world ∧ Since (fun moment => stays moment.world) before now) post
      past world := by
  induction task generalizing past world with
  | done value => exact ⟨⟨h.1, begun⟩, h.2⟩
  | look next ih => exact ⟨⟨h.1, begun⟩, ih world h.2 (begun.concat (keeps _ _ h.1))⟩
  | change act next ih => exact ⟨⟨h.1, begun⟩, ih world h.2 begun⟩
  | emit event next ih => exact ⟨⟨h.1, begun⟩, ih h.2 (begun.concat (keeps _ _ h.1))⟩
  | rest wake held next ih =>
      exact ⟨⟨h.1, begun⟩, fun later hrely due => ih (h.2 later hrely due) begun⟩
  | panic reason => exact ⟨h, begun⟩

/-! ### Tasks that emit nothing -/

/-- A task that emits nothing, nor when it is abandoned. -/
def Silent : Task σ ε α → Prop
  | .done _ => True
  | .look next => ∀ world, (next world).Silent
  | .change _ next => ∀ world, (next world).Silent
  | .emit _ _ => False
  | .rest _ held next => held.events = [] ∧ next.Silent
  | .panic _ => True

theorem Silent.bind {task : Task σ ε α} {f : α → Task σ ε β} (h : task.Silent)
    (next : ∀ value, (f value).Silent) : (task.bind f).Silent := by
  induction task with
  | done value => exact next value
  | look after ih => exact fun world => ih world (h world)
  | change act after ih => exact fun world => ih world (h world)
  | emit event after ih => exact h
  | rest wake held after ih => exact ⟨h.1, ih h.2⟩
  | panic reason => trivial

theorem silent_sleep (span : Duration) : (sleep .none span : Task σ ε Unit).Silent := by
  unfold sleep
  split
  · trivial
  · exact fun _ => ⟨rfl, trivial⟩

/-- A task that emits nothing leaves moments without events. -/
theorem Ensures.silently {task : Task σ ε α} (h : task.Ensures rely always post past world)
    (silent : task.Silent) (begun : Since (·.event = none) before past) :
    task.Ensures rely (fun now world => always now world ∧ Since (·.event = none) before now) post past
      world := by
  induction task generalizing past world with
  | done value => exact ⟨⟨h.1, begun⟩, h.2⟩
  | look next ih => exact ⟨⟨h.1, begun⟩, ih world h.2 (silent world) (begun.concat rfl)⟩
  | change act next ih => exact ⟨⟨h.1, begun⟩, ih world h.2 (silent world) begun⟩
  | emit event next ih => exact silent.elim
  | rest wake held next ih =>
      exact ⟨⟨h.1, begun⟩, fun later hrely due => ih (h.2 later hrely due) silent.2 begun⟩
  | panic reason => exact ⟨h, begun⟩

/-! ### Events one by one -/

theorem ensures_emitAll_told {post : List (Moment σ ε) → Unit → World σ → Prop} (events : List ε)
    (steady : ∀ told, told <+: events → always (past ++ told.map fun event => ⟨world, some event⟩) world)
    (h : post (past ++ events.map fun event => ⟨world, some event⟩) () world) :
    (emitAll events).Ensures rely always post past world := by
  have now : always past world := by simpa using steady [] List.nil_prefix
  induction events generalizing past with
  | nil => exact ⟨now, by simpa using h⟩
  | cons event later ih =>
      refine ⟨now, ih (fun told begins => ?_) ?_ ?_⟩
      · simpa using steady (event :: told) ((List.prefix_cons_inj event).mpr begins)
      · simpa using h
      · simpa using steady [event] ((List.prefix_cons_inj event).mpr List.nil_prefix)

/-- What is given up is told in the world that this leaves. -/
theorem ensures_release_told {post : List (Moment σ ε) → Unit → World σ → Prop} {held : Cleanup σ ε}
    (now : always past world)
    (steady : ∀ told, told <+: held.events →
      always (past ++ told.map fun event => ⟨held.effect world, some event⟩) (held.effect world))
    (h : post (past ++ held.events.map fun event => ⟨held.effect world, some event⟩) ()
      (held.effect world)) :
    (release held).Ensures rely always post past world :=
  ⟨now, ensures_emitAll_told held.events steady h⟩

end Task

theorem Body.silent_collect (body : Body) : (body.collect .none : Task σ ε ChunkResult).Silent := by
  have reads : ∀ (chunks : List Chunk) (read : Octets),
      (collectChunks .none read chunks : Task σ ε ChunkResult).Silent := by
    intro chunks
    induction chunks with
    | nil => exact fun _ => trivial
    | cons chunk later ih =>
        intro read
        cases chunk with
        | data octets => exact ih _
        | fault error => trivial
        | pause span => exact (Task.silent_sleep span).bind fun _ => ih read
  cases body with
  | full octets => trivial
  | stream chunks => exact reads chunks []

namespace Context

theorem silent_resume (context : Context) {held : Cleanup σ ε}
    {next : Task σ ε (Except ContextEnd α)} (nothing : held.events = []) (h : next.Silent) :
    (context.resume held next).Silent := by
  intro world
  dsimp only
  split
  · rw [Task.release, nothing]
    exact fun _ => trivial
  · exact h

/-- A context does not make work tell of anything. -/
theorem silent_run (context : Context) {task : Task σ ε α} (h : task.Silent) :
    (context.run .none task).Silent := by
  have guarded : (context.guard task).Silent := by
    induction task with
    | done value => trivial
    | look next ih => exact fun world => ih world (h world)
    | change act next ih => exact fun world => ih world (h world)
    | emit event next ih => exact h
    | rest wake held next ih => exact ⟨h.1, context.silent_resume h.1 (ih h.2)⟩
    | panic reason => trivial
  exact context.silent_resume rfl guarded

end Context
end ResilientHttp

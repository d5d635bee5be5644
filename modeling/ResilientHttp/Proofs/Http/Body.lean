import Mathlib.Logic.Function.Iterate
import ResilientHttp.Proofs.Task.Timely

/-!
The two ways of reading a body. `collect` reads it up to its end or its first fault, `read` goes on after
faults and gives all items; both are told by the chunks of the body, whichever kind it is of.

* `course_collect`, `outcome_readChunks` — what comes of a body that is read alone.
* `collectChunks_past_fault` — nothing behind a fault has any part in that.
* `pieces_bounded`, `flatten_pieces` — the pieces in which a source is read.
* `collect_iterate_rewrap` — a body that was made a stream again and again is read like the first one.
* `reads_alike` — all of it.
-/

namespace ResilientHttp

variable {σ ε α : Type}

namespace Task

/-- Alone a rest for a time moves the clock and nothing else. -/
theorem course_rest (held : Cleanup σ ε) (next : Task σ ε α) (world : World σ) (length : Nat) :
    (Task.rest ⟨some (world.now + length), fun _ => false⟩ held next).course world =
      next.course { world with now := world.now + length } := by
  rw [course]
  split
  · -- A rest that is over at once has no length.
    rename_i due
    have noLater : world.now + length ≤ world.now + 0 := by simpa [Wake.isDue] using due
    rw [Nat.le_zero.mp (Nat.le_of_add_le_add_left noLater), Nat.add_zero]
  · rfl

theorem course_sleep (held : Cleanup σ ε) (span : Duration) (world : World σ) :
    (sleep held span).course world =
      ⟨[], { world with now := world.now + world.lasting span }, .value ()⟩ := by
  rw [sleep_eq]
  by_cases empty : span.isZero = true
  · rw [if_pos empty, world.lasting_of_isZero empty, course_done, Nat.add_zero]
  · rw [if_neg empty, course_look, course_rest, course_done]

end Task

namespace Body

/-! ### Items and chunks -/

theorem itemsOf_append (front back : List Chunk) : itemsOf (front ++ back) = itemsOf front ++ itemsOf back := by
  induction front with
  | nil => rfl
  | cons chunk later ih =>
      cases chunk with
      | data octets | fault error => exact congrArg (_ :: ·) ih
      | pause span => exact ih

/-- Chunks amount to their octets if there is no fault among them, and otherwise to the first one. -/
theorem contentOf_cases (chunks : List Chunk) :
    (∃ parts : List Octets, itemsOf chunks = parts.map .ok ∧ contentOf chunks = .ok parts.flatten) ∨
      ∃ (before : List Chunk) (error : IoError) (after : List Chunk) (parts : List Octets),
        chunks = before ++ .fault error :: after ∧
        itemsOf before = parts.map .ok ∧ contentOf chunks = .error error := by
  induction chunks with
  | nil => exact .inl ⟨[], rfl, rfl⟩
  | cons chunk later ih =>
      cases chunk with
      | data octets =>
          rcases ih with ⟨parts, items, content⟩ | ⟨before, error, after, parts, rfl, items, content⟩
          · exact .inl ⟨octets :: parts, congrArg (_ :: ·) items, by rw [contentOf, content]; rfl⟩
          · exact .inr ⟨.data octets :: before, error, after, octets :: parts, rfl,
              congrArg (_ :: ·) items, by rw [contentOf, content]; rfl⟩
      | fault error => exact .inr ⟨[], error, later, [], rfl, rfl, rfl⟩
      | pause span =>
          rcases ih with ⟨parts, items, content⟩ | ⟨before, error, after, parts, rfl, items, content⟩
          · exact .inl ⟨parts, items, content⟩
          · exact .inr ⟨.pause span :: before, error, after, parts, rfl, items, content⟩

/-- A body in memory amounts to the one chunk that it is. -/
theorem content_eq_contentOf (body : Body) : body.content = contentOf body.chunks := by
  cases body with
  | full octets => simp [content, chunks, contentOf, Except.map]
  | stream chunks => rfl

/-! ### Reading -/

theorem course_collectChunks (held : Cleanup σ ε) (chunks : List Chunk) (read : Octets) (world : World σ) :
    (collectChunks held read chunks).course world =
      ⟨[], { world with now := world.now + readingTimeOf world.lasting chunks },
        .value ((contentOf chunks).map (read ++ ·))⟩ := by
  induction chunks generalizing read world with
  | nil => simp [collectChunks, contentOf, readingTimeOf, Except.map]
  | cons chunk later ih =>
      cases chunk with
      | data octets =>
          rw [collectChunks, ih, contentOf, readingTimeOf]
          cases contentOf later <;> simp [Except.map]
      | fault error => simp [collectChunks, contentOf, readingTimeOf, Except.map]
      | pause span =>
          change ((Task.sleep held span).bind fun _ => collectChunks held read later).course world = _
          rw [Task.course_bind, Task.course_sleep, Course.andThen, contentOf, readingTimeOf, ← Nat.add_assoc]
          dsimp only
          rw [ih]
          rfl

/-- A body is read to its content, which takes the time of the pauses before its first fault. -/
theorem course_collect (held : Cleanup σ ε) (body : Body) (world : World σ) :
    (body.collect held).course world =
      ⟨[], { world with now := world.now + body.readingTime world.lasting }, .value body.content⟩ := by
  cases body with
  | full octets => rfl
  | stream chunks =>
      rw [collect, course_collectChunks, content, readingTime]
      cases contentOf chunks <;> rfl

/-- What stands behind a fault has no part in reading. -/
theorem collectChunks_past_fault (held : Cleanup σ ε) (error : IoError) (before after others : List Chunk)
    (read : Octets) :
    collectChunks held read (before ++ .fault error :: after) =
      collectChunks held read (before ++ .fault error :: others) := by
  induction before generalizing read with
  | nil => rfl
  | cons chunk later ih =>
      cases chunk with
      | data octets => exact ih (read ++ octets)
      | fault error => rfl
      | pause span =>
          exact congrArg (Task.sleep held span).bind (funext fun _ => ih read)

theorem outcome_readChunks (chunks : List Chunk) (world : World σ) :
    ((readChunks chunks : Task σ ε _).course world).outcome = .value (itemsOf chunks) := by
  have one (item : ChunkResult) (later : List Chunk) (world : World σ)
      (h : ((readChunks later : Task σ ε _).course world).outcome = .value (itemsOf later)) :
      (((item :: ·) <$> readChunks later : Task σ ε _).course world).outcome =
        .value (item :: itemsOf later) := by
    change (((readChunks later).bind fun items => .done (item :: items)).course world).outcome = _
    rw [Task.course_bind, Course.andThen, h]
    rfl
  induction chunks generalizing world with
  | nil => rfl
  | cons chunk later ih =>
      cases chunk with
      | data octets | fault error => exact one _ later world (ih world)
      | pause span =>
          change (((Task.sleep .none span).bind fun _ => readChunks later).course world).outcome = _
          rw [Task.course_bind, Task.course_sleep]
          exact ih _

/-! ### Sources -/

/-- No octet of a source is lost, and none comes twice. -/
theorem flatten_pieces (octets : Octets) : (pieces octets).flatten = octets := by
  induction octets using pieces.induct with
  | case1 => simp [pieces]
  | case2 octet later ih =>
      rw [pieces, List.flatten_cons, ih]
      exact List.take_append_drop readSize (octet :: later)

/-- A piece has an octet at least, and no more than are taken at once. -/
theorem pieces_bounded (octets : Octets) :
    ∀ piece ∈ pieces octets, piece ≠ [] ∧ piece.length ≤ readSize := by
  induction octets using pieces.induct with
  | case1 => simp [pieces]
  | case2 octet later ih =>
      rw [pieces, List.forall_mem_cons]
      refine ⟨⟨?_, List.length_take_le _ _⟩, ih⟩
      rw [readSize, List.take_succ_cons]
      exact List.cons_ne_nil _ _

/-! ### Streams of streams -/

theorem chunks_iterate_rewrap (body : Body) (n : Nat) : (rewrap^[n] body).chunks = body.chunks := by
  induction n with
  | zero => rfl
  | succ n ih =>
      rw [Function.iterate_succ_apply']
      exact ih

/-- A body is read like the stream of its chunks. -/
theorem collect_eq_collectChunks (held : Cleanup σ ε) (body : Body) :
    body.collect held = collectChunks held [] body.chunks := by
  cases body <;> rfl

theorem collect_iterate_rewrap (held : Cleanup σ ε) (body : Body) (n : Nat) :
    (rewrap^[n] body).collect held = body.collect held := by
  rw [collect_eq_collectChunks, chunks_iterate_rewrap, ← collect_eq_collectChunks]

theorem isReplayable_iterate_rewrap (body : Body) (n : Nat) :
    (rewrap^[n] body).isReplayable = (n = 0 && body.isReplayable) := by
  cases n with
  | zero => simp
  | succ n =>
      rw [Function.iterate_succ_apply']
      rfl

theorem tryClone_eq_some_iff {body copy : Body} :
    body.tryClone = some copy ↔ ∃ octets, body = .full octets ∧ copy = .full octets := by
  cases body with
  | full octets => simp [tryClone, eq_comm]
  | stream chunks => simp [tryClone]

/-- A body of any kind, made a stream of its own chunks any number of times. Whoever goes on after faults gets
all its items. Who collects it gets the octets of all items, one behind the other, if none is a fault; otherwise
the first fault, and then the chunks behind it could be any others. To make a stream of it again and again
changes neither its chunks nor how it is read in either way, but only that it cannot be sent twice. One that is
in memory is a single item even if it is empty; one that reads from a source has items of 4096 octets at most,
none of them empty, which together are the source. A second body can be had if and only if the body is in
memory, and it is the same. -/
theorem reads_alike (body : Body) (n : Nat) (held : Cleanup σ ε) (world : World σ) :
    let again := rewrap^[n] body
    ((again.read : Task σ ε _).course world).outcome = .value body.items ∧
    ((∃ parts : List Octets, body.items = parts.map .ok ∧
        ((again.collect held).course world).outcome = .value (.ok parts.flatten)) ∨
      ∃ (before : List Chunk) (error : IoError) (after : List Chunk) (parts : List Octets),
        body.chunks = before ++ .fault error :: after ∧ itemsOf before = parts.map .ok ∧
        body.items = parts.map .ok ++ .error error :: itemsOf after ∧
        ((again.collect held).course world).outcome = .value (.error error) ∧
        ∀ others, (Body.stream (before ++ .fault error :: others)).collect held = again.collect held) ∧
    (again.chunks = body.chunks ∧ again.collect held = body.collect held ∧
      (again.read : Task σ ε _) = body.read ∧ again.isReplayable = (n = 0 && body.isReplayable)) ∧
    (∀ octets, (Body.full octets).chunks = [.data octets] ∧ (Body.full octets).items = [.ok octets]) ∧
    (∀ octets, ∃ parts : List Octets, (ofReader octets).chunks = parts.map .data ∧ parts.flatten = octets ∧
      ∀ part ∈ parts, part ≠ [] ∧ part.length ≤ 4096) ∧
    ((body.tryClone.isSome ↔ ∃ octets, body = .full octets) ∧
      ∀ copy, body.tryClone = some copy → copy = body) := by
  have same := collect_iterate_rewrap held body n
  have chunks := chunks_iterate_rewrap body n
  have collected : (((rewrap^[n] body).collect held).course world).outcome = .value (contentOf body.chunks) := by
    rw [same, course_collect, content_eq_contentOf]
  refine ⟨?_, ?_, ⟨chunks, same, congrArg readChunks chunks, isReplayable_iterate_rewrap body n⟩,
    fun octets => ⟨rfl, rfl⟩, fun octets => ⟨pieces octets, rfl, flatten_pieces octets,
    pieces_bounded octets⟩, ?_, ?_⟩
  · exact (outcome_readChunks _ world).trans (congrArg (Outcome.value ∘ itemsOf) chunks)
  · rcases contentOf_cases body.chunks with
      ⟨parts, items, content⟩ | ⟨before, error, after, parts, split, items, content⟩
    · exact .inl ⟨parts, items, collected.trans (congrArg Outcome.value content)⟩
    · refine .inr ⟨before, error, after, parts, split, items, ?_,
        collected.trans (congrArg Outcome.value content), fun others => ?_⟩
      · rw [Body.items, split, itemsOf_append, items]
        rfl
      · rw [same, collect_eq_collectChunks held body, split]
        exact collectChunks_past_fault held error before others after []
  · cases body <;> simp [tryClone]
  · intro copy cloned
    obtain ⟨octets, rfl, rfl⟩ := tryClone_eq_some_iff.mp cloned
    rfl

/-- A stream with an empty chunk, a pause and a fault, wrapped twice: what stands in front of the fault is
discarded, and a second fault behind it is not seen. -/
theorem reads_alike_cut :
    let error : IoError := ⟨.brokenPipe, "cut"⟩
    let body : Body := .stream [.data [7, 8], .data [], .pause (.ofMillis 5), .fault error, .data [9],
      .fault ⟨.timedOut, "late"⟩]
    let world : World Unit := ⟨0, none, .empty, .empty, ()⟩
    (((rewrap^[2] body).collect .none : Task Unit Unit _).course world).outcome = .value (.error error) ∧
      (((rewrap^[2] body).read : Task Unit Unit _).course world).outcome =
        .value [.ok [7, 8], .ok [], .error error, .ok [9], .error ⟨.timedOut, "late"⟩] ∧
      (rewrap^[2] body).isReplayable = false ∧ (Body.full []).items = [.ok []] := by
  intro error body world
  obtain ⟨items, -, ⟨-, same, -, replayable⟩, full, -⟩ :=
    reads_alike body 2 (.none : Cleanup Unit Unit) world
  refine ⟨?_, items, replayable, (full []).2⟩
  rw [same, course_collect]
  rfl

end Body
end ResilientHttp

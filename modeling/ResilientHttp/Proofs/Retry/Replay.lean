import ResilientHttp.Proofs.Retry.Call
import ResilientHttp.Proofs.Site

/-!
The body of a call. A call reads the body of its request once, to the end, before anything is sent,
and then sends the same octets again and again. `Body.octets` and `Body.fault?` say what a body holds
in terms of its chunks alone, and `replay_of_run` is the law of every run.
-/

namespace ResilientHttp

variable {σ ε : Type}

/-! ### What a body holds -/

/-- The octets of a chunk. -/
def Chunk.octets : Chunk → Octets
  | .data octets => octets
  | _ => []

/-- The fault that a chunk is, if it is one. -/
def Chunk.fault? : Chunk → Option IoError
  | .fault error => some error
  | _ => none

namespace Body

/-- The octets of all chunks of a body, one behind the other. -/
def octets (body : Body) : Octets := body.chunks.flatMap Chunk.octets

/-- The first fault among the chunks of a body. -/
def fault? (body : Body) : Option IoError := body.chunks.findSome? Chunk.fault?

theorem contentOf_eq (chunks : List Chunk) :
    contentOf chunks =
      match chunks.findSome? Chunk.fault? with
      | some error => .error error
      | none => .ok (chunks.flatMap Chunk.octets) := by
  induction chunks with
  | nil => rfl
  | cons chunk later ih =>
      cases chunk with
      | data octets =>
          rw [contentOf, ih, List.findSome?_cons, List.flatMap_cons]
          cases h : later.findSome? Chunk.fault? <;> rfl
      | fault error => rfl
      | pause span => exact ih

/-- A body amounts to its first fault, or to all its octets if it has none. -/
theorem content_eq (body : Body) :
    body.content =
      match body.fault? with
      | some error => .error error
      | none => .ok body.octets := by
  cases body with
  | full held => exact congrArg Except.ok (List.append_nil held).symm
  | stream chunks => exact contentOf_eq chunks

end Body

theorem Request.replayed_of_some {request : Request} {body : Body} (h : request.body = some body) :
    request.replayed = body.content.map some := by
  rw [replayed, h]

/-- A body that a request sends is all its octets. -/
theorem Request.octets_of_replayed {request : Request} {octets : Option Octets}
    (h : request.replayed = .ok octets) : octets = request.body.map Body.octets := by
  cases hbody : request.body with
  | none =>
      rw [replayed, hbody] at h
      cases h
      rfl
  | some body =>
      rw [replayed_of_some hbody, Body.content_eq] at h
      cases hfault : body.fault? with
      | some error =>
          rw [hfault] at h
          cases h
      | none =>
          rw [hfault] at h
          cases h
          rfl

/-- A body with a fault cannot be sent. -/
theorem Request.replayed_of_fault {request : Request} {body : Body} {fault : IoError}
    (hbody : request.body = some body) (hfault : body.fault? = some fault) :
    request.replayed = .error fault := by
  rw [replayed_of_some hbody, Body.content_eq, hfault]
  rfl

namespace RetryPolicy

variable {policy : RetryPolicy} {sink : Sink} {base : Executor σ} {request : Request}

/-! ### What is sent -/

/-- Whatever is on the schedule is the request itself, but for its target, and its body is one that
holds all octets of the request's own. -/
theorem eq_rebind_of_mem_schedule {sent : Request} (h : sent ∈ policy.schedule request) :
    ∃ url, sent = request.rebind url (request.body.map Body.octets) := by
  unfold schedule at h
  cases hreplayed : request.replayed with
  | error fault =>
      rw [hreplayed] at h
      cases h
  | ok octets =>
      rw [hreplayed] at h
      obtain ⟨url, -, rfl⟩ := List.mem_map.mp h
      exact ⟨url, by rw [Request.octets_of_replayed hreplayed]⟩

/-- Before its body has been read nothing of a call is handed over. -/
theorem ensures_reading (past : List (Moment (Noted σ) ε)) {body : Body} {world : World (Noted σ)}
    (fresh : world.journal = .empty) :
    (request.context.run .none (body.collect .none)).Ensures World.Alongside
      (fun _ after => after.journal = .empty)
      (fun _ result after => after.journal = .empty ∧ ∀ read, result = .ok read → read = body.content)
      past world := by
  refine Context.ensures_run_quiet (Body.keeps_collect (Cleanup.keeps_none World.sameJournal_refl) body)
    (fun _ _ same => same.trans fresh) (fun _ _ _ same _ => ⟨same.trans fresh, ?_⟩)
    fun _ _ _ same content => ⟨same.trans fresh, ?_⟩
  · rintro _ ⟨⟩
  · rintro _ ⟨⟩
    exact content

/-- A run in which anything was handed over has read the body before, to the end; it has gone on with
what was read and without the body. -/
theorem exists_reading {body : Body} {world after : World (Noted σ)}
    {moments : List (Moment (Noted σ) Event)}
    {left : Task (Noted σ) Event (ExchangeResult (Noted σ))} (hbody : request.body = some body)
    (fresh : world.journal = .empty)
    (run : Task.Run World.Alongside (policy.retrying sink base.recording request) world moments left
      after)
    (handed : after.journal.requests ≠ []) :
    ∃ early late middle, moments = early ++ late ∧
      Task.Run World.Alongside (request.context.run .none (body.collect .none)) world early
        (.done (.ok (.ok body.octets))) middle ∧
      middle.journal = .empty ∧
      Task.Run World.Alongside
        (policy.attempts sink base.recording (request.withBody none) (some body.octets)
          (policy.maxAttempts.toNat + 1) 0 0 none) middle late left after := by
  have notEmpty : after.journal ≠ .empty := fun empty => handed (by rw [empty]; rfl)
  rw [retrying_of_some hbody] at run
  -- Nothing was handed over while the body was read, nor after that has failed.
  rcases Task.Run.of_bind run with ⟨rest, -, reading⟩ | ⟨early, late, result, middle, rfl, reading, run⟩
  · exact absurd ((ensures_reading [] fresh).of_run reading).now notEmpty
  · obtain ⟨-, quiet, content⟩ := (ensures_reading [] fresh).of_run reading
    cases result with
    | error ending =>
        cases run
        exact absurd quiet notEmpty
    | ok read =>
        cases read with
        | error fault =>
            cases run
            exact absurd quiet notEmpty
        | ok octets =>
            have all := content _ rfl
            rw [Body.content_eq] at all
            cases hfault : body.fault? with
            | some error =>
                rw [hfault] at all
                cases all
            | none =>
                rw [hfault] at all
                cases all
                exact ⟨early, late, middle, rfl, reading, quiet, run⟩

/-! ### Bodies that cannot be read -/

/-- A call whose body has a fault hands nothing over; if it comes to an end, then with the fault or
because its context has ended. -/
theorem result_of_fault {body : Body} {fault : IoError} {world after : World (Noted σ)}
    {moments : List (Moment (Noted σ) Event)}
    {left : Task (Noted σ) Event (ExchangeResult (Noted σ))} (hbody : request.body = some body)
    (hfault : body.fault? = some fault) (fresh : world.journal = .empty)
    (run : Task.Run World.Alongside (policy.retrying sink base.recording request) world moments left
      after) :
    after.journal.requests = [] ∧
      ∀ result, left = .done result → result = .error (.requestBody fault) ∨
        ∃ ending, request.context.SeenEnded moments ending ∧ result = .error ending.error := by
  have unreadable := Request.replayed_of_fault hbody hfault
  have ensured := conforms_of_run fresh run
  have nothing : after.journal.requests = [] := by
    have begins := ensured.now.requests
    rw [schedule, unreadable] at begins
    exact List.prefix_nil.mp begins
  refine ⟨nothing, ?_⟩
  rintro result rfl
  cases ensured.2 with
  | unreadable unread =>
      rw [unreadable] at unread
      cases unread
      exact .inl rfl
  | ended seen => exact .inr ⟨_, seen, rfl⟩
  | terminal outcomes _ _ paired =>
      rw [outcomes, nothing] at paired
      simp at paired
  | exhausted readable =>
      rw [unreadable] at readable
      cases readable

/-- Alone and under a context that lives, a call whose body has a fault does end with it. -/
theorem outcome_of_fault {body : Body} {fault : IoError} {world : World σ}
    (hbody : request.body = some body) (hfault : body.fault? = some fault)
    (live : ∀ moment ∈ (policy.retrying sink base request).moments world,
      request.context.endedIn? moment.world = none) :
    ((policy.retrying sink base request).course world).outcome =
      .value (.error (.requestBody fault)) := by
  rw [retrying_of_some hbody] at live ⊢
  have reads : (body.collect .none : Task σ Event ChunkResult).Keeps (fun _ _ => True)
      fun result => result = body.content :=
    Body.keeps_collect (Cleanup.keeps_none fun _ => trivial) body
  obtain ⟨read, content, outcome⟩ := Context.exists_run_of_live reads
    (body.returns_collect .none world)
    fun moment mem => live moment ((Task.isPrefix_moments_bind _ _ world).subset mem)
  rw [content, Body.content_eq, hfault] at outcome
  simp [Task.proceed, Task.course_bind, Course.andThen, outcome]

/-- The law of the body in every run of a call. Whatever the executor is handed is the request itself
but for its target; its body can be sent again and holds all octets of the request's body, and there
is none where the request has none. Before anything is handed over the body has been read once, to
its end. If it has a fault, nothing is handed over and the call ends with the first one, unless its
context ends before. -/
theorem replay_of_run {world after : World (Noted σ)} {moments : List (Moment (Noted σ) Event)}
    {left : Task (Noted σ) Event (ExchangeResult (Noted σ))} (fresh : world.journal = .empty)
    (run : Task.Run World.Alongside (policy.retrying sink base.recording request) world moments left
      after) :
    (∀ sent ∈ after.journal.requests, sent.method = request.method ∧
      sent.headers = request.headers ∧ sent.context = request.context ∧
      sent.body = request.body.map fun body => .full body.octets) ∧
    (∀ body, request.body = some body → after.journal.requests ≠ [] →
      ∃ early late middle, moments = early ++ late ∧
        Task.Run World.Alongside (request.context.run .none (body.collect .none)) world early
          (.done (.ok (.ok body.octets))) middle ∧
        middle.journal = .empty ∧
        Task.Run World.Alongside
          (policy.attempts sink base.recording (request.withBody none) (some body.octets)
            (policy.maxAttempts.toNat + 1) 0 0 none) middle late left after) ∧
    ∀ body fault, request.body = some body → body.fault? = some fault →
      after.journal.requests = [] ∧
      (∀ result, left = .done result → result = .error (.requestBody fault) ∨
        ∃ ending, request.context.SeenEnded moments ending ∧ result = .error ending.error) ∧
      ∀ alone : World σ,
        (∀ moment ∈ (policy.retrying sink base request).moments alone,
          request.context.endedIn? moment.world = none) →
        ((policy.retrying sink base request).course alone).outcome =
          .value (.error (.requestBody fault)) := by
  refine ⟨?_, ?_, ?_⟩
  · intro sent mem
    have onSchedule := (conforms_of_run fresh run).now.requests.subset mem
    obtain ⟨url, rfl⟩ := eq_rebind_of_mem_schedule onSchedule
    exact ⟨rfl, rfl, rfl, Option.map_map ..⟩
  · intro body hbody handed
    exact exists_reading hbody fresh run handed
  · intro body fault hbody hfault
    obtain ⟨nothing, result⟩ := result_of_fault hbody hfault fresh run
    exact ⟨nothing, result, fun alone => outcome_of_fault hbody hfault⟩

/-- A body of three chunks that is sent twice. -/
theorem replay_recovering :
    let chunks : List Chunk := [.data [1], .pause (.ofMillis 1), .data [], .data [2, 3]]
    let request := Request.toSite (some (.stream chunks)) ⟨0, none⟩
    let call := default.retrying .tracing Site.recoveringExecutor.recording request
    let course := call.course (Site.recovering.world.noted .empty)
    ∀ sent ∈ course.world.journal.requests, sent.method = request.method ∧
      sent.headers = request.headers ∧ sent.context = request.context ∧
      sent.body = request.body.map fun body => .full body.octets :=
  (replay_of_run rfl (Task.run_moments World.alongside_allowsWaiting rfl)).1

end RetryPolicy
end ResilientHttp

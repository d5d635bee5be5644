import ResilientHttp.Client.Basic
import ResilientHttp.Proofs.Retry.Deadline
import ResilientHttp.Proofs.Site

/-!
A deadline is truncation. `Context.DeadlineTruncates` compares a call under a context that never ends
with the same call under a deadline: whatever falls before the deadline is the same, and at the
deadline the call stops and gives up what it holds. `deadline_truncates` says so of retrying calls
and of all calls of a client, over any stack of policies on detached executors.
-/

namespace ResilientHttp

variable {σ τ ε α : Type}

/-- A family of calls, one for each context: the call under a deadline is the call without one,
truncated at the deadline, if nobody cancels the context of either. -/
def Context.DeadlineTruncates (call : Context → Task σ ε (Except ClientError α)) : Prop :=
  ∀ (world : World σ) (first second : Token) (limit : Instant), world.now < limit →
    (∀ passed ∈ (call ⟨first, none⟩).worlds world, passed.Calm first second) →
    Task.TruncatedAt limit (.error .deadlineExceeded) (call ⟨first, none⟩) (call ⟨second, some limit⟩)
      world

theorem Context.deadlineTruncates {call : Context → Task σ ε (Except ClientError α)}
    (good : Except ClientError α → Prop)
    (keeps : ∀ context, (call context).Keeps World.SameTime good)
    (agrees : ∀ first second limit, Task.Agrees (World.Calm first second) limit
      (call ⟨first, none⟩) (call ⟨second, some limit⟩))
    (yields : ∀ first second limit, (call ⟨second, some limit⟩).Yields (World.Calm first second)
      limit (.error .deadlineExceeded)) :
    DeadlineTruncates call :=
  fun _ _ _ _ before steady =>
    Task.truncatedAt_of_agrees (agrees ..) (keeps _) (yields ..) (fun _ _ calm => calm.timeless ..)
      before steady

/-- Reading a response leaves the clock alone if giving it up does. -/
theorem Response.keeps_bytes {response : Response σ ε} {kept : World σ → World σ → Prop}
    (keeps : response.held.Keeps kept) : response.bytes.Keeps kept fun _ => True :=
  (Body.keeps_collect keeps response.body).bind fun _ _ =>
    (Task.keeps_release keeps).bind fun _ _ => trivial

namespace Client

variable {execute : Executor σ} {request : Request}

/-- What a client does with a response: it reads it, under the context of the request. -/
def drain (request : Request) (response : Response σ Event) :
    Task σ Event (Except ClientError Reply) :=
  (request.context.run response.held response.bytes).proceed fun
    | .error error => .done (.error error)
    | .ok octets =>
        .emit (.trace (drainTrace ⟨response.status, octets⟩)) (.done (.ok ⟨response.status, octets⟩))

theorem dispatch_eq :
    dispatch execute request =
      (request.context.run .none (execute request)).proceed fun
        | .error error => .done (.error error)
        | .ok response => drain request response := by
  refine congrArg (Task.bind _) (funext fun result => ?_)
  rcases result with ending | error | response
  · rfl
  · rfl
  · refine congrArg (Task.bind _) (funext fun result => ?_)
    rcases result with ending | error | octets <;> rfl

/-- Reading a response moves the world as giving it up does. -/
theorem keeps_drain {kept : World σ → World σ → Prop} {response : Response σ Event}
    (held : response.held.Keeps kept) : (drain request response).Keeps kept fun _ => True := by
  refine Task.keeps_proceed (request.context.keeps_run held (Response.keeps_bytes held))
    (fun _ => trivial) ?_
  intro read _
  cases read <;> trivial

/-- A dispatched request moves the world as its exchange does. -/
theorem keeps_dispatch {kept : World σ → World σ → Prop} (same : ∀ world, kept world world)
    (keeps : (execute request).Keeps kept (ExchangeResult.Keeps kept)) :
    (dispatch execute request).Keeps kept fun _ => True := by
  rw [dispatch_eq]
  refine Task.keeps_proceed (request.context.keeps_run (Cleanup.keeps_none same) keeps)
    (fun _ => trivial) ?_
  intro outcome good
  cases outcome with
  | error error => trivial
  | ok response => exact keeps_drain (good response rfl)

theorem agrees_dispatch {first second : Token} {limit : Instant}
    (mirrors : execute.Mirrors first second limit) (request : Request) :
    Task.Agrees (World.Calm first second) limit
      (dispatch execute (request.withContext ⟨first, none⟩))
      (dispatch execute (request.withContext ⟨second, some limit⟩)) := by
  rw [dispatch_eq, dispatch_eq]
  refine .proceed (Context.agrees_run (mirrors request)) ?_
  intro outcome
  cases outcome with
  | error error => exact .done
  | ok response =>
      refine .proceed (Context.agrees_run (.refl _)) ?_
      intro read
      cases read with
      | error error => exact .done
      | ok octets => exact .refl _

theorem yields_dispatch {first second : Token} {limit : Instant} (execute : Executor σ)
    (request : Request) :
    (dispatch execute (request.withContext ⟨second, some limit⟩)).Yields (World.Calm first second)
      limit (.error .deadlineExceeded) := by
  rw [dispatch_eq]
  refine .proceed (Context.yields_run .none _) ?_
  intro outcome
  cases outcome with
  | error error => trivial
  | ok response =>
      refine .proceed (Context.yields_run response.held _) ?_
      intro read
      cases read <;> trivial

/-! ### Calls -/

section Calls

variable {context : Context} {make : HeaderMap → Except ClientError Request}

theorem call_eq (client : Client σ) (make : HeaderMap → Except ClientError Request) :
    client.call make = .look fun world =>
      match make world.defaults with
      | .error error => .done (.error error)
      | .ok request => dispatch client.execute request :=
  rfl

theorem deadlineTruncates_call (timeless : execute.Timeless)
    (mirrors : ∀ first second limit, execute.Mirrors first second limit)
    (make : HeaderMap → Except ClientError Request) :
    Context.DeadlineTruncates fun context =>
      (Client.mk context execute).call fun headers =>
        (make headers).map (Request.withContext · context) := by
  simp only [call_eq]
  refine Context.deadlineTruncates (fun _ => True) (fun context world => ?_)
    (fun first second limit => .look fun world _ _ => ?_) fun first second limit world => ?_
  · dsimp only
    cases make world.defaults with
    | error error => trivial
    | ok request => exact keeps_dispatch (fun _ => rfl) (timeless _)
  · cases make world.defaults with
    | error error => exact .done
    | ok request => exact agrees_dispatch (mirrors first second limit) request
  · dsimp only
    cases make world.defaults with
    | error error => trivial
    | ok request => exact yields_dispatch execute request

/-- All that the request of a call takes from the context is the context. -/
theorem request_eq (context other : Context) (headers : HeaderMap) (method : Method)
    (target : String) (payload : Payload) :
    Client.request context headers method target payload =
      (Client.request other headers method target payload).map
        (Request.withContext · context) := by
  unfold Client.request
  cases payload.encode with
  | error error => rfl
  | ok body => cases Url.parse target <;> rfl

theorem formRequest_eq (context other : Context) (headers : HeaderMap) (target : String)
    (form : Form) :
    formRequest context headers target form =
      (formRequest other headers target form).map (Request.withContext · context) := by
  unfold formRequest
  rw [request_eq context other]
  cases Client.request other headers .post target (.text form.encode) <;> rfl

theorem holds_drain (request : Request) (response : Response σ Event) :
    (drain request response).Holds response.held := by
  refine (request.context.holds_run response.holds_bytes).bind ?_
  intro result
  rcases result with ending | error | octets <;> trivial

/-- A call that has got its response before an instant and is not over then holds the response. -/
theorem held_of_interrupted {world after : World σ} {limit : Instant} {held : Cleanup σ Event}
    {response : Response σ Event} (timeless : execute.Timeless) (before : world.now < limit)
    (made : make world.defaults = .ok request)
    (outcome : ((request.context.run .none (execute request)).course world).outcome =
      .value (.ok (.ok response)))
    (early : ((request.context.run .none (execute request)).course world).finish < limit)
    (interrupted : ((Client.mk context execute).call make).interrupted? limit world =
      some (held, after)) :
    held = response.held := by
  have keeps := request.context.keeps_run Cleanup.timeless_none (timeless request)
  have finished := (keeps.interrupted?_eq_none_iff before).mpr ⟨by rw [outcome]; nofun, early⟩
  -- The exchange is not what is interrupted, so the call is while it drains the response.
  rw [call_eq, Task.interrupted?, made] at interrupted
  dsimp only at interrupted
  rw [dispatch_eq, Task.proceed, Task.interrupted?_bind finished outcome] at interrupted
  exact (holds_drain request response).eq_of_interrupted interrupted

end Calls
end Client

/-- A deadline is truncation, for a retrying call and for every call of a client, whatever policies
stand on whatever detached executors: a call that is over before its deadline is the call without
one, and any other call stops at the deadline, with the events of the call without one up to then. A
call that has its response by then still holds it, and gives it up at the deadline. -/
theorem deadline_truncates {run : τ → Executor σ} (detached : ∀ sender, (run sender).Detached)
    (site : τ → String) (stack : Transport τ) :
    let execute := stack.execute fun sender => (run sender).announced (site sender)
    (∀ (policy : RetryPolicy) (sink : Sink) (request : Request),
      Context.DeadlineTruncates fun context =>
        policy.retrying sink execute (request.withContext context)) ∧
    (∀ method target payload, Context.DeadlineTruncates fun context =>
      (Client.mk context execute).send method target payload) ∧
    (∀ target form, Context.DeadlineTruncates fun context =>
      (Client.mk context execute).postForm target form) ∧
    ∀ (context : Context) (make : HeaderMap → Except ClientError Request) (request : Request)
      (world after : World σ) (limit : Instant) (response : Response σ Event)
      (held : Cleanup σ Event),
      world.now < limit → make world.defaults = .ok request →
      ((request.context.run .none (execute request)).course world).outcome =
        .value (.ok (.ok response)) →
      ((request.context.run .none (execute request)).course world).finish < limit →
      ((Client.mk context execute).call make).interrupted? limit world = some (held, after) →
      held = response.held := by
  intro execute
  have timeless : execute.Timeless :=
    Transport.timeless_execute (fun sender => ((detached sender).announced _).timeless) stack
  have mirrors : ∀ first second limit, execute.Mirrors first second limit :=
    fun first second limit =>
      Transport.mirrors_execute (fun sender => ((detached sender).announced _).mirrors _ _ _) stack
  refine ⟨?_, ?_, ?_, ?_⟩
  · intro policy sink request
    exact Context.deadlineTruncates _ (fun context => policy.timeless_retrying sink timeless _)
      (fun first second limit => policy.mirrors_retrying sink (mirrors first second limit) request)
      fun _ _ _ => policy.yields_retrying sink execute request
  · intro method target payload
    have made := Client.deadlineTruncates_call timeless mirrors fun headers =>
      Client.request ⟨0, none⟩ headers method target payload
    simpa only [Client.send, ← Client.request_eq] using made
  · intro target form
    have made := Client.deadlineTruncates_call timeless mirrors fun headers =>
      Client.formRequest ⟨0, none⟩ headers target form
    simpa only [Client.postForm, ← Client.formRequest_eq] using made
  · intro context make request world after limit response held before made outcome early interrupted
    exact Client.held_of_interrupted timeless before made outcome early interrupted

/-- A deadline in the wait for the second attempt. -/
theorem truncatedAt_recovering :
    let call := fun context => RetryPolicy.default.retrying .tracing
      (Site.recoveringExecutor.announced "site") (.toSite none context)
    Task.TruncatedAt 100000000 (.error .deadlineExceeded) (call ⟨0, none⟩)
      (call ⟨1, some 100000000⟩) Site.recoveringWorld := by
  have detached : Site.recoveringExecutor.Detached :=
    Script.detached_executor "site" (Site.script "site")
  have law := deadline_truncates (fun _ : Unit => detached) (fun _ => "site") (.base ())
  exact law.1 .default .tracing (.toSite none ⟨0, none⟩) Site.recoveringWorld 0 1 100000000
    (by decide) (by decide)

end ResilientHttp

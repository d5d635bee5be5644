import ResilientHttp.Client.Basic
import ResilientHttp.Proofs.Client.Deadline
import ResilientHttp.Proofs.Retry.Terms

/-!
Calls of a client on terms. A client hands over a request, reads the response that it is owed, and is
idle again however that ends; so every call keeps the terms of the exchange that it makes
(`Client.Call.abides`).
-/

namespace ResilientHttp.Client

variable {σ : Type} {terms : Terms σ Event} {owed : Response σ Event → World σ → Prop} {world : World σ}

/-- The calls of a client. -/
inductive Call (client : Client σ) : Task σ Event (Except ClientError Reply) → Prop where
  | get {target : String} : Call client (client.get target)
  | post {target : String} {payload : Payload} : Call client (client.post target payload)
  | put {target : String} {payload : Payload} : Call client (client.put target payload)
  | delete {target : String} : Call client (client.delete target)
  | send {method : Method} {target : String} {payload : Payload} :
      Call client (client.send method target payload)
  | postForm {target : String} {form : Form} : Call client (client.postForm target form)

/-- A request has the method, the header fields and the context that it was made of. -/
theorem exists_of_request {context : Context} {headers : HeaderMap} {method : Method}
    {target : String} {payload : Payload} {made : Request}
    (h : request context headers method target payload = .ok made) :
    ∃ url body, made = { method, url, headers, body, context } := by
  unfold request at h
  cases hbody : payload.encode with
  | error error =>
      rw [hbody] at h
      cases h
  | ok body =>
      rw [hbody] at h
      cases hurl : Url.parse target with
      | error cause =>
          rw [hurl] at h
          cases h
      | ok url =>
          rw [hurl] at h
          cases h
          exact ⟨url, body, rfl⟩

/-- The request of a form is that of its text, with the type of forms. -/
theorem exists_of_formRequest {context : Context} {headers : HeaderMap} {target : String}
    {form : Form} {made : Request} (h : formRequest context headers target form = .ok made) :
    ∃ plain, request context headers .post target (.text form.encode) = .ok plain ∧
      made = { plain with headers := plain.headers.insert contentType formType } := by
  unfold formRequest at h
  cases hplain : request context headers .post target (.text form.encode) with
  | error error =>
      rw [hplain] at h
      cases h
  | ok plain =>
      rw [hplain] at h
      cases h
      exact ⟨plain, rfl, rfl⟩

theorem context_of_request {context : Context} {headers : HeaderMap} {method : Method}
    {target : String} {payload : Payload} {made : Request}
    (h : request context headers method target payload = .ok made) : made.context = context := by
  obtain ⟨url, body, rfl⟩ := exists_of_request h
  rfl

/-- A call makes a request that is bound to the context of the client. -/
theorem Call.exists_make {client : Client σ} {task : Task σ Event (Except ClientError Reply)}
    (h : client.Call task) :
    ∃ make : HeaderMap → Except ClientError Request, task = client.call make ∧
      ∀ headers request, make headers = .ok request → request.context = client.context := by
  have sends : ∀ method target payload, ∃ make : HeaderMap → Except ClientError Request,
      client.send method target payload = client.call make ∧
        ∀ headers request, make headers = .ok request → request.context = client.context :=
    fun _ _ _ => ⟨_, rfl, fun _ _ => context_of_request⟩
  cases h with
  | get => exact sends .get _ .nothing
  | post => exact sends .post _ _
  | put => exact sends .put _ _
  | delete => exact sends .delete _ .nothing
  | send => exact sends _ _ _
  | postForm =>
      refine ⟨_, rfl, fun headers request made => ?_⟩
      obtain ⟨plain, hplain, rfl⟩ := exists_of_formRequest made
      have bound := context_of_request hplain
      exact bound

/-- Reading a response gives it up, however it ends. -/
theorem abides_drain (idling : terms.Idling owed) (request : Request) {response : Response σ Event}
    (rests : ∀ world, owed response world → terms.rests world) (h : owed response world) :
    (drain request response).Abides terms (fun _ world => terms.leaves world) world := by
  have reads : response.bytes.Abides terms (fun _ world => terms.leaves world) world :=
    Response.abides_bytes (owed response) (idling.waits response) rests (idling.gives response) h
  refine .proceed ((Context.abides_run (idling.gives response world h) fun _ => reads).mono ?_)
  rintro (ending | error | octets) world idle
  · exact idle
  · exact idle
  · exact ⟨idling.tells _ world idle, idle⟩

/-- A dispatched request keeps the terms of its exchange, and the call is idle after it. -/
theorem abides_dispatch {execute : Executor σ} {request : Request} (idling : terms.Idling owed)
    (rests : ∀ response world, owed response world → terms.rests world)
    (serves : execute.Serves terms owed request.context) (idle : terms.leaves world) :
    (dispatch execute request).Abides terms (fun _ world => terms.leaves world) world := by
  rw [dispatch_eq]
  refine .proceed ((Context.abides_run (idling.leaves_none idle)
    (serves request world rfl idle)).mono ?_)
  rintro (ending | error | response) world settles
  · exact settles
  · exact settles
  · exact abides_drain idling request (rests response) settles

/-- A call of a client keeps the terms of its exchange, and is idle at its end. -/
theorem Call.abides {client : Client σ} {task : Task σ Event (Except ClientError Reply)}
    (call : client.Call task) (idling : terms.Idling owed)
    (rests : ∀ response world, owed response world → terms.rests world)
    (serves : client.execute.Serves terms owed client.context) (idle : terms.leaves world) :
    task.Abides terms (fun _ world => terms.leaves world) world := by
  obtain ⟨make, rfl, bound⟩ := call.exists_make
  rw [call_eq]
  dsimp only [Task.Abides]
  cases made : make world.defaults with
  | error error => exact idle
  | ok request =>
      refine abides_dispatch idling rests ?_ idle
      rwa [bound _ _ made]

end ResilientHttp.Client

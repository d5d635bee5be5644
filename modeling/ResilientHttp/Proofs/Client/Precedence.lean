import ResilientHttp.Proofs.Client.Errands
import ResilientHttp.Proofs.Retry.Outcome
import ResilientHttp.Proofs.Retry.Replay
import ResilientHttp.Proofs.Task.Punctual

/-!
What a call of a client comes to, and which of its failures comes first. A payload that cannot be encoded
counts before a target that is no URL, and that before a context that has ended; a call that fails in one
of these ways asks its executor for nothing (`Verb.Refused`). Any other call hands over one request, and
what the exchange came to is what the call comes to (`Verb.Sends`, `ExchangeResult.reply`).

* `Verb.make_eq` — the request of a call, or the first of the failures that come before it.
* `Context.course_run_of_live` — alone and under a context that lives, bound work has the course that it
  has on its own.
* `Verb.precedence` — the law of all calls.
-/

namespace ResilientHttp

variable {σ ε α β : Type}

/-- Whatever a task gives when it is alone is one of its values. -/
theorem Task.Keeps.of_outcome {kept : World σ → World σ → Prop} {good : α → Prop} {task : Task σ ε α}
    {world : World σ} {value : α} (keeps : task.Keeps kept good)
    (h : (task.course world).outcome = .value value) : good value := by
  obtain ⟨left, run, ends⟩ := exists_onTime_course (fun _ _ => True) task world
  rw [h] at ends
  have rest := keeps.of_punctual run
  rwa [ends] at rest

/-! ### Bound work whose context lives -/

/-- Where a task gives a value, the moments of what follows it come after its own. -/
theorem Task.moments_bind {task : Task σ ε α} {world : World σ} {value : α}
    (h : (task.course world).outcome = .value value) (f : α → Task σ ε β) :
    (task.bind f).moments world =
      task.moments world ++ (f value).moments (task.course world).world := by
  induction task generalizing world with
  | done result =>
      cases h
      rfl
  | look next ih => exact congrArg (List.cons _) (ih world h)
  | change act next ih => exact ih world h
  | emit event next ih => exact congrArg (List.cons _) (ih h)
  | rest wake held next ih =>
      rw [Task.bind, moments, moments]
      by_cases due : wake.isDue world = true
      · rw [course_rest_of_due due] at h ⊢
        rw [if_pos due, if_pos due]
        exact ih h
      · rw [if_neg due, if_neg due]
        cases hinstant : wake.instant with
        | none =>
            rw [course_rest_of_never due hinstant] at h
            cases h
        | some instant =>
            rw [course_rest_of_wait due hinstant] at h ⊢
            exact ih h
  | panic reason => cases h

namespace Context

variable {context : Context} {task : Task σ ε α} {world : World σ}

theorem course_resume_of_live {held : Cleanup σ ε} {next : Task σ ε (Except ContextEnd α)}
    (live : context.endedIn? world = none) :
    (context.resume held next).course world = next.course world := by
  rw [resume, Task.course_look]
  simp only [live]

theorem moments_resume_of_live {held : Cleanup σ ε} {next : Task σ ε (Except ContextEnd α)}
    (live : context.endedIn? world = none) :
    (context.resume held next).moments world = ⟨world, none⟩ :: next.moments world := by
  rw [resume, Task.moments]
  simp only [live]

/-- What a look at a context sees that lives at all moments of the work. -/
theorem live_of_resume {held : Cleanup σ ε} {next : Task σ ε (Except ContextEnd α)}
    (live : ∀ moment ∈ (context.resume held next).moments world,
      context.endedIn? moment.world = none) :
    context.endedIn? world = none ∧
      ∀ moment ∈ next.moments world, context.endedIn? moment.world = none := by
  have now : context.endedIn? world = none := by
    refine live ⟨world, none⟩ ?_
    rw [resume, Task.moments]
    exact List.mem_cons_self
  rw [moments_resume_of_live now] at live
  exact ⟨now, fun moment mem => live moment (List.mem_cons_of_mem _ mem)⟩

/-- While its context lives, work under the eyes of a context has the course that it has on its own. -/
theorem course_guard_of_live {value : α} (returns : (task.course world).outcome = .value value)
    (live : ∀ moment ∈ (context.guard task).moments world, context.endedIn? moment.world = none) :
    (context.guard task).course world = (task.course world).map .ok := by
  induction task generalizing world with
  | done result => rfl
  | look next ih =>
      exact ih world returns fun moment mem => live moment (List.mem_cons_of_mem _ mem)
  | change act next ih => exact ih world returns live
  | emit event next ih =>
      have same := ih returns fun moment mem => live moment (List.mem_cons_of_mem _ mem)
      exact congrArg (Course.prepend _) same
  | rest wake held next ih =>
      rw [guard_rest] at live ⊢
      rw [Task.moments] at live
      by_cases due : (context.orEnd wake).isDue world = true
      · rw [if_pos due] at live
        obtain ⟨now, onward⟩ := live_of_resume live
        rw [Task.course_rest_of_due due, course_resume_of_live now]
        rw [isDue_orEnd now wake] at due
        rw [Task.course_rest_of_due due] at returns ⊢
        exact ih returns onward
      · have notDue := mt (isDue_orEnd_of_isDue context) due
        rw [if_neg due] at live
        cases hinstant : (context.orEnd wake).instant with
        | none =>
            rw [Task.course_rest_of_never notDue (eq_none_of_earlier hinstant)] at returns
            cases returns
        | some instant =>
            rw [hinstant] at live
            obtain ⟨now, onward⟩ := live_of_resume live
            have alone := eq_some_of_earlier hinstant (endedIn?_eq_none_iff.mp now).2
            rw [Task.course_rest_of_wait due hinstant, course_resume_of_live now]
            rw [Task.course_rest_of_wait notDue alone] at returns ⊢
            exact ih returns onward
  | panic reason => cases returns

/-- Alone and under a context that lives, bound work has the course that it has on its own. -/
theorem course_run_of_live {pending : Cleanup σ ε} {value : α}
    (returns : (task.course world).outcome = .value value)
    (live : ∀ moment ∈ (context.run pending task).moments world,
      context.endedIn? moment.world = none) :
    (context.run pending task).course world = (task.course world).map .ok := by
  rw [run_eq_resume] at live ⊢
  obtain ⟨now, onward⟩ := live_of_resume live
  rw [course_resume_of_live now]
  exact course_guard_of_live returns onward

end Context

/-- Alone and while its context lives, bound work is gone on with where it gives a value. -/
theorem Task.course_proceed_of_live {context : Context} {pending : Cleanup σ ε} {task : Task σ ε α}
    {next : α → Task σ ε (Except ClientError β)} {world : World σ} {value : α}
    (returns : (task.course world).outcome = .value value)
    (live : ∀ moment ∈ ((context.run pending task).proceed next).moments world,
      context.endedIn? moment.world = none) :
    (((context.run pending task).proceed next).course world).outcome =
        ((next value).course (task.course world).world).outcome ∧
      ∀ moment ∈ (next value).moments (task.course world).world,
        context.endedIn? moment.world = none := by
  have bound : (context.run pending task).course world = (task.course world).map .ok :=
    Context.course_run_of_live returns fun moment mem =>
      live moment ((Task.isPrefix_moments_bind _ _ world).subset mem)
  have outcome : ((context.run pending task).course world).outcome = .value (.ok value) := by
    rw [bound, Course.map, returns, Outcome.map]
  have after : ((context.run pending task).course world).world = (task.course world).world := by
    rw [bound, Course.map]
  constructor
  · rw [Task.proceed, Task.course_bind, Course.andThen, outcome, after]
  · intro moment mem
    refine live moment ?_
    rw [Task.proceed, Task.moments_bind outcome, after]
    exact List.mem_append_right _ mem

/-! ### What a response comes to -/

/-- What an outcome is for the one who made the call: an error stays as it is, and of a response there is
the first fault of its body, or its status with all octets of its body. -/
def ExchangeResult.reply : ExchangeResult σ → Except ClientError Reply
  | .error error => .error error
  | .ok response =>
      match response.body.fault? with
      | some fault => .error (.responseBody fault)
      | none => .ok ⟨response.status, response.body.octets⟩

namespace Response

variable (response : Response σ Event)

/-- What reading a response gives. -/
def read : Except ClientError Octets := response.body.content.mapError .responseBody

theorem reply_eq :
    ExchangeResult.reply (.ok response) =
      response.read.map fun octets => (⟨response.status, octets⟩ : Reply) := by
  rw [ExchangeResult.reply, read, Body.content_eq]
  cases response.body.fault? <;> rfl

/-- A response is read to its end or to its first fault. -/
theorem keeps_read {kept : World σ → World σ → Prop} (keeps : response.held.Keeps kept) :
    response.bytes.Keeps kept fun result => result = response.read := by
  refine (Body.keeps_collect keeps response.body).bind fun read content => ?_
  refine (Task.keeps_release keeps).bind fun _ _ => ?_
  exact congrArg (Except.mapError ClientError.responseBody) content

/-- Alone, reading a response ends. -/
theorem outcome_bytes (world : World σ) :
    (response.bytes.course world).outcome = .value response.read := by
  have returns : response.bytes.Returns world :=
    (response.body.returns_collect response.held world).bind fun _ after =>
      (Task.returns_release response.held after).bind fun _ later => Task.returns_done _ later
  obtain ⟨value, returned⟩ := returns
  have keeps : response.bytes.Keeps (fun _ _ => True) fun result => result = response.read :=
    response.keeps_read fun _ => trivial
  rw [returned, keeps.of_outcome returned]

end Response

/-! ### The request of a call -/

namespace Verb

/-- What a call sends. -/
def payload : Verb → Payload
  | .get _ | .delete _ => .nothing
  | .post _ payload | .put _ payload | .send _ _ payload => payload
  | .postForm _ form => .text form.encode

/-- The text that a call has for its target. -/
def target : Verb → String
  | .get target | .delete target => target
  | .post target _ | .put target _ | .send _ target _ | .postForm target _ => target

/-- The method of a call. -/
def method : Verb → Method
  | .get _ => .get
  | .post _ _ | .postForm _ _ => .post
  | .put _ _ => .put
  | .delete _ => .delete
  | .send method _ _ => method

/-- The request of a call whose payload and target can be used. -/
def request (verb : Verb) (context : Context) (headers : HeaderMap) (url : Url) (body : Option Body) :
    Request :=
  { method := verb.method, url, headers := verb.dress headers, body, context }

/-- What a call makes of the default header fields: first the payload is encoded, then the target is
read. -/
theorem make_eq (verb : Verb) (context : Context) (headers : HeaderMap) :
    verb.make context headers =
      match verb.payload.encode with
      | .error error => .error error
      | .ok body =>
          match Url.parse verb.target with
          | .error cause => .error (.invalidUrl cause)
          | .ok url => .ok (verb.request context headers url body) := by
  have plain : ∀ method target payload,
      Client.request context headers method target payload =
        match payload.encode with
        | .error error => .error error
        | .ok body =>
            match Url.parse target with
            | .error cause => .error (.invalidUrl cause)
            | .ok url => .ok { method, url, headers, body, context } := by
    intro method target payload
    unfold Client.request
    cases payload.encode with
    | error error => rfl
    | ok body => cases Url.parse target <;> rfl
  cases verb with
  | postForm target form =>
      rw [make, Client.formRequest, plain]
      simp only [Verb.payload, Payload.encode, Verb.target]
      cases Url.parse target <;> rfl
  | _ => exact plain _ _ _

end Verb

/-- Only what is to be JSON can be refused. -/
theorem Payload.exists_encode_of_error {payload : Payload} {error : ClientError}
    (h : payload.encode = .error error) : ∃ cause, error = .encode cause := by
  induction payload using Payload.encode.induct with
  | case3 inner ih => exact ih h
  | case6 source written encoded =>
      rw [encode, encoded] at h
      cases h
  | case7 source cause encoded =>
      rw [encode, encoded] at h
      cases h
      exact ⟨cause, rfl⟩
  | _ => cases h

/-- What a call with one request may come to: what the outcome of the exchange is for the one who made the
call, unless the context was seen to have ended. -/
def Client.Answers (request : Request) (past : List (Moment (Noted σ) Event))
    (result : Except ClientError Reply) (after : World (Noted σ)) : Prop :=
  (∃ outcome : ExchangeResult σ, after.journal.outcomes = [outcome] ∧
      result = ExchangeResult.reply outcome) ∨
    ∃ ending, request.context.SeenEnded past ending ∧ result = .error ending.error

/-! ### Calls that fail at once -/

namespace Verb

variable {verb : Verb} {context : Context} {base : Executor σ} {world : World σ}
  {url : Url} {body : Option Body}

/-- A call that comes to an error and asks its executor for nothing: in no run among others is anything
handed over, a run that is over gave the error, and alone the call is over with it. -/
structure Refused (verb : Verb) (context : Context) (base : Executor σ) (world : World σ)
    (error : ClientError) : Prop where
  unasked : ∀ moments left after,
    Task.Run World.Alongside (verb.task ⟨context, base.recording⟩) (world.noted .empty) moments left
      after →
    after.journal = .empty ∧ ∀ result, left = .done result → result = .error error
  outcome : ((verb.task ⟨context, base⟩).course world).outcome = .value (.error error)

/-- A call that hands over one request and comes to what the exchange came to. In every run among others
it hands over nothing else; a run that is over has handed it over and gave what its outcome is for the one
who made the call, unless the context was seen to have ended. Alone the request is handed over whatever
becomes of it, and the call comes to what the exchange comes to, if the context lives. -/
structure Sends (verb : Verb) (context : Context) (base : Executor σ) (world : World σ)
    (request : Request) : Prop where
  once : ∀ moments left after,
    Task.Run World.Alongside (verb.task ⟨context, base.recording⟩) (world.noted .empty) moments left
      after →
    after.journal.requests <+: [request] ∧
      ∀ result, left = .done result →
        after.journal.requests = [request] ∧ Client.Answers request moments result after
  handed : ((verb.task ⟨context, base.recording⟩).course (world.noted .empty)).world.journal.requests =
    [request]
  outcome : ∀ outcome, ((base request).course world).outcome = .value outcome →
    (∀ moment ∈ (verb.task ⟨context, base⟩).moments world, context.endedIn? moment.world = none) →
    ((verb.task ⟨context, base⟩).course world).outcome =
      .value (ExchangeResult.reply outcome)

theorem refused_of_make {error : ClientError}
    (h : verb.make context world.defaults = .error error) :
    verb.Refused context base world error := by
  have steps : (verb.task ⟨context, base.recording⟩).Ensures World.Alongside
      (fun _ after => after.journal = .empty) (fun _ result _ => result = .error error) []
      (world.noted .empty) := by
    rw [task_eq, Client.call_eq]
    refine ⟨rfl, ?_⟩
    have made : verb.make context (world.noted Journal.empty).defaults = .error error := h
    simp only [made]
    exact ⟨rfl, rfl⟩
  refine ⟨fun moments left after run => ?_, ?_⟩
  · have ensured := steps.of_run run
    refine ⟨ensured.now, ?_⟩
    rintro result rfl
    exact ensured.2
  · rw [task_eq, Client.call_eq, Task.course_look]
    simp only [h, Task.course_done]

/-- A call whose context has ended is refused once its request is made. -/
theorem refused_of_ended {ending : ContextEnd}
    (h : verb.make context world.defaults = .ok (verb.request context world.defaults url body))
    (ended : context.endedIn? world = some ending) :
    verb.Refused context base world ending.error := by
  have made : verb.make context (world.noted Journal.empty).defaults =
      .ok (verb.request context world.defaults url body) := h
  have refused : context.endedIn? (world.noted (Journal.empty : Journal σ)) = some ending := ended
  have steps : (verb.task ⟨context, base.recording⟩).Ensures World.Alongside
      (fun _ after => after.journal = .empty) (fun _ result _ => result = .error ending.error) []
      (world.noted .empty) := by
    rw [task_eq, Client.call_eq]
    refine ⟨rfl, ?_⟩
    simp only [made, Client.dispatch_eq, Context.run_eq_resume]
    refine .proceed ⟨rfl, ?_⟩
    simp only [request, refused]
    exact ⟨rfl, rfl, rfl⟩
  refine ⟨fun moments left after run => ?_, ?_⟩
  · have ensured := steps.of_run run
    refine ⟨ensured.now, ?_⟩
    rintro result rfl
    exact ensured.2
  · rw [task_eq, Client.call_eq, Task.course_look]
    simp only [h, Client.dispatch_eq, Context.run_eq_resume, request, Task.proceed, Task.course_bind,
      Context.resume, Task.course_look, ended, Task.release, Task.course_change]
    rfl

end Verb

/-! ### Calls that are sent -/

namespace Client

variable {base : Executor σ} {request : Request} {past : List (Moment (Noted σ) Event)}
  {world : World (Noted σ)}

/-- Reading a response leaves the journal alone and gives what the response comes to. -/
theorem ensures_drain (response : Response σ Event) (sent : world.journal.requests = [request])
    (outcome : world.journal.outcomes = [.ok response]) :
    (drain request response.noted).Ensures World.Alongside
      (fun _ after => after.journal.requests = [request]) (Answers request) past world := by
  have stays : ∀ world after : World (Noted σ),
      world.journal.requests = [request] ∧ world.journal.outcomes = [.ok response] →
      after.journal = world.journal →
      after.journal.requests = [request] ∧ after.journal.outcomes = [.ok response] := by
    intro world after h same
    rwa [same]
  have reads : response.noted.bytes.Keeps World.SameJournal fun result => result = response.read :=
    response.noted.keeps_read response.held.keeps_noted
  refine .proceed (Context.ensures_run
    (fun after => after.journal.requests = [request] ∧ after.journal.outcomes = [.ok response])
    (fun world after h beside => stays world after h beside.journal) stays (fun _ _ h => h.1) ?_ ?_
    response.held.keeps_noted reads ⟨sent, outcome⟩)
  · intro past ending after h seen
    exact .inr ⟨ending, seen, rfl⟩
  · rintro past result after ⟨sent, answered⟩ rfl
    have gives : ∀ past, Answers request past (response.read.map (⟨response.status, ·⟩)) after :=
      fun _ => .inl ⟨.ok response, answered, response.reply_eq.symm⟩
    revert gives
    cases response.read with
    | error error => exact fun gives => ⟨sent, gives _⟩
    | ok octets => exact fun gives => ⟨sent, sent, gives _⟩

/-- What is left of a call once its request was handed over. -/
def awaiting (base : Executor σ) (request : Request) :
    Task (Noted σ) Event (Except ClientError Reply) :=
  (request.context.guard ((base request).noted.bind fun outcome =>
      .change (fun world => world.plain.noted (world.journal.answer world.plain outcome)) fun _ =>
        .done (outcome.map Response.noted))).proceed fun
    | .error error => .done (.error error)
    | .ok response => drain request response

theorem dispatch_recording (base : Executor σ) (request : Request) :
    dispatch base.recording request = .look fun world =>
      match request.context.endedIn? world with
      | some ending => .change id fun _ => .done (.error ending.error)
      | none =>
          .change (fun world => world.plain.noted (world.journal.hand world.plain request)) fun _ =>
            awaiting base request := by
  rw [dispatch_eq]
  refine congrArg Task.look (funext fun world => ?_)
  dsimp only
  cases request.context.endedIn? world with
  | some ending => rfl
  | none =>
      refine congrArg (Task.change _) (funext fun _ => congrArg (Task.bind _) (funext fun result => ?_))
      rcases result with ending | error | response <;> rfl

/-- Once its request was handed over, a call hands nothing over any more. -/
theorem ensures_awaiting (sent : world.journal.requests = [request])
    (unanswered : world.journal.outcomes = []) :
    (awaiting base request).Ensures World.Alongside
      (fun _ after => after.journal.requests = [request]) (Answers request) past world := by
  have own : ∀ world after : World (Noted σ),
      world.journal.requests = [request] ∧ world.journal.outcomes = [] →
      World.SameJournal world after →
      after.journal.requests = [request] ∧ after.journal.outcomes = [] := by
    intro world after h same
    rwa [same]
  rw [awaiting, Context.guard_bind]
  refine .proceed (.bind (Context.ensures_guard
    (fun after => after.journal.requests = [request] ∧ after.journal.outcomes = [])
    (fun world after h beside => own world after h beside.journal) own (fun _ _ h => h.1) ?_ ?_
    (Task.keeps_noted (base request)) ⟨sent, unanswered⟩))
  · intro past ending after h seen
    exact ⟨h.1, .inr ⟨ending, seen, rfl⟩⟩
  · rintro past outcome after ⟨sent, unanswered⟩ -
    refine ⟨sent, by simpa using sent, ?_⟩
    cases outcome with
    | error error => exact ⟨by simpa using sent, .inl ⟨.error error, by simp [unanswered], rfl⟩⟩
    | ok response => exact ensures_drain response (by simpa using sent) (by simp [unanswered])

/-- Alone and while its context lives, a dispatched request comes to what its exchange comes to. -/
theorem outcome_dispatch {execute : Executor σ} {outcome : ExchangeResult σ} {world : World σ}
    (returns : ((execute request).course world).outcome = .value outcome)
    (live : ∀ moment ∈ (dispatch execute request).moments world,
      request.context.endedIn? moment.world = none) :
    ((dispatch execute request).course world).outcome = .value (ExchangeResult.reply outcome) := by
  rw [dispatch_eq] at live ⊢
  obtain ⟨goesOn, onward⟩ := Task.course_proceed_of_live returns live
  rw [goesOn]
  cases outcome with
  | error error => rfl
  | ok response =>
      obtain ⟨ends, -⟩ := Task.course_proceed_of_live (response.outcome_bytes _) onward
      refine ends.trans ?_
      rw [response.reply_eq]
      cases response.read <;> rfl

end Client

namespace Verb

variable {verb : Verb} {context : Context} {base : Executor σ} {world : World σ}
  {url : Url} {body : Option Body}

/-- A call whose context lives when its request is made is sent. -/
theorem sends_of_make
    (h : verb.make context world.defaults = .ok (verb.request context world.defaults url body))
    (live : context.endedIn? world = none) :
    verb.Sends context base world (verb.request context world.defaults url body) := by
  have made : verb.make context (world.noted Journal.empty).defaults =
      .ok (verb.request context world.defaults url body) := h
  have now : context.endedIn? (world.noted (Journal.empty : Journal σ)) = none := live
  generalize hsent : verb.request context world.defaults url body = sent at *
  obtain rfl : sent.context = context := by rw [← hsent]; rfl
  have nothing : [] <+: [sent] := List.nil_prefix
  have call := (task_eq ⟨sent.context, base.recording⟩ verb).trans (Client.call_eq _ _)
  refine ⟨fun moments left after run => ?_, ?_, fun outcome returns alive => ?_⟩
  · have steps : (verb.task ⟨sent.context, base.recording⟩).Ensures World.Alongside
        (fun _ after => after.journal.requests <+: [sent])
        (fun past result after => after.journal.requests = [sent] ∧
          Client.Answers sent past result after) [] (world.noted .empty) := by
      rw [call]
      refine ⟨nothing, ?_⟩
      simp only [made, Client.dispatch_recording]
      refine ⟨nothing, ?_⟩
      simp only [now]
      refine ⟨nothing, ?_⟩
      refine (Client.ensures_awaiting rfl rfl).mono ?_ |>.weaken ?_
      · exact fun past result after same answers => ⟨same, answers⟩
      · exact fun past after same => same ▸ List.prefix_rfl
    have ensured := steps.of_run run
    refine ⟨ensured.now, ?_⟩
    rintro result rfl
    exact ensured.2
  · rw [call, Task.course_look]
    simp only [made, Client.dispatch_recording, Task.course_look, now, Task.course_change]
    have steps : (Client.awaiting base sent).Ensures World.Alongside
        (fun _ after => after.journal.requests = [sent]) (Client.Answers sent) []
        (world.noted (Journal.empty.hand world sent)) := Client.ensures_awaiting rfl rfl
    obtain ⟨left, run, -⟩ := Task.exists_run_course World.alongside_allowsWaiting
      (Client.awaiting base sent) (world.noted (Journal.empty.hand world sent))
    exact (steps.of_run run).now
  · rw [task_eq, Client.call_eq] at alive ⊢
    rw [Task.moments] at alive
    rw [Task.course_look]
    simp only [h] at alive ⊢
    exact Client.outcome_dispatch returns fun moment mem => alive moment (List.mem_cons_of_mem _ mem)

/-- What a call comes to, for every verb, target, payload, context, executor and world. If the payload
cannot be encoded, the call is refused with that, whatever its target and its context. Otherwise, if the
target is no URL, it is refused with that, whatever its context. Otherwise, if the context has ended, it is
refused with the way in which it has. Otherwise it sends one request: what the executor gives is what the
call gives, an error as it is, the first fault of a response's body, or its status with all its octets. -/
theorem precedence (verb : Verb) (context : Context) (base : Executor σ) (world : World σ) :
    (∀ error, verb.payload.encode = .error error →
      (∃ cause, error = .encode cause) ∧ verb.Refused context base world error) ∧
    ∀ body, verb.payload.encode = .ok body →
      (∀ cause, Url.parse verb.target = .error cause →
        verb.Refused context base world (.invalidUrl cause)) ∧
      ∀ url, Url.parse verb.target = .ok url →
        (∀ ending, context.endedIn? world = some ending →
          verb.Refused context base world ending.error) ∧
        (context.endedIn? world = none →
          verb.Sends context base world
            { method := verb.method, url, headers := verb.dress world.defaults, body, context }) := by
  have make := verb.make_eq context world.defaults
  constructor
  · intro error refused
    simp only [refused] at make
    exact ⟨Payload.exists_encode_of_error refused, refused_of_make make⟩
  · intro body encoded
    simp only [encoded] at make
    constructor
    · intro cause unread
      simp only [unread] at make
      exact refused_of_make make
    · intro url parsed
      simp only [parsed] at make
      constructor
      · exact fun ending ended => refused_of_ended make ended
      · exact fun live => sends_of_make make live

/-- A call whose payload cannot be encoded never asks a site, though its target is no URL and its context has
ended. Another one gets the answer of the site as a reply, though it tells of a failure. -/
theorem precedence_recovering :
    (∃ cause, (Verb.put "nowhere" (.json (.failing "broken"))).Refused ⟨0, some 0⟩
      Site.recoveringExecutor Site.recoveringWorld (.encode cause)) ∧
    (((Verb.get "site:status").task ⟨⟨0, none⟩, Site.recoveringExecutor⟩).course
      Site.recoveringWorld).outcome = .value (.ok ⟨⟨503⟩, []⟩) := by
  constructor
  · have law := precedence (.put "nowhere" (.json (.failing "broken"))) ⟨0, some 0⟩
      Site.recoveringExecutor Site.recoveringWorld
    exact ⟨_, (law.1 _ rfl).2⟩
  · have law := precedence (.get "site:status") ⟨0, none⟩ Site.recoveringExecutor
      Site.recoveringWorld
    have sends := ((law.2 none rfl).2 _ rfl).2 (by decide)
    exact sends.outcome _ rfl (by decide)

end Verb
end ResilientHttp

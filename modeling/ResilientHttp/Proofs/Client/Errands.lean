import ResilientHttp.Proofs.Client.Terms
import ResilientHttp.Proofs.Task.Threads

/-!
Errands run with copies of one client: calls, merges of header fields into the defaults, and copies of
the defaults that are changed afterwards. An errand takes the defaults as they are in its first
action (`Errand.did_first`), and all that it does after that depends on what it took them to be
(`Errand.Left.acts`): a call hands over requests with the header fields that it has made of them.
-/

namespace ResilientHttp

variable {σ : Type}

/-! ### Calls, merges and copies -/

namespace HeaderMap

/-- A name whose values are replaced is no different once it is removed. -/
theorem remove_put (map : HeaderMap) (name : HeaderName) (values : List HeaderValue) :
    (map.put name values).remove name = map.remove name := by
  have filtered : ∀ entries : List (HeaderName × List HeaderValue),
      (setEntry name values entries).filter (·.1 ≠ name) = entries.filter (·.1 ≠ name) := by
    intro entries
    induction entries with
    | nil => simp [setEntry]
    | cons entry rest ih =>
        obtain ⟨other, old⟩ := entry
        by_cases h : name = other
        · simp [setEntry, h]
        · rw [setEntry, if_neg h, List.filter_cons, List.filter_cons, ih]
  simp only [remove, put, filtered]

end HeaderMap

/-- A call of a client. -/
inductive Verb where
  | get (target : String)
  | post (target : String) (payload : Payload)
  | put (target : String) (payload : Payload)
  | delete (target : String)
  | send (method : Method) (target : String) (payload : Payload)
  | postForm (target : String) (form : Form)

namespace Verb

/-- What a client does in a call. -/
def task (client : Client σ) : Verb → Task σ Event (Except ClientError Reply)
  | .get target => client.get target
  | .post target payload => client.post target payload
  | .put target payload => client.put target payload
  | .delete target => client.delete target
  | .send method target payload => client.send method target payload
  | .postForm target form => client.postForm target form

/-- The header fields of the request of a call, made of the default ones. -/
def dress : Verb → HeaderMap → HeaderMap
  | .postForm _ _, headers => headers.insert Client.contentType Client.formType
  | _, headers => headers

/-- A form has the type of forms as its only one, and all other header fields as they were. -/
theorem dress_postForm (target : String) (form : Form) (headers : HeaderMap) :
    ((Verb.postForm target form).dress headers).getAll Client.contentType = [Client.formType] ∧
      ((Verb.postForm target form).dress headers).remove Client.contentType =
        headers.remove Client.contentType :=
  ⟨(headers.getAll_put ..).trans (if_pos rfl), headers.remove_put ..⟩

theorem dress_of_ne {verb : Verb} (h : ∀ target form, verb ≠ .postForm target form)
    (headers : HeaderMap) : verb.dress headers = headers := by
  cases verb with
  | postForm target form => exact absurd rfl (h target form)
  | _ => rfl

/-- The request of a call, made of the default header fields. -/
def make (context : Context) : Verb → HeaderMap → Except ClientError Request
  | .get target, headers => Client.request context headers .get target .nothing
  | .post target payload, headers => Client.request context headers .post target payload
  | .put target payload, headers => Client.request context headers .put target payload
  | .delete target, headers => Client.request context headers .delete target .nothing
  | .send method target payload, headers => Client.request context headers method target payload
  | .postForm target form, headers => Client.formRequest context headers target form

theorem task_eq (client : Client σ) (verb : Verb) :
    verb.task client = client.call (verb.make client.context) := by
  cases verb <;> rfl

theorem headers_of_make {context : Context} {verb : Verb} {headers : HeaderMap}
    {request : Request} (h : verb.make context headers = .ok request) :
    request.headers = verb.dress headers := by
  cases verb with
  | postForm target form =>
      obtain ⟨plain, made, rfl⟩ := Client.exists_of_formRequest h
      obtain ⟨url, body, rfl⟩ := Client.exists_of_request made
      rfl
  | _ =>
      obtain ⟨url, body, rfl⟩ := Client.exists_of_request h
      rfl

end Verb

/-- Something to be done with a copy of a client. -/
inductive Errand where
  | call (verb : Verb)
  | merge (fields : HeaderMap)
  /-- The default header fields are copied, and the copy is changed. -/
  | copy (change : HeaderMap → HeaderMap)

/-- What comes of an errand. -/
inductive Errand.Return where
  | replied (result : Except ClientError Reply)
  | merged
  | copied (headers : HeaderMap)

namespace Errand

/-- How an errand is run. -/
def task (client : Client σ) : Errand → Task σ Event Return
  | .call verb => (verb.task client).bind fun result => .done (.replied result)
  | .merge fields => (Client.mergeHeaders fields).bind fun _ => .done .merged
  | .copy change => Client.headers.bind fun headers => .done (.copied (change headers))

/-- What an errand merges into the defaults. -/
def fields? : Errand → Option HeaderMap
  | .merge fields => some fields
  | _ => none

end Errand

/-! ### What an errand does -/

/-- Both worlds have the same default header fields. -/
def World.SameDefaults (world after : World σ) : Prop := after.defaults = world.defaults

/-- The defaults stay, and what is handed over has certain header fields. -/
def World.Carries (headers : HeaderMap) (world after : World (Noted σ)) : Prop :=
  after.defaults = world.defaults ∧ ∃ entries,
    after.journal.handed = world.journal.handed ++ entries ∧
      ∀ entry ∈ entries, entry.2.headers = headers

namespace World

variable {headers : HeaderMap} {world after : World (Noted σ)}

theorem carries_of_quiet (defaults : after.defaults = world.defaults)
    (quiet : after.journal.handed = world.journal.handed) : world.Carries headers after :=
  ⟨defaults, [], by rw [quiet, List.append_nil], List.forall_mem_nil _⟩

theorem carries_refl (headers : HeaderMap) (world : World (Noted σ)) : world.Carries headers world :=
  carries_of_quiet rfl rfl

end World

/-- A recorded executor hands over requests as they are, and leaves the defaults alone if it does so
without its journal. -/
theorem Executor.movesOn_recording {base : Executor σ} (apart : base.Moves World.SameDefaults)
    (headers : HeaderMap) :
    base.recording.MovesOn (fun request => request.headers = headers) (World.Carries headers) := by
  have moves : base.MovesOn (fun request => request.headers = headers) World.SameDefaults :=
    fun request _ => apart request
  refine moves.recording ?_ (fun _ _ => World.carries_of_quiet rfl rfl) fun _ _ defaults same =>
    World.carries_of_quiet defaults (congrArg Journal.handed same)
  rintro world request rfl
  refine ⟨rfl, [(world.plain, request)], rfl, ?_⟩
  rintro _ (_ | ⟨_, ⟨⟩⟩)
  rfl

namespace Errand

/-- What an errand may do in one deed, if it took the defaults to be certain header fields. -/
def Did (errand : Errand) (seen : HeaderMap) (world after : World (Noted σ)) : Prop :=
  match errand with
  | .call verb => World.Carries (verb.dress seen) world after
  | .merge fields => after = { world with defaults := world.defaults.extend fields }
  | .copy _ => after = world

/-- What is left of an errand once it has taken the defaults to be certain header fields. -/
def Left (errand : Errand) (seen : HeaderMap) (task : Task (Noted σ) Event Return) : Prop :=
  match errand with
  | .call verb => task.Keeps (World.Carries (verb.dress seen)) fun _ => True
  | .merge _ | .copy _ => ∃ value, task = .done value

variable {client : Client (Noted σ)} {errand : Errand} {seen : HeaderMap}
  {task next : Task (Noted σ) Event Return} {world after : World (Noted σ)}

/-- In its first action an errand takes the defaults as they are. -/
theorem did_first
    (sends : ∀ headers, client.execute.MovesOn (fun request => request.headers = headers)
      (World.Carries headers))
    (acts : (errand.task client).Acts world next after) :
    errand.Did world.defaults world after ∧ errand.Left world.defaults next := by
  cases errand with
  | call verb =>
      rw [task, Verb.task_eq, Client.call_eq, Task.bind] at acts
      cases acts with
      | look =>
          refine ⟨World.carries_refl _ world, Task.Keeps.bind ?_ fun _ (_ : True) => trivial⟩
          cases made : verb.make client.context world.defaults with
          | error error => trivial
          | ok request =>
              have exchange := sends _ request (Verb.headers_of_make made)
              exact Client.keeps_dispatch (World.carries_refl _) exchange
  | merge fields =>
      cases acts with
      | change => exact ⟨rfl, _, rfl⟩
  | copy change =>
      cases acts with
      | look => exact ⟨rfl, _, rfl⟩

theorem Left.acts (left : errand.Left seen task) (acts : task.Acts world next after) :
    errand.Did seen world after ∧ errand.Left seen next := by
  cases errand with
  | call verb =>
      have keeps : task.Keeps (World.Carries (verb.dress seen)) fun _ => True := left
      obtain ⟨rfl | carries, onward⟩ := keeps.acts acts
      · exact ⟨World.carries_refl _ _, onward⟩
      · exact ⟨carries, onward⟩
  | merge fields | copy change =>
      obtain ⟨value, rfl⟩ := left
      cases acts

theorem Left.gives {wake : Wake (Noted σ)} {held : Cleanup (Noted σ) Event}
    (left : errand.Left seen (.rest wake held next)) : errand.Did seen world (held.effect world) := by
  cases errand with
  | call verb =>
      have keeps : held.Keeps (World.Carries (verb.dress seen)) := left.1
      exact keeps world
  | merge fields | copy change =>
      obtain ⟨value, ⟨⟩⟩ := left

/-- What an errand hands over is the requests of a call. -/
theorem Did.exists_entries (did : errand.Did seen world after) :
    ∃ entries, after.journal.handed = world.journal.handed ++ entries ∧
      ∀ entry ∈ entries, ∃ verb, errand = .call verb ∧ entry.2.headers = verb.dress seen := by
  cases errand with
  | call verb =>
      obtain ⟨-, entries, grown, carried⟩ := did
      exact ⟨entries, grown, fun entry mem => ⟨verb, rfl, carried entry mem⟩⟩
  | merge fields =>
      have whole : after = { world with defaults := world.defaults.extend fields } := did
      exact ⟨[], by rw [whole, List.append_nil]; rfl, List.forall_mem_nil _⟩
  | copy change =>
      have same : after = world := did
      exact ⟨[], by rw [same, List.append_nil], List.forall_mem_nil _⟩

/-- An errand does not begin with a rest. -/
theorem task_ne_rest {wake : Wake (Noted σ)} {held : Cleanup (Noted σ) Event} :
    errand.task client ≠ .rest wake held next := by
  intro resting
  cases errand with
  | call verb =>
      rw [task, Verb.task_eq, Client.call_eq, Task.bind] at resting
      cases resting
  | merge fields | copy change => cases resting

end Errand

end ResilientHttp

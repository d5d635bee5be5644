import ResilientHttp.Proofs.Journal
import ResilientHttp.Site.Basic

/-!
Scripted sites as executors: they always answer (`Script.returns_executor`), and all that they do to the
world is to take the next step and to cancel what it cancels (`Script.moves_executor`).
`Site.recovering` is a small site of this kind, for calls on fixed inputs.
-/

namespace ResilientHttp

variable {σ : Type}

namespace Script

theorem returns_readBody (request : Request) (world : World σ) :
    (readBody request).Returns world := by
  unfold readBody
  cases request.body with
  | none => exact Task.returns_done _ world
  | some body =>
      refine (body.returns_collect .none world).bind ?_
      intro result after
      cases result with
      | error fault => exact Task.returns_done _ after
      | ok octets => exact Task.returns_done _ after

/-- A scripted site answers every request, now or later. -/
theorem returns_executor (name : String) (part : Part σ Script) (request : Request)
    (world : World σ) : (executor name part request).Returns world := by
  refine (returns_readBody request world).bind ?_
  intro read after
  cases read with
  | error fault => exact Task.returns_done _ after
  | ok octets =>
      let step := (part.read after).current
      let told := cancelToken step.cancels (part.write advance after)
      let answer : Task σ Event (Except ClientError (Response σ Event)) :=
        (Task.sleep .none step.delay).bind fun _ => .done (step.result.map (respond name request))
      have answers : answer.Returns told :=
        (Task.returns_sleep .none step.delay told).bind fun _ later => Task.returns_done _ later
      exact answers

section Keeping

variable {kept : World σ → World σ → Prop}

theorem keeps_readBody (same : ∀ world, kept world world) (request : Request) :
    (readBody request : Task σ Event (Except ClientError (Option Octets))).Keeps kept
      fun _ => True := by
  unfold readBody
  cases request.body with
  | none => trivial
  | some body =>
      refine (body.keeps_collect (Cleanup.keeps_none same)).bind ?_
      intro result _
      cases result <;> trivial

/-- A scripted site moves the world as its steps do. -/
theorem moves_executor (name : String) {part : Part σ Script} (same : ∀ world, kept world world)
    (advances : ∀ world, kept world (part.write advance world))
    (cancels : ∀ token world, kept world (cancelToken token world)) :
    (executor name part).Moves kept := by
  refine fun request => (keeps_readBody same request).bind fun read _ => ?_
  cases read with
  | error fault => rintro response ⟨⟩
  | ok octets =>
      intro world
      let step := (part.read world).current
      have sleeps : (Task.sleep .none step.delay : Task σ Event Unit).Keeps kept fun _ => True :=
        Task.keeps_sleep (Cleanup.keeps_none same) _
      refine ⟨advances, fun _ => ⟨cancels step.cancels, fun _ =>
        sleeps.bind fun _ _ response answered => ?_⟩⟩
      cases hresult : step.result with
      | error error =>
          rw [hresult] at answered
          cases answered
      | ok answer =>
          rw [hresult] at answered
          cases answered
          exact same

end Keeping

end Script

/-! ### A site to call -/

/-- A step that answers with a status and an empty body after five milliseconds. -/
def Step.answering (code : UInt16) : Step where
  cancels := none
  delay := .ofMillis 5
  result := .ok { status := ⟨code⟩, headers := .empty, chunks := [], tellsUrl := true }

/-- A site that is overloaded once and has recovered after that. -/
def Site.recovering : Site := ⟨[("site", ⟨[.answering 503], .answering 200⟩)], .ofLimit 0⟩

/-- The site at the start of its clock, with two contexts that nobody has cancelled. -/
def Site.recoveringWorld : World Site :=
  { Site.recovering.world with tokens := ⟨[⟨none, false⟩, ⟨none, false⟩]⟩ }

/-- The executor of the site. -/
def Site.recoveringExecutor : Executor Site := Script.executor "site" (Site.script "site")

/-- A request to the site. -/
def Request.toSite (body : Option Body) (context : Context) : Request where
  method := .post
  url := ⟨"http", "", none, some (.domain "site.test"), none, .segments [""], none, none⟩
  headers := .empty
  body
  context

end ResilientHttp

import ResilientHttp.Event
import ResilientHttp.Proofs.Task.Trail

/-!
What an executor is handed. `Executor.recording` is any executor with a journal beside the site: the
journal lists the requests that the executor was handed and the outcomes that it gave, in order, each
with the world of that moment. The executor itself sees nothing of its journal and cannot touch it.

* `keeps_noted` — what a recorded executor does on its own leaves the journal as it is.
* `ensures_run_exchange` — one exchange under a context, moment by moment.
* `ensures_run_recording` — what comes of it: either the request was never handed over, or the journal
  tells of it, and the outcome that came back is the one that the journal tells.
-/

namespace ResilientHttp

variable {σ ε α β : Type}

/-- What an exchange comes to. -/
abbrev ExchangeResult (σ : Type) := Except ClientError (Response σ Event)

/-- Whatever an executor does, and whatever it does to give up one of its responses, moves the world
along a relation. -/
def Executor.Moves (kept : World σ → World σ → Prop) (base : Executor σ) : Prop :=
  ∀ request, (base request).Keeps kept fun outcome =>
    ∀ response, outcome = .ok response → response.held.Keeps kept

/-- The requests that an executor was handed and the outcomes that it gave, each with the world of
that moment. -/
structure Journal (σ : Type) where
  handed : List (World σ × Request)
  answered : List (World σ × ExchangeResult σ)

namespace Journal

/-- Nothing was handed over. -/
def empty : Journal σ := ⟨[], []⟩

/-- The journal with one more request. -/
def hand (journal : Journal σ) (world : World σ) (request : Request) : Journal σ :=
  { journal with handed := journal.handed ++ [(world, request)] }

/-- The journal with one more outcome. -/
def answer (journal : Journal σ) (world : World σ) (outcome : ExchangeResult σ) : Journal σ :=
  { journal with answered := journal.answered ++ [(world, outcome)] }

/-- The requests, in the order in which they were handed over. -/
def requests (journal : Journal σ) : List Request := journal.handed.map Prod.snd

/-- The outcomes, in the order in which they were given. -/
def outcomes (journal : Journal σ) : List (ExchangeResult σ) := journal.answered.map Prod.snd

variable (journal : Journal σ) (world : World σ) (request : Request) (outcome : ExchangeResult σ)

@[simp] theorem requests_empty : (empty : Journal σ).requests = [] := rfl

@[simp] theorem outcomes_empty : (empty : Journal σ).outcomes = [] := rfl

@[simp] theorem requests_hand :
    (journal.hand world request).requests = journal.requests ++ [request] := by
  simp [requests, hand]

@[simp] theorem outcomes_hand : (journal.hand world request).outcomes = journal.outcomes := rfl

@[simp] theorem requests_answer : (journal.answer world outcome).requests = journal.requests := rfl

@[simp] theorem outcomes_answer :
    (journal.answer world outcome).outcomes = journal.outcomes ++ [outcome] := by
  simp [outcomes, answer]

end Journal

/-- A site with a journal beside it. -/
abbrev Noted (σ : Type) := σ × Journal σ

namespace World

/-- The world without its journal. -/
def plain (world : World (Noted σ)) : World σ :=
  ⟨world.now, world.longestTimer, world.tokens, world.defaults, world.site.1⟩

/-- The journal of a world. -/
def journal (world : World (Noted σ)) : Journal σ := world.site.2

/-- A world with a journal. -/
def noted (world : World σ) (journal : Journal σ) : World (Noted σ) :=
  ⟨world.now, world.longestTimer, world.tokens, world.defaults, (world.site, journal)⟩

@[simp] theorem plain_noted (world : World σ) (journal : Journal σ) :
    (world.noted journal).plain = world := rfl

@[simp] theorem journal_noted (world : World σ) (journal : Journal σ) :
    (world.noted journal).journal = journal := rfl

/-- Both worlds have the same journal. -/
def SameJournal (world after : World (Noted σ)) : Prop := after.journal = world.journal

/-- What the others may do beside a call: anything, except that the clock does not go back and that
the journal is the call's own. -/
structure Alongside (world after : World (Noted σ)) : Prop where
  journal : after.journal = world.journal
  clock : world.now ≤ after.now

theorem sameJournal_refl (world : World (Noted σ)) : SameJournal world world := rfl

theorem SameJournal.eq {journal : Journal σ} (world after : World (Noted σ))
    (h : world.journal = journal) (same : SameJournal world after) : after.journal = journal :=
  same.trans h

theorem Alongside.eq {journal : Journal σ} (world after : World (Noted σ))
    (h : world.journal = journal) (beside : Alongside world after) : after.journal = journal :=
  beside.journal.trans h

theorem alongside_allowsWaiting : Task.AllowsWaiting (Alongside (σ := σ)) where
  still _ := ⟨rfl, Nat.le_refl _⟩
  wait _ _ later := ⟨rfl, later⟩

end World

/-! ### Doing the same beside a journal -/

/-- The same change, beside a journal. -/
def Noted.act (act : World σ → World σ) (world : World (Noted σ)) : World (Noted σ) :=
  (act world.plain).noted world.journal

/-- The same cleanup, beside a journal. -/
def Cleanup.noted (held : Cleanup σ ε) : Cleanup (Noted σ) ε := ⟨Noted.act held.effect, held.events⟩

/-- The same condition, beside a journal. -/
def Wake.noted (wake : Wake σ) : Wake (Noted σ) :=
  ⟨wake.instant, fun world => wake.allowed world.plain⟩

/-- The same task, beside a journal. -/
def Task.noted : Task σ ε α → Task (Noted σ) ε α
  | .done value => .done value
  | .look next => .look fun world => (next world.plain).noted
  | .change act next => .change (Noted.act act) fun world => (next world.plain).noted
  | .emit event next => .emit event next.noted
  | .rest wake held next => .rest wake.noted held.noted next.noted
  | .panic reason => .panic reason

/-- The same response, beside a journal. -/
def Response.noted (response : Response σ ε) : Response (Noted σ) ε :=
  { response with held := response.held.noted }

/-- An executor that keeps a journal of what it is handed and of the outcomes that it gives. -/
def Executor.recording (base : Executor σ) : Executor (Noted σ) := fun request =>
  .change (fun world => world.plain.noted (world.journal.hand world.plain request)) fun _ =>
    (base request).noted.bind fun outcome =>
      .change (fun world => world.plain.noted (world.journal.answer world.plain outcome)) fun _ =>
        .done (outcome.map Response.noted)

theorem Cleanup.keeps_noted (held : Cleanup σ ε) : held.noted.Keeps World.SameJournal :=
  fun _ => rfl

theorem Task.keeps_noted (task : Task σ ε α) :
    task.noted.Keeps World.SameJournal fun _ => True := by
  induction task with
  | done value => trivial
  | look next ih => exact fun world => ih world.plain
  | change act next ih => exact ⟨fun _ => rfl, fun world => ih world.plain⟩
  | emit event next ih => exact ih
  | rest wake held next ih => exact ⟨held.keeps_noted, ih⟩
  | panic reason => trivial

/-- Beside a journal a task moves the site as it does without, and the journal not at all. -/
theorem Task.Keeps.noted {task : Task σ ε α} {kept : World σ → World σ → Prop} {good : α → Prop}
    (h : task.Keeps kept good) :
    task.noted.Keeps (fun world after => kept world.plain after.plain ∧ after.journal = world.journal)
      good := by
  induction task with
  | done value => exact h
  | look next ih => exact fun world => ih world.plain (h world.plain)
  | change act next ih =>
      exact ⟨fun world => ⟨h.1 world.plain, rfl⟩, fun world => ih world.plain (h.2 world.plain)⟩
  | emit event next ih => exact ih h
  | rest wake held next ih => exact ⟨fun world => ⟨h.1 world.plain, rfl⟩, ih h.2⟩
  | panic reason => trivial

/-! ### Under a context -/

/-- Bound work that leaves the journal alone. -/
theorem Context.ensures_run_quiet {context : Context} {good : α → Prop}
    {always : List (Moment (Noted σ) ε) → World (Noted σ) → Prop}
    {post : List (Moment (Noted σ) ε) → Except ContextEnd α → World (Noted σ) → Prop}
    {past : List (Moment (Noted σ) ε)} {world : World (Noted σ)} {task : Task (Noted σ) ε α}
    (keeps : task.Keeps World.SameJournal good)
    (steady : ∀ past after, after.journal = world.journal → always past after)
    (ended : ∀ past ending after, after.journal = world.journal → context.SeenEnded past ending →
      post past (.error ending) after)
    (finish : ∀ past value after, after.journal = world.journal → good value →
      post past (.ok value) after) :
    (context.run .none task).Ensures World.Alongside always post past world :=
  ensures_run (fun after => after.journal = world.journal) World.Alongside.eq World.SameJournal.eq
    steady ended finish (Cleanup.keeps_none World.sameJournal_refl) keeps rfl

/-- What an exchange under a context may make of a journal. -/
inductive Journal.Exchanged (context : Context) (request : Request) (before : Journal σ) :
    Journal σ → Prop where
  | idle : Exchanged context request before before
  | handed {world : World σ} : context.endedIn? world = none →
      Exchanged context request before (before.hand world request)
  | answered {world after : World σ} {outcome : ExchangeResult σ} :
      context.endedIn? world = none →
      Exchanged context request before ((before.hand world request).answer after outcome)

section Exchange

variable {context : Context} {request : Request} {before : Journal σ}
  {always : List (Moment (Noted σ) Event) → World (Noted σ) → Prop}
  {post : List (Moment (Noted σ) Event) → Except ContextEnd (ExchangeResult (Noted σ)) →
    World (Noted σ) → Prop}
  {past : List (Moment (Noted σ) Event)} {world : World (Noted σ)}

namespace Context

/-- What is known of the result of bound work. -/
def Gives (context : Context) (good : α → Prop) (past : List (Moment (Noted σ) Event)) :
    Except ContextEnd α → Prop
  | .error ending => context.SeenEnded past ending
  | .ok value => good value

/-- One exchange under a context, moment by moment. The request is handed over if the context has not ended
when the exchange is due. While it is under way, each moment sees the journal with the request and without
its outcome; an outcome that comes back is the one that the journal tells of. -/
theorem ensures_run_exchange (base : Executor σ) (request : Request)
    (now : always past world) (looked : always (past ++ [⟨world, none⟩]) world)
    (underway : ∀ now after, context.endedIn? world = none →
      after.journal = world.journal.hand world.plain request →
      Since (fun moment => moment.world.journal = world.journal.hand world.plain request)
        (past ++ [⟨world, none⟩]) now → always now after)
    (ended : ∀ now ending after, Journal.Exchanged context request world.journal after.journal →
      context.SeenEnded now ending → post now (.error ending) after)
    (finish : ∀ now outcome after, context.endedIn? world = none →
      after.journal = (world.journal.hand world.plain request).answer after.plain outcome →
      Since (fun moment => moment.world.journal = world.journal.hand world.plain request)
        (past ++ [⟨world, none⟩]) now →
      always now after ∧ post now (.ok (outcome.map Response.noted)) after) :
    (context.run .none (base.recording request)).Ensures World.Alongside always post past world := by
  rw [run_eq_resume]
  refine ⟨now, ?_⟩
  dsimp only
  cases live : context.endedIn? world with
  | some ending =>
      have seen : context.SeenEnded (past ++ [⟨world, none⟩]) ending := .last live
      exact ⟨looked, looked, ended _ _ _ .idle seen⟩
  | none =>
      -- From here on the request is with the executor.
      refine ⟨looked, ?_⟩
      dsimp only
      rw [guard_bind]
      let handed := world.journal.hand world.plain request
      have exchange : (context.guard (base request).noted).Ensures World.Alongside
          (fun _ after => after.journal = handed)
          (fun now result _ => context.Gives (fun _ => True) now result) (past ++ [⟨world, none⟩])
          (world.plain.noted handed) :=
        ensures_guard (fun after => after.journal = handed) World.Alongside.eq World.SameJournal.eq
          (fun _ _ same => same) (fun _ _ _ _ seen => seen) (fun _ _ _ _ _ => trivial)
          (Task.keeps_noted (base request)) rfl
      have told := exchange.since (fun after => after.journal = handed) (fun _ _ same => same)
        (.refl _ _)
      refine .bind ((told.mono ?_).weaken ?_)
      · rintro now result after ⟨same, journals⟩ gives
        have going := underway now after live same journals
        cases result with
        | error ending =>
            refine ⟨going, ended now ending after ?_ gives⟩
            rw [same]
            exact .handed live
        | ok outcome =>
            have answered : (after.plain.noted (after.journal.answer after.plain outcome)).journal =
                handed.answer after.plain outcome := by
              rw [World.journal_noted, same]
            exact ⟨going, finish now outcome _ live answered journals⟩
      · rintro now after ⟨same, journals⟩
        exact underway now after live same journals

/-- An exchange under a context. The request is handed over only while the context has not ended;
an outcome that comes back is the one that the journal tells of. -/
theorem ensures_run_recording (base : Executor σ)
    (steady : ∀ past world, Journal.Exchanged context request before world.journal →
      always past world)
    (ended : ∀ past ending world, Journal.Exchanged context request before world.journal →
      context.SeenEnded past ending → post past (.error ending) world)
    (finish : ∀ past handed after outcome world, context.endedIn? handed = none →
      world.journal = (before.hand handed request).answer after outcome →
      post past (.ok (outcome.map Response.noted)) world)
    (h : world.journal = before) :
    (context.run .none (base.recording request)).Ensures World.Alongside always post past world := by
  subst h
  refine ensures_run_exchange base request (steady _ _ .idle) (steady _ _ .idle) ?_ ended ?_
  · intro now after live same _
    refine steady now after ?_
    rw [same]
    exact .handed live
  · intro now outcome after live answered _
    refine ⟨steady _ _ ?_, finish _ _ _ _ _ live answered⟩
    rw [answered]
    exact .answered live

end Context

end Exchange
end ResilientHttp

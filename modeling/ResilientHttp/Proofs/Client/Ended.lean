import ResilientHttp.Proofs.Client.Terms
import ResilientHttp.Proofs.Context.Tree
import ResilientHttp.Proofs.Retry.Looking
import ResilientHttp.Proofs.Site

/-!
What is sent under contexts that may end at any moment. Any number of calls are under way together, over
any stacks of policies, on executors that keep one journal. Meanwhile contexts are cancelled, by the
executors themselves too, new ones are derived, and the time passes.

* `Client.careful` — the discipline of calls that take turns: one thing that happens, by one call or by the
  others, hands over only requests that are bound to the context of that call, while it has not ended.
* `Client.Call.looksFirst` — a call looks at its context right before it hands a request over. So where
  others may act in the midst of its turn as well, no more can come in between than the end of its context.
* `Client.handed_while_live` — both for everything that happens from the first call on; and once a
  context has ended nothing is sent any more that is bound to it or to a context that comes from it, but for
  the request of a call that had looked just before.
-/

namespace ResilientHttp

variable {ι σ τ : Type}

/-- From one world to another time goes on, and all that is handed over meanwhile is bound to one of
certain contexts that has not ended at that moment. -/
structure World.Proceeds (bound : Context → Prop) (world after : World (Noted σ)) : Prop where
  onward : world.plain.Onward after.plain
  handed : ∃ entries, after.journal.handed = world.journal.handed ++ entries ∧
    ∀ entry ∈ entries, bound entry.2.context ∧ entry.2.context.endedIn? entry.1 = none ∧
      world.plain.Onward entry.1

namespace World

variable {bound : Context → Prop} {first second third world after : World (Noted σ)}

theorem proceeds_of_quiet (onward : world.plain.Onward after.plain)
    (quiet : after.journal.handed = world.journal.handed) : world.Proceeds bound after :=
  ⟨onward, [], by rw [quiet, List.append_nil], List.forall_mem_nil _⟩

theorem proceeds_refl (bound : Context → Prop) (world : World (Noted σ)) :
    world.Proceeds bound world :=
  proceeds_of_quiet world.plain.onward_refl rfl

theorem Proceeds.trans (h : first.Proceeds bound second) (h' : second.Proceeds bound third) :
    first.Proceeds bound third := by
  obtain ⟨early, hearly, live⟩ := h.handed
  obtain ⟨late, hlate, live'⟩ := h'.handed
  refine ⟨h.onward.trans h'.onward, early ++ late, by rw [hlate, hearly, List.append_assoc], ?_⟩
  intro entry mem
  rcases List.mem_append.mp mem with mem | mem
  · exact live entry mem
  · obtain ⟨hbound, unended, onward⟩ := live' entry mem
    exact ⟨hbound, unended, h.onward.trans onward⟩

theorem Proceeds.mono {other : Context → Prop} (h : world.Proceeds bound after)
    (weaker : ∀ context, bound context → other context) : world.Proceeds other after := by
  obtain ⟨entries, grown, live⟩ := h.handed
  exact ⟨h.onward, entries, grown, fun entry mem => (live entry mem).imp_left (weaker _)⟩

end World

/-! ### One call -/

/-- The terms of a call under a context: whatever the others do, it hands over nothing but requests
that are bound to the context, while the context has not ended. -/
def Context.careful (context : Context) : Terms (Noted σ) Event where
  rely _ _ := True
  guar := World.Proceeds (context = ·)
  tells _ _ := True
  rests _ := True
  leaves _ := True

namespace Context

variable {context : Context}

/-- To give a response up hands nothing over. -/
def Quiet (context : Context) (response : Response (Noted σ) Event) (_ : World (Noted σ)) : Prop :=
  ∀ world, response.held.Leaves context.careful world

theorem idling_careful : (context.careful : Terms (Noted σ) Event).Idling context.Quiet where
  stays _ _ _ _ := trivial
  still world _ := world.proceeds_refl _
  tells _ _ _ := trivial
  rests _ _ := trivial
  waits _ _ _ quiet _ := quiet
  gives _ world quiet := quiet world

theorem lasting_careful {α : Type} :
    (context.careful : Terms (Noted σ) Event).Lasting fun (_ : α) _ => True where
  rely_refl _ := trivial
  rely_trans _ _ _ _ _ := trivial
  guar_refl world := world.proceeds_refl _
  guar_trans _ _ _ := World.Proceeds.trans
  rests _ _ _ _ := trivial
  post _ _ _ _ _ := trivial

/-- A recorded exchange hands over its request and nothing else. -/
theorem serves_recording {base : Executor σ} (moves : base.Moves World.Onward) :
    base.recording.Serves context.careful context.Quiet context := by
  rintro request world rfl - live
  have exchange : ∀ world, (base request).noted.Abides request.context.careful
      (fun outcome _ => (∀ response, outcome = .ok response →
        response.held.Keeps World.Onward) ∧ True) world :=
    fun world => .of_keeps (fun _ => True)
      (fun _ _ _ kept => ⟨World.proceeds_of_quiet kept.1 (congrArg _ kept.2), trivial⟩)
      (fun _ _ _ _ => trivial) (fun _ _ _ => trivial) (fun _ _ => trivial) (fun _ _ => trivial)
      (moves request).noted trivial
  refine ⟨⟨world.plain.onward_refl, [(world.plain, request)], rfl, ?_⟩,
    .bind ((exchange _).mono ?_)⟩
  · rintro _ (_ | ⟨_, ⟨⟩⟩)
    exact ⟨rfl, live, world.plain.onward_refl⟩
  · rintro outcome world ⟨held, -⟩
    refine ⟨World.proceeds_of_quiet world.plain.onward_refl rfl, ?_⟩
    cases outcome with
    | error error => trivial
    | ok response =>
        have onward := held response rfl
        exact fun world =>
          ⟨World.proceeds_of_quiet (onward world.plain) rfl, fun _ _ => trivial, trivial⟩

end Context

/-! ### Many calls -/

/-- What may happen where clients share an executor: they make calls, over any stack of policies, and
meanwhile contexts are cancelled and derived and the time passes. -/
def Client.calls (run : τ → Executor σ) :
    Crowd.Rules Context (Noted σ) Event (Except ClientError Reply) where
  goes := Task.Turns
  joins _ context task := ∃ (client : Client (Noted σ)) (stack : Transport τ),
    client.context = context ∧
      client.execute = stack.execute (fun sender => (run sender).recording) ∧ client.Call task
  follows _ _ := False
  others world later := world.plain.Onward later.plain ∧ later.journal = world.journal

/-- Cancelling any context, at any time, is something that may happen. -/
theorem Client.others_cancel (run : τ → Executor σ) (world : World (Noted σ)) (token : Token) :
    (Client.calls run).others world { world with tokens := world.tokens.cancel token } :=
  ⟨world.plain.onward_cancel token, rfl⟩

/-- Each call keeps the terms of its context, whatever the others do. -/
def Client.careful {run : τ → Executor σ} (moves : ∀ sender, (run sender).Moves World.Onward) :
    Crowd.Discipline (Client.calls run) where
  sound _ := True
  good world context task := task.AbidesAfter context.careful (fun _ _ => True) world
  apart _ _ := True
  moves actor := World.Proceeds (actor = some ·)
  symm := id
  joins := by
    rintro world later _ task next - ⟨client, stack, rfl, execute, call⟩ turns
    have serves : client.execute.Serves client.context.careful client.context.Quiet
        client.context := by
      rw [execute]
      exact Transport.serves_execute Context.idling_careful
        (fun sender => Context.serves_recording (moves sender)) stack
    have abides : task.AbidesAfter client.context.careful (fun _ _ => True) world :=
      fun _ _ => call.abides Context.idling_careful (fun _ _ _ => trivial) serves trivial
    exact (abides.turns Context.lasting_careful turns).imp_left
      fun proceeds => proceeds.mono fun _ => congrArg some
  fresh _ _ _ := trivial
  goes _ abides turns := (abides.turns Context.lasting_careful turns).imp_left
    fun proceeds => proceeds.mono fun _ => congrArg some
  follows _ _ := False.elim
  still _ world := world.proceeds_refl _
  gives _ abides := (abides.rest Context.lasting_careful).1.guar.mono fun _ => congrArg some
  others quiet := World.proceeds_of_quiet quiet.1 (congrArg _ quiet.2)
  lasts _ _ := trivial
  undisturbed _ _ abides := abides.of_rely Context.lasting_careful trivial

/-- Wherever calls have got, they keep their discipline, and all that was handed over since was handed over
under contexts that had not ended. -/
theorem Client.proceeds_of_reaches {run : τ → Executor σ}
    {crowd later : Crowd Context (Noted σ) Event (Except ClientError Reply)}
    (moves : ∀ sender, (run sender).Moves World.Onward)
    (reaches : Crowd.Reaches (Client.calls run) crowd later) (holds : (Client.careful moves).Holds crowd) :
    (Client.careful moves).Holds later ∧ crowd.world.Proceeds (fun _ => True) later.world := by
  have lasts : ∀ actor middle after, (Client.careful moves).Holds middle →
      Crowd.Step (Client.calls run) actor middle after →
      crowd.world.Proceeds (fun _ => True) middle.world →
      crowd.world.Proceeds (fun _ => True) after.world :=
    fun _ _ _ holds step proceeds =>
      proceeds.trans ((Crowd.Discipline.step step holds).2.mono fun _ _ => trivial)
  exact Crowd.Discipline.reaches lasts reaches holds (World.proceeds_refl _ _)

/-! ### Action by action -/

/-- Time goes on, and nothing is handed over. -/
def World.HandsNothing (world after : World (Noted σ)) : Prop :=
  world.plain.Onward after.plain ∧ after.journal.handed = world.journal.handed

/-- Time goes on, and one request is handed over that is bound to a context. -/
def Context.HandsOver (context : Context) (world after : World (Noted σ)) : Prop :=
  world.plain.Onward after.plain ∧ ∃ request, request.context = context ∧
    after.journal.handed = world.journal.handed ++ [(world.plain, request)]

theorem World.handsNothing_refl (world : World (Noted σ)) : world.HandsNothing world :=
  ⟨world.plain.onward_refl, rfl⟩

/-- A recorded executor hands its request over in its first action, and then nothing more. -/
theorem Executor.looksFirst_recording {base : Executor σ} (moves : base.Moves World.Onward)
    (context : Context) :
    base.recording.LooksFirst (·.context = context) (context.endedIn? · = none) World.HandsNothing
      context.HandsOver := by
  rintro request rfl
  have exchange : (base request).noted.Keeps World.HandsNothing _ :=
    (moves request).noted.mono (fun _ _ kept => ⟨kept.1, congrArg Journal.handed kept.2⟩) fun _ => id
  refine ⟨.inr ⟨trivial, fun world => ⟨world.plain.onward_refl, request, rfl, rfl⟩⟩, fun _ => ?_⟩
  refine Task.Keeps.looksFirst (exchange.bind fun outcome held => ?_) False
  refine ⟨fun world => ⟨world.plain.onward_refl, rfl⟩, fun _ response answered world => ?_⟩
  cases outcome with
  | error error => cases answered
  | ok own =>
      cases answered
      exact ⟨held own rfl world.plain, rfl⟩

namespace Client

section Looking

variable {live : World σ → Prop} {kept does : World σ → World σ → Prop} (same : ∀ world, kept world world)

include same

theorem looksFirst_dispatch {execute : Executor σ} {request : Request}
    (sees : ∀ world, request.context.endedIn? world = none → live world)
    (looks : (execute request).LooksFirst live kept does (ExchangeResult.Keeps kept) True) (seen : Prop) :
    (dispatch execute request).LooksFirst live kept does (fun _ => True) seen := by
  rw [dispatch_eq]
  refine (request.context.looksFirst_run (Cleanup.keeps_none same) sees looks).proceed
    (fun _ => trivial) ?_
  intro outcome held
  cases outcome with
  | error error => trivial
  | ok response => exact (keeps_drain (held response rfl)).looksFirst False

/-- A call looks at its context right before its executor does anything of a certain kind, if the executor
looks first whenever it does such a thing again. -/
theorem Call.looksFirst {client : Client σ} {task : Task σ Event (Except ClientError Reply)}
    (call : client.Call task) (sees : ∀ world, client.context.endedIn? world = none → live world)
    (looks : client.execute.LooksFirst (·.context = client.context) live kept does) (seen : Prop) :
    task.LooksFirst live kept does (fun _ => True) seen := by
  obtain ⟨make, rfl, bound⟩ := call.exists_make
  rw [call_eq]
  intro world
  dsimp only
  cases made : make world.defaults with
  | error error => trivial
  | ok request =>
      have own := bound _ _ made
      exact looksFirst_dispatch same (fun world => by rw [own]; exact sees world) (looks request own) _

end Looking

/-- Threads that are about to make calls, each with a client of its own, over any stack of policies. -/
structure Calling (run : τ → Executor σ) (clients : ι → Client (Noted σ))
    (threads : Threads ι (Noted σ) Event (Except ClientError Reply)) : Prop where
  stacked : ∀ i, ∃ stack : Transport τ,
    (clients i).execute = stack.execute fun sender => (run sender).recording
  call : ∀ i task, threads.tasks i = some task → (clients i).Call task

section Threads

variable [DecidableEq ι] {run : τ → Executor σ} {clients : ι → Client (Noted σ)}
  {start mid threads : Threads ι (Noted σ) Event (Except ClientError Reply)}
  {deeds more : List (Deed ι (Noted σ))}
  (moves : ∀ sender, (run sender).Moves World.Onward) (calling : Calling run clients start)

include moves calling

/-- In every run of calls, a call looks at its context right before it hands a request over. -/
theorem Calling.looked (runs : Threads.Runs (calls run).others start deeds threads) :
    Threads.Looked (fun i world => (clients i).context.endedIn? world = none) World.HandsNothing
      (fun i => (clients i).context.HandsOver) (fun _ => True) deeds threads := by
  refine Threads.looked_of_runs (fun i task begins => ?_) runs
  have looks : (clients i).execute.LooksFirst (·.context = (clients i).context)
      ((clients i).context.endedIn? · = none) World.HandsNothing (clients i).context.HandsOver := by
    obtain ⟨stack, execute⟩ := calling.stacked i
    rw [execute]
    refine stack.looksFirst_execute World.handsNothing_refl ?_ (fun _ _ _ => id)
      fun sender => Executor.looksFirst_recording (moves sender) _
    rintro request own world
    rw [own]
    exact id
  exact (calling.call i task begins).looksFirst World.handsNothing_refl (fun _ => id) looks False

/-- In every run of calls time goes on. -/
theorem Calling.along (runs : Threads.Runs (calls run).others start deeds mid)
    (goesOn : Threads.Runs (calls run).others mid more threads) :
    Deed.Along (fun world later => world.plain.Onward later.plain) mid.world more threads.world := by
  refine goesOn.along
    (fun first second third (h : first.plain.Onward second.plain) (h' : second.plain.Onward third.plain) =>
      h.trans h')
    (fun world => world.plain.onward_refl) (fun _ _ quiet => quiet.1) fun deed mem => ?_
  obtain ⟨earlier, later, rfl⟩ := List.append_of_mem mem
  have first : (deeds ++ earlier) ++ [deed] <+: deeds ++ (earlier ++ deed :: later) := ⟨later, by simp⟩
  rcases (calling.looked moves (runs.trans goesOn)).past _ deed first with (same | nothing) | ⟨hands, -⟩
  · rw [same]
    exact deed.before.plain.onward_refl
  · exact nothing.1
  · exact hands.1

/-- Once a context has ended, a call that is bound to it or to one that comes from it hands nothing over any
more, if it has done anything since. -/
theorem Calling.not_under {ended : Context} {earlier : List (Deed ι (Noted σ))}
    {deed other : Deed ι (Noted σ)} (runs : Threads.Runs (calls run).others start deeds mid)
    (hended : ended.endedIn? mid.world ≠ none)
    (goesOn : Threads.Runs (calls run).others mid more threads) (first : earlier ++ [deed] <+: more)
    (hands : deed.after.journal.handed ≠ deed.before.journal.handed) (mem : other ∈ earlier)
    (same : other.thread = deed.thread) :
    ¬ (clients deed.thread).context.Under mid.world.tokens ended ∧
      ¬ (clients deed.thread).context.Under other.before.tokens ended := by
  have along := calling.along moves runs goesOn
  suffices notUnder : ¬ (clients deed.thread).context.Under other.before.tokens ended by
    refine ⟨fun under => ?_, notUnder⟩
    have since := along.since other (((List.prefix_append earlier [deed]).trans first).subset mem)
    have before : (clients deed.thread).context.Under mid.world.plain.tokens ended := under
    exact notUnder (before.onward since)
  intro under
  have whole : (deeds ++ earlier) ++ [deed] <+: deeds ++ more := by
    rw [List.append_assoc]
    exact (List.prefix_append_right_inj deeds).mpr first
  rcases (calling.looked moves (runs.trans goesOn)).past _ deed whole with
    (still | nothing) | ⟨-, look, last, -, live⟩
  · exact hands (congrArg (World.journal · |>.handed) still)
  · exact hands nothing.2
  · -- The look was among the deeds since the end, and none of the call's own deeds came after it.
    rw [Deed.last?_append ⟨other, mem, same⟩] at last
    obtain ⟨front, split⟩ := List.getLast?_eq_some_iff.mp last
    have own : other ∈ front ++ [look] := by
      rw [← split]
      exact List.mem_filter.mpr ⟨mem, by simpa using same⟩
    have sub : (front ++ [look]).Sublist more := by
      rw [← split]
      exact List.filter_sublist.trans ((List.prefix_append earlier [deed]).trans first).sublist
    have since := along.since look (sub.subset (List.mem_append_right _ (List.mem_singleton.mpr rfl)))
    have reached : other.before.plain.Onward look.before.plain := by
      rcases List.mem_append.mp own with old | new
      · exact (List.pairwise_append.mp (along.order.sublist sub)).2.2 other old look
          (List.mem_singleton.mpr rfl)
      · rw [List.mem_singleton.mp new]
        exact look.before.plain.onward_refl
    have before : (clients deed.thread).context.Under other.before.plain.tokens ended := under
    have unended : ended.endedIn? mid.world.plain = none :=
      Context.endedIn?_onward since ((before.onward reached).endedIn? live)
    exact hended unended

end Threads

/-! ### Both -/

/-- Whatever happens where clients share an executor. If the others act only where a call rests, every request
is handed over under a context that is not cancelled, and strictly before its deadline; each thing that happens
hands over only what is bound to the context of the call that does it; and once a context has ended, nothing is
handed over that is bound to it or to a context under it, whether that was derived before or after.

If the others act between any two actions of a call, its context may be cancelled between its last look and the
hand-over. Then the last thing that a call did before it hands over a request was to look at its context, which
was not cancelled then, and at the clock, which was strictly before the deadline; and once a context has ended,
no call that is bound to it or to a context under it hands anything over after it has done anything else. -/
theorem handed_while_live [DecidableEq ι] {run : τ → Executor σ}
    (moves : ∀ sender, (run sender).Moves World.Onward) :
    (∀ start crowd : Crowd Context (Noted σ) Event (Except ClientError Reply),
      start.members = [] → start.world.journal = .empty → Crowd.Reaches (calls run) start crowd →
      (∀ entry ∈ crowd.world.journal.handed,
        entry.1.tokens.isCancelled entry.2.context.token = false ∧
          ∀ limit, entry.2.context.deadline = some limit → entry.1.now < limit) ∧
      (∀ actor after, Crowd.Step (calls run) actor crowd after →
        ∃ entries, after.world.journal.handed = crowd.world.journal.handed ++ entries ∧
          ∀ entry ∈ entries, actor = some entry.2.context) ∧
      ∀ ended : Context, ended.endedIn? crowd.world ≠ none → ∀ later,
        Crowd.Reaches (calls run) crowd later →
        ∃ entries, later.world.journal.handed = crowd.world.journal.handed ++ entries ∧
          ∀ entry ∈ entries, ¬ entry.2.context.Under crowd.world.tokens ended ∧
            ¬ entry.2.context.Under entry.1.tokens ended) ∧
    ∀ (clients : ι → Client (Noted σ))
      (start mid threads : Threads ι (Noted σ) Event (Except ClientError Reply))
      (deeds more : List (Deed ι (Noted σ))),
      Calling run clients start → Threads.Runs (calls run).others start deeds mid →
      Threads.Runs (calls run).others mid more threads →
      (∀ earlier deed, earlier ++ [deed] <+: deeds →
        deed.after.journal.handed = deed.before.journal.handed ∨
        ∃ request look,
          deed.after.journal.handed = deed.before.journal.handed ++ [(deed.before.plain, request)] ∧
          request.context = (clients deed.thread).context ∧
          Deed.last? deed.thread earlier = some look ∧ look.after = look.before ∧
          look.before.tokens.isCancelled request.context.token = false ∧
          ∀ limit, request.context.deadline = some limit → look.before.now < limit) ∧
      ∀ ended : Context, ended.endedIn? mid.world ≠ none →
        ∀ earlier deed, earlier ++ [deed] <+: more →
          deed.after.journal.handed ≠ deed.before.journal.handed →
          ∀ other ∈ earlier, other.thread = deed.thread →
            ¬ (clients deed.thread).context.Under mid.world.tokens ended ∧
              ¬ (clients deed.thread).context.Under other.before.tokens ended := by
  constructor
  · intro start crowd alone fresh reaches
    obtain ⟨holds, proceeds⟩ := proceeds_of_reaches moves reaches ⟨trivial, by simp [alone], by simp [alone]⟩
    refine ⟨fun entry mem => ?_, fun actor after step => ?_, fun ended hended later reaches => ?_⟩
    · obtain ⟨entries, grown, live⟩ := proceeds.handed
      rw [grown, fresh] at mem
      exact Context.endedIn?_eq_none_iff_live.mp (live entry mem).2.1
    · obtain ⟨entries, grown, live⟩ := (Crowd.Discipline.step step holds).2.handed
      exact ⟨entries, grown, fun entry mem => (live entry mem).1⟩
    · obtain ⟨entries, grown, live⟩ := (proceeds_of_reaches moves reaches holds).2.handed
      refine ⟨entries, grown, fun entry mem => ?_⟩
      obtain ⟨-, unended, onward⟩ := live entry mem
      -- A context that had ended before the request was handed over had still ended then.
      have notUnder : ¬ entry.2.context.Under entry.1.tokens ended := by
        intro under
        have live : ended.endedIn? crowd.world.plain = none :=
          Context.endedIn?_onward onward (under.endedIn? unended)
        exact hended live
      refine ⟨fun under => ?_, notUnder⟩
      have before : entry.2.context.Under crowd.world.plain.tokens ended := under
      exact notUnder (before.onward onward)
  · intro clients start mid threads deeds more calling runs goesOn
    refine ⟨fun earlier deed first => ?_, fun ended hended earlier deed first hands other mem same =>
      calling.not_under moves runs hended goesOn first hands mem same⟩
    rcases (calling.looked moves runs).past earlier deed first with
      (still | nothing) | ⟨⟨-, request, own, grown⟩, look, last, still, live⟩
    · exact .inl (congrArg (World.journal · |>.handed) still)
    · exact .inl nothing.2
    · obtain ⟨uncancelled, early⟩ := Context.endedIn?_eq_none_iff_live.mp live
      exact .inr ⟨request, look, grown, own, last, still, own ▸ uncancelled, own ▸ early⟩

/-- A call under a derived context waits for its second attempt when the context that its own was derived
from is cancelled. Nothing more is handed over for it; and if it is looked at action by action, it had looked at
its own context right before its first attempt. -/
theorem handed_before_cancelled :
    let derived := (Context.mk 0 none).child Site.recoveringWorld.tokens
    let client : Client (Noted Site) := ⟨derived.1,
      (Transport.retrying .default .tracing (.base ())).execute fun _ =>
        Site.recoveringExecutor.recording⟩
    let run : Unit → Executor Site := fun _ => Site.recoveringExecutor
    let start : World (Noted Site) :=
      World.noted { Site.recoveringWorld with tokens := derived.2 } .empty
    let waiting := (client.get "site:status").turn start
    let cancelled : World (Noted Site) :=
      { waiting.2 with tokens := waiting.2.tokens.cancel 0 }
    let begun : Threads Unit (Noted Site) Event (Except ClientError Reply) :=
      ⟨start, fun _ => some (client.get "site:status")⟩
    let turn := begun.resume ()
    let stopped : World (Noted Site) := { turn.2.world with tokens := turn.2.world.tokens.cancel 0 }
    (cancelled.journal.handed.length = 1 ∧
      ∀ later, Crowd.Reaches (calls run) ⟨cancelled, [⟨derived.1, waiting.1⟩]⟩ later →
        ∃ entries, later.world.journal.handed = cancelled.journal.handed ++ entries ∧
          ∀ entry ∈ entries, entry.2.context ≠ derived.1) ∧
    (∃ earlier deed look, earlier ++ [deed] <+: turn.1 ∧ deed.after.journal.handed.length = 1 ∧
      Deed.last? () earlier = some look ∧ look.before.tokens.isCancelled derived.1.token = false) ∧
    ∀ more threads, Threads.Runs (calls run).others { turn.2 with world := stopped } more threads →
      ∀ earlier deed, earlier ++ [deed] <+: more → earlier ≠ [] →
        deed.after.journal.handed = deed.before.journal.handed := by
  intro derived client run start waiting cancelled begun turn stopped
  have moves : Site.recoveringExecutor.Moves World.Onward := by
    refine Script.moves_executor "site" World.onward_refl
      (fun _ => ⟨Nat.le_refl _, fun _ => id, fun _ _ => id⟩) ?_
    rintro (_ | token) world
    · exact world.onward_refl
    · exact world.onward_cancel token
  have ended : (Context.mk 0 none).endedIn? cancelled = some .cancelled := by decide +kernel
  have parent : cancelled.tokens.parent? 2 = some 0 := by decide +kernel
  have under : Context.Under cancelled.tokens derived.1 ⟨0, none⟩ :=
    ⟨.derived parent (by decide) .same, nofun⟩
  have calling : Calling run (fun _ => client) begun :=
    ⟨fun _ => ⟨.retrying .default .tracing (.base ()), rfl⟩, by rintro _ _ ⟨⟩; exact .get⟩
  have runs : Threads.Runs (calls run).others begun turn.1 turn.2 := Threads.Runs.start.resumed ()
  have goesOn : Threads.Runs (calls run).others begun turn.1 { turn.2 with world := stopped } :=
    runs.others (others_cancel run turn.2.world 0)
  obtain ⟨turns, actions⟩ := @handed_while_live Unit Site Unit _ run fun _ => moves
  refine ⟨⟨by decide +kernel, fun later reached => ?_⟩, ?_, fun more threads later => ?_⟩
  · have joins : (calls run).joins start derived.1 (client.get "site:status") :=
      ⟨client, .retrying .default .tracing (.base ()), rfl, rfl, .get⟩
    have reaches : Crowd.Reaches (calls run) ⟨start, []⟩ ⟨cancelled, [⟨derived.1, waiting.1⟩]⟩ :=
      .tail (.single ⟨_, .joined joins .begun⟩) ⟨none, .others (others_cancel _ waiting.2 0)⟩
    obtain ⟨-, -, law⟩ := turns _ _ rfl rfl reaches
    obtain ⟨entries, grown, live⟩ := law ⟨0, none⟩ (by rw [ended]; nofun) later reached
    refine ⟨entries, grown, fun entry mem same => ?_⟩
    have notUnder := (live entry mem).1
    rw [same] at notUnder
    exact notUnder under
  · have fifth : (turn.1[4]?.map fun deed =>
        (deed.before.journal.handed.length, deed.after.journal.handed.length)) = some (0, 1) := by
      decide +kernel
    obtain ⟨deed, found, counts⟩ := Option.map_eq_some_iff.mp fifth
    obtain ⟨before, after⟩ := Prod.mk.inj counts
    have first : turn.1.take 4 ++ [deed] <+: turn.1 := by
      have five : turn.1.take 5 = turn.1.take 4 ++ [deed] := by rw [List.take_add_one, found]; rfl
      rw [← five]
      exact List.take_prefix 5 turn.1
    refine ⟨turn.1.take 4, deed, ?_⟩
    rcases (actions _ _ _ _ _ _ calling runs .start).1 _ _ first with same | looked
    · rw [same, before] at after
      cases after
    · obtain ⟨request, look, -, own, last, -, uncancelled, -⟩ := looked
      rw [own] at uncancelled
      exact ⟨look, first, after, last, uncancelled⟩
  · intro earlier deed first busy
    obtain ⟨other, mem⟩ := List.exists_mem_of_ne_nil _ busy
    by_contra hands
    have ended : (Context.mk 0 none).endedIn? stopped = some .cancelled := by decide +kernel
    have law := (actions _ _ _ _ _ _ calling goesOn later).2 ⟨0, none⟩ (by rw [ended]; nofun)
    have parent : stopped.tokens.parent? 2 = some 0 := by decide +kernel
    have under : Context.Under stopped.tokens derived.1 ⟨0, none⟩ :=
      ⟨.derived parent (by decide) .same, nofun⟩
    exact (law earlier deed first hands other mem rfl).1 under

end Client
end ResilientHttp

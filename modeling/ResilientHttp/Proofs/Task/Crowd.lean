import Mathlib.Logic.Relation
import ResilientHttp.Proofs.Task.Terms

/-!
Tasks that are under way together. In a `Crowd` the members go on in any order. How far one of them goes
before it is the turn of others is for the rules to say: to its next rest (`Task.Turns`), or by a single
action. Tasks join at any time, members are abandoned where they rest, the owner of a value may go on with
it, and others change the world in between. `Crowd.Step` is one of these things, with the label of the
member that does it; `Crowd.Reaches` is any number of them.

* `Crowd.Discipline` says what holds of each member, and why it still does after any one thing that
  happens; `Discipline.step` and `Discipline.reaches` are what follows for the whole crowd.
* `Abides.guar_turn`, `Abides.abidesAfter_turn` — a turn of a task on terms is something that the terms
  allow, and after it the task keeps its terms whatever the others do on theirs.
-/

namespace ResilientHttp

variable {ι σ ε α : Type}

/-- A turn of a task: it goes on until it rests or is over. -/
def Task.turn : Task σ ε α → World σ → Task σ ε α × World σ
  | .done value, world => (.done value, world)
  | .look next, world => (next world).turn world
  | .change act next, world => (next world).turn (act world)
  | .emit _ next, world => next.turn world
  | .rest wake held next, world => (.rest wake held next, world)
  | .panic reason, world => (.panic reason, world)

/-- A task goes on for a turn, if it does not rest or is woken. -/
inductive Task.Turns : Task σ ε α → World σ → Task σ ε α → World σ → Prop where
  | begun {task : Task σ ε α} {world : World σ} :
      Turns task world (task.turn world).1 (task.turn world).2
  | woken {wake : Wake σ} {held : Cleanup σ ε} {next : Task σ ε α} {world : World σ} :
      wake.isDue world = true → Turns (.rest wake held next) world (next.turn world).1 (next.turn world).2

/-- A task in a crowd. -/
structure Member (ι σ ε α : Type) where
  label : ι
  task : Task σ ε α

/-- Tasks that are under way together, in a world that they share. -/
structure Crowd (ι σ ε α : Type) where
  world : World σ
  members : List (Member ι σ ε α)

namespace Crowd

/-- What may happen in a crowd. -/
structure Rules (ι σ ε α : Type) where
  /-- How far a member goes at once. -/
  goes : Task σ ε α → World σ → Task σ ε α → World σ → Prop
  /-- Which tasks may join in a world, and as what. -/
  joins : World σ → ι → Task σ ε α → Prop
  /-- How the owner of a value may go on with it. -/
  follows : α → Task σ ε α → Prop
  /-- What others than the members may do. -/
  others : World σ → World σ → Prop

/-- One thing that happens in a crowd, and the label of the member that does it. -/
inductive Step (rules : Rules ι σ ε α) : Option ι → Crowd ι σ ε α → Crowd ι σ ε α → Prop where
  | joined {world later : World σ} {members : List (Member ι σ ε α)} {label : ι}
      {task next : Task σ ε α} :
      rules.joins world label task → rules.goes task world next later →
      Step rules (some label) ⟨world, members⟩ ⟨later, members ++ [⟨label, next⟩]⟩
  | went {world later : World σ} {before after : List (Member ι σ ε α)} {label : ι}
      {task next : Task σ ε α} :
      rules.goes task world next later →
      Step rules (some label) ⟨world, before ++ ⟨label, task⟩ :: after⟩
        ⟨later, before ++ ⟨label, next⟩ :: after⟩
  | followed {world : World σ} {before after : List (Member ι σ ε α)} {label : ι} {value : α}
      {next : Task σ ε α} :
      rules.follows value next →
      Step rules (some label) ⟨world, before ++ ⟨label, .done value⟩ :: after⟩
        ⟨world, before ++ ⟨label, next⟩ :: after⟩
  | abandoned {world : World σ} {before after : List (Member ι σ ε α)} {label : ι} {wake : Wake σ}
      {held : Cleanup σ ε} {next : Task σ ε α} :
      Step rules (some label) ⟨world, before ++ ⟨label, .rest wake held next⟩ :: after⟩
        ⟨held.effect world, before ++ after⟩
  | others {world later : World σ} {members : List (Member ι σ ε α)} :
      rules.others world later → Step rules none ⟨world, members⟩ ⟨later, members⟩

/-- One crowd becomes another one, whoever does whatever. -/
def Reaches (rules : Rules ι σ ε α) : Crowd ι σ ε α → Crowd ι σ ε α → Prop :=
  Relation.ReflTransGen fun crowd later => ∃ actor, Step rules actor crowd later

/-- What holds of the members of a crowd, and why it lasts: each of the things that may happen keeps to
`moves`, which disturbs no member that is apart from the one that acts. -/
structure Discipline (rules : Rules ι σ ε α) where
  /-- What holds of the world. -/
  sound : World σ → Prop
  /-- What holds of a member in the world. -/
  good : World σ → ι → Task σ ε α → Prop
  /-- Which labels belong to different members. -/
  apart : ι → ι → Prop
  /-- What a member, or nobody of the crowd, may do to the world. -/
  moves : Option ι → World σ → World σ → Prop
  symm : ∀ {label other}, apart label other → apart other label
  joins : ∀ {world later label task next}, sound world → rules.joins world label task →
    rules.goes task world next later → moves (some label) world later ∧ good later label next
  fresh : ∀ {world label other task left}, sound world → rules.joins world label task →
    good world other left → apart other label
  goes : ∀ {world later label task next}, sound world → good world label task →
    rules.goes task world next later → moves (some label) world later ∧ good later label next
  follows : ∀ {world label value next}, sound world → good world label (.done value) →
    rules.follows value next → good world label next
  still : ∀ actor world, moves actor world world
  gives : ∀ {world label wake held next}, sound world → good world label (.rest wake held next) →
    moves (some label) world (held.effect world)
  others : ∀ {world later}, rules.others world later → moves none world later
  lasts : ∀ {actor world after}, moves actor world after → sound world → sound after
  undisturbed : ∀ {actor world after other task}, moves actor world after →
    (∀ label, actor = some label → apart label other) → good world other task →
    good after other task

namespace Discipline

variable {rules : Rules ι σ ε α} (discipline : Discipline rules) {actor : Option ι}
  {crowd after : Crowd ι σ ε α}

/-- A discipline holds in a crowd. -/
structure Holds (crowd : Crowd ι σ ε α) : Prop where
  sound : discipline.sound crowd.world
  good : ∀ member ∈ crowd.members, discipline.good crowd.world member.label member.task
  apart : crowd.members.Pairwise fun member other => discipline.apart member.label other.label

variable {discipline}

/-- Where one member acts, the others are not disturbed. -/
theorem Holds.beside {world later : World σ} {before behind : List (Member ι σ ε α)}
    {member : Member ι σ ε α} (h : discipline.Holds ⟨world, before ++ member :: behind⟩)
    (moves : discipline.moves (some member.label) world later) :
    discipline.Holds ⟨later, before ++ behind⟩ := by
  obtain ⟨first, second, between⟩ := List.pairwise_append.mp h.apart
  obtain ⟨ahead, second⟩ := List.pairwise_cons.mp second
  refine ⟨discipline.lasts moves h.sound, fun other mem => ?_, ?_⟩
  · refine discipline.undisturbed moves ?_ (h.good other ?_)
    · rintro _ ⟨⟩
      rcases List.mem_append.mp mem with mem | mem
      · exact discipline.symm (between other mem member List.mem_cons_self)
      · exact ahead other mem
    · exact List.mem_append.mpr ((List.mem_append.mp mem).imp_right (List.mem_cons_of_mem _))
  · exact List.pairwise_append.mpr ⟨first, second,
      fun other mem third mem' => between other mem third (List.mem_cons_of_mem _ mem')⟩

/-- The member that acts may have become another one. -/
theorem Holds.instead {world later : World σ} {before behind : List (Member ι σ ε α)} {label : ι}
    {task next : Task σ ε α} (h : discipline.Holds ⟨world, before ++ ⟨label, task⟩ :: behind⟩)
    (moves : discipline.moves (some label) world later) (good : discipline.good later label next) :
    discipline.Holds ⟨later, before ++ ⟨label, next⟩ :: behind⟩ := by
  have rest := h.beside moves
  refine ⟨rest.sound, fun member mem => ?_, ?_⟩
  · rcases List.mem_append.mp mem with mem | mem
    · exact rest.good member (List.mem_append_left _ mem)
    · rcases List.mem_cons.mp mem with rfl | mem
      · exact good
      · exact rest.good member (List.mem_append_right _ mem)
  · have apart := h.apart
    simp only [List.pairwise_append, List.pairwise_cons, List.forall_mem_cons] at apart ⊢
    exact apart

/-- Whatever happens in a crowd, its discipline lasts, and what happens is something that it allows. -/
theorem step (step : Step rules actor crowd after) (h : discipline.Holds crowd) :
    discipline.Holds after ∧ discipline.moves actor crowd.world after.world := by
  cases step with
  | @joined world later members label task next joins goes =>
      obtain ⟨moves, good⟩ := discipline.joins h.sound joins goes
      have apart : ∀ member ∈ members, discipline.apart member.label label :=
        fun member mem => discipline.fresh h.sound joins (h.good member mem)
      refine ⟨⟨discipline.lasts moves h.sound, fun member mem => ?_, ?_⟩, moves⟩
      · rcases List.mem_append.mp mem with mem | mem
        · refine discipline.undisturbed moves ?_ (h.good member mem)
          rintro _ ⟨⟩
          exact discipline.symm (apart member mem)
        · obtain rfl := List.mem_singleton.mp mem
          exact good
      · refine List.pairwise_append.mpr ⟨h.apart, List.pairwise_singleton _ _, ?_⟩
        rintro member mem _ (_ | ⟨_, ⟨⟩⟩)
        exact apart member mem
  | @went world later before behind label task next goes =>
      have mem : (⟨label, task⟩ : Member ι σ ε α) ∈ before ++ ⟨label, task⟩ :: behind :=
        List.mem_append_right _ List.mem_cons_self
      obtain ⟨moves, good⟩ := discipline.goes h.sound (h.good _ mem) goes
      exact ⟨h.instead moves good, moves⟩
  | @followed world before behind label value next follows =>
      have mem : (⟨label, .done value⟩ : Member ι σ ε α) ∈ before ++ ⟨label, .done value⟩ :: behind :=
        List.mem_append_right _ List.mem_cons_self
      have moves := discipline.still (some label) world
      exact ⟨h.instead moves (discipline.follows h.sound (h.good _ mem) follows), moves⟩
  | @abandoned world before behind label wake held next =>
      have mem : (⟨label, .rest wake held next⟩ : Member ι σ ε α) ∈
          before ++ ⟨label, .rest wake held next⟩ :: behind :=
        List.mem_append_right _ List.mem_cons_self
      have moves := discipline.gives h.sound (h.good _ mem)
      exact ⟨h.beside moves, moves⟩
  | @others world later members quiet =>
      have moves := discipline.others quiet
      refine ⟨⟨discipline.lasts moves h.sound, fun member mem => ?_, h.apart⟩, moves⟩
      exact discipline.undisturbed moves nofun (h.good member mem)

/-- The discipline lasts as long as the crowd goes on, and with it all that lasts by any one thing that
happens under it. -/
theorem reaches {always : Crowd ι σ ε α → Prop}
    (lasts : ∀ actor crowd after, discipline.Holds crowd → Step rules actor crowd after →
      always crowd → always after)
    (reaches : Reaches rules crowd after) (h : discipline.Holds crowd) (now : always crowd) :
    discipline.Holds after ∧ always after := by
  induction reaches with
  | refl => exact ⟨h, now⟩
  | tail _ next ih =>
      obtain ⟨actor, next⟩ := next
      exact ⟨(step next ih.1).1, lasts _ _ _ ih.1 next ih.2⟩

end Discipline
end Crowd

/-! ### Members on terms -/

/-- Terms under which a task can be one of a crowd: time may pass between any two of its turns. -/
structure Terms.Lasting (terms : Terms σ ε) (post : α → World σ → Prop) : Prop where
  rely_refl : ∀ world, terms.rely world world
  rely_trans : ∀ first second third, terms.rely first second → terms.rely second third →
    terms.rely first third
  guar_refl : ∀ world, terms.guar world world
  guar_trans : ∀ first second third, terms.guar first second → terms.guar second third →
    terms.guar first third
  rests : ∀ world later, terms.rests world → terms.rely world later → terms.rests later
  post : ∀ value world later, post value world → terms.rely world later → post value later

namespace Task

/-- A task keeps terms from any world on to which the others may have led. -/
def AbidesAfter (terms : Terms σ ε) (post : α → World σ → Prop) (task : Task σ ε α)
    (world : World σ) : Prop :=
  ∀ later, terms.rely world later → task.Abides terms post later

variable {terms : Terms σ ε} {post : α → World σ → Prop} {task : Task σ ε α} {world later : World σ}

theorem Abides.guar_turn (lasting : terms.Lasting post) (h : task.Abides terms post world) :
    terms.guar world (task.turn world).2 := by
  induction task generalizing world with
  | look next ih => exact ih world h
  | change act next ih => exact lasting.guar_trans _ _ _ h.1 (ih world h.2)
  | emit event next ih => exact ih h.2
  | done value => exact lasting.guar_refl world
  | rest wake held next => exact lasting.guar_refl world
  | panic reason => exact lasting.guar_refl world

/-- After its turn a task keeps its terms, whatever the others do meanwhile. -/
theorem Abides.abidesAfter_turn (lasting : terms.Lasting post) (h : task.Abides terms post world) :
    (task.turn world).1.AbidesAfter terms post (task.turn world).2 := by
  induction task generalizing world with
  | look next ih => exact ih world h
  | change act next ih => exact ih world h.2
  | emit event next ih => exact ih h.2
  | done value => exact fun later hrely => lasting.post value world later h hrely
  | rest wake held next =>
      intro later hrely
      exact ⟨lasting.rests world later h.1 hrely,
        fun after hrely' => h.2 after (lasting.rely_trans _ _ _ hrely hrely')⟩
  | panic reason => exact fun later hrely => lasting.rests world later h hrely

theorem AbidesAfter.of_rely (h : task.AbidesAfter terms post world) (lasting : terms.Lasting post)
    (hrely : terms.rely world later) : task.AbidesAfter terms post later :=
  fun after hrely' => h after (lasting.rely_trans _ _ _ hrely hrely')

theorem AbidesAfter.now (h : task.AbidesAfter terms post world) (lasting : terms.Lasting post) :
    task.Abides terms post world :=
  h world (lasting.rely_refl world)

/-- A member that rests keeps its terms both when it is woken and when it is abandoned. -/
theorem AbidesAfter.rest {wake : Wake σ} {held : Cleanup σ ε} {next : Task σ ε α}
    (h : (Task.rest wake held next).AbidesAfter terms post world) (lasting : terms.Lasting post) :
    held.Leaves terms world ∧ (wake.isDue world = true → next.Abides terms post world) :=
  (h.now lasting).2 world (lasting.rely_refl world)

/-- In each turn a member does something that its terms allow, and keeps them after it. -/
theorem AbidesAfter.turns {next : Task σ ε α} (h : task.AbidesAfter terms post world)
    (lasting : terms.Lasting post) (turns : task.Turns world next later) :
    terms.guar world later ∧ next.AbidesAfter terms post later := by
  cases turns with
  | begun =>
      have now := h.now lasting
      exact ⟨now.guar_turn lasting, now.abidesAfter_turn lasting⟩
  | woken due =>
      have goesOn := (h.rest lasting).2 due
      exact ⟨goesOn.guar_turn lasting, goesOn.abidesAfter_turn lasting⟩

end Task
end ResilientHttp

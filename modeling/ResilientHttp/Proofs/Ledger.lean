import ResilientHttp.Proofs.Retry.Terms
import ResilientHttp.Proofs.Task.Beside

/-!
Who has which response. `Executor.lending` is any executor with a ledger beside the site: the ledger
lists, the newest first, when the executor was handed a request, when it gave a response, and when a
response was given up. The responses are numbered in the order in which they are given.

* `Orderly` — a ledger by which nobody has two responses at once, nor gives one up twice;
  `Orderly.released_add_unreleased` counts what that means for each response.
* `serves_lending` — one exchange keeps the ledger in order, and leaves one response to be released if it
  gives one.
-/

namespace ResilientHttp

variable {σ ε α : Type}

/-- What is written down of an executor and its responses. -/
inductive Mark where
  | handed
  | given (number : Nat) (status : Status)
  | released (number : Nat)
  deriving DecidableEq, Repr

/-- All marks, the newest first. -/
abbrev Ledger := List Mark

namespace Ledger

/-- How many responses were given. -/
def givenCount : Ledger → Nat
  | [] => 0
  | .given _ _ :: older => givenCount older + 1
  | .handed :: older => givenCount older
  | .released _ :: older => givenCount older

/-- The numbers of the responses that were given and not released since. -/
def unreleased : Ledger → List Nat
  | [] => []
  | .given number _ :: older => number :: unreleased older
  | .handed :: older => unreleased older
  | .released number :: older => (unreleased older).erase number

/-- Every response that was given was released, and not twice. -/
def Settled (ledger : Ledger) : Prop :=
  ∀ number status, .given number status ∈ ledger → ledger.count (.released number) = 1

/-- Nothing is handed over or given while a response is still to be released; each response has its own
number; and what is released is the response that is still to be released. -/
inductive Orderly : Ledger → Prop where
  | blank : Orderly []
  | handed {older : Ledger} : Orderly older → older.unreleased = [] → Orderly (.handed :: older)
  | given {older : Ledger} {status : Status} : Orderly older → older.unreleased = [] →
      Orderly (.given older.givenCount status :: older)
  | released {older : Ledger} {number : Nat} : Orderly older → older.unreleased = [number] →
      Orderly (.released number :: older)

/-- The ledger is in order and nothing is still to be released. -/
structure Idle (ledger : Ledger) : Prop where
  orderly : ledger.Orderly
  none : ledger.unreleased = []

variable {ledger newer older : Ledger} {number : Nat} {status : Status}

/-- A response that was given was either released once or is still to be released, and one that was not
given is neither. -/
theorem Orderly.released_add_unreleased (h : ledger.Orderly) (number : Nat) :
    ledger.count (.released number) + ledger.unreleased.count number =
      if number < ledger.givenCount then 1 else 0 := by
  induction h with
  | blank => rfl
  | handed _ _ ih =>
      rw [List.count_cons_of_ne (by rintro ⟨⟩)]
      exact ih
  | @given older status _ none ih =>
      rw [none, List.count_nil] at ih
      simp only [unreleased, givenCount, none, List.count_cons, List.count_nil, beq_iff_eq]
      grind
  | @released older last _ one ih =>
      rw [one] at ih
      simp only [unreleased, givenCount, one, List.count_cons, List.count_nil, beq_iff_eq] at ih ⊢
      grind

theorem Orderly.lt_givenCount (h : ledger.Orderly) (mem : .given number status ∈ ledger) :
    number < ledger.givenCount := by
  induction h with
  | blank => cases mem
  | handed _ _ ih =>
      cases mem with
      | tail _ mem => exact ih mem
  | @given older _ _ _ ih =>
      cases mem with
      | head => exact Nat.lt_succ_self older.givenCount
      | tail _ mem => exact Nat.lt_succ_of_lt (ih mem)
  | released _ _ ih =>
      cases mem with
      | tail _ mem => exact ih mem

/-- Where nothing is still to be released, everything was. -/
theorem Idle.settled (h : ledger.Idle) : ledger.Settled := by
  intro number status mem
  have counted := h.orderly.released_add_unreleased number
  rwa [h.none, List.count_nil, Nat.add_zero, if_pos (h.orderly.lt_givenCount mem)] at counted

theorem Orderly.count_released_le (h : ledger.Orderly) (number : Nat) :
    ledger.count (.released number) ≤ 1 := by
  have counted := h.released_add_unreleased number
  split at counted <;> omega

/-- At most one response is still to be released. -/
theorem Orderly.length_unreleased_le (h : ledger.Orderly) : ledger.unreleased.length ≤ 1 := by
  cases h with
  | blank => exact Nat.zero_le 1
  | handed _ none => simp [unreleased, none]
  | given _ none => simp [unreleased, none]
  | released _ one => simp [unreleased, one]

theorem Orderly.of_append (h : Orderly (newer ++ older)) : older.Orderly := by
  induction newer with
  | nil => exact h
  | cons mark newer ih =>
      cases h with
      | handed h => exact ih h
      | given h => exact ih h
      | released h => exact ih h

/-- Before anything is handed over, all that was given before was released. -/
theorem Orderly.settled_of_handed (h : Orderly (newer ++ .handed :: older)) : older.Settled := by
  cases h.of_append with
  | handed orderly none => exact Idle.settled ⟨orderly, none⟩

end Ledger

/-! ### Keeping a ledger -/

/-- The world with one more mark in the ledger beside it. -/
def World.mark (mark : Mark) (world : World (σ × Ledger)) : World (σ × Ledger) :=
  world.front.beside (mark :: world.back)

/-- A response whose release is written down. -/
def Response.lent (number : Nat) (response : Response σ ε) : Response (σ × Ledger) ε :=
  { response with held := response.held.beside.both ⟨World.mark (.released number), []⟩ }

/-- An executor that keeps a ledger of the responses that it gives. -/
def Executor.lending (base : Executor σ) : Executor (σ × Ledger) := fun request =>
  .change (World.mark .handed) fun _ =>
    (base request).beside.bind fun
      | .error error => .done (.error error)
      | .ok response => .look fun world =>
          .change (World.mark (.given world.back.givenCount response.status)) fun _ =>
            .done (.ok (response.lent world.back.givenCount))

namespace Ledger

/-- The terms of a call that has the ledger to itself and keeps it in order: it tells of nothing while a
response is still to be released, and is never abandoned with one. When it may rest is left open. -/
def lending (rests : Ledger → Prop) : Terms (σ × Ledger) Event where
  rely := World.SameBack
  guar _ after := after.back.Orderly
  tells _ world := world.back.Idle
  rests world := rests world.back
  leaves world := world.back.Idle

/-- The newest thing in the ledger is that a response was given, and to give it up writes its release
down. -/
def Lent (response : Response (σ × Ledger) Event) (world : World (σ × Ledger)) : Prop :=
  world.back.Orderly ∧ ∃ number older, world.back = .given number response.status :: older ∧
    ∀ after, (response.held.effect after).back = .released number :: after.back

variable {rests : Ledger → Prop}

theorem Lent.leaves {response : Response (σ × Ledger) Event} {world : World (σ × Ledger)}
    (h : Lent response world) : response.held.Leaves (lending rests) world := by
  obtain ⟨orderly, number, older, last, release⟩ := h
  have released : (response.held.effect world).back.Idle := by
    rw [release, last]
    rw [last] at orderly
    have one : unreleased (.given number response.status :: older) = [number] := by
      cases orderly with
      | given _ none => rw [unreleased, none]
    exact ⟨.released orderly one, by rw [unreleased, one, List.erase_cons_head]⟩
  exact ⟨released.orderly, fun _ _ => released, released⟩

theorem idling_lending (free : ∀ ledger : Ledger, ledger.Idle → rests ledger) :
    (lending rests : Terms (σ × Ledger) Event).Idling Lent where
  stays world later idle (same : later.back = world.back) := by
    change later.back.Idle
    rwa [same]
  still _ idle := idle.orderly
  tells _ _ idle := idle
  rests _ idle := free _ idle
  waits response world later lent (same : later.back = world.back) := by
    rwa [Lent, same]
  gives _ _ lent := lent.leaves

/-- One exchange with an executor that keeps a ledger. -/
theorem serves_lending (free : ∀ ledger : Ledger, ledger.Idle → rests ledger) (base : Executor σ)
    (context : Context) : base.lending.Serves (lending rests) Lent context := by
  rintro request world - ⟨orderly, none⟩ -
  have handed := Orderly.handed orderly none
  have idle : ∀ after : World (σ × Ledger), after.back = .handed :: world.back → after.back.Idle := by
    intro after last
    rw [last]
    exact ⟨handed, none⟩
  have same : ∀ before after : World (σ × Ledger), before.back = .handed :: world.back →
      before.SameBack after → after.back = .handed :: world.back := fun _ _ last same => same.trans last
  -- While the executor is at work the ledger says that the request was handed over, and no more.
  have exchange : (base request).beside.Abides (lending rests)
      (fun _ after => True ∧ after.back = .handed :: world.back) (world.mark .handed) :=
    .of_keeps (fun after => after.back = .handed :: world.back)
      (fun _ _ last kept => ⟨(idle _ (same _ _ last kept)).orderly, same _ _ last kept⟩) same
      (fun _ => idle) (fun _ last => free _ (idle _ last)) idle (Task.keeps_beside _) rfl
  refine ⟨handed, .bind (exchange.mono ?_)⟩
  rintro outcome after ⟨-, last⟩
  cases outcome with
  | error error => exact idle after last
  | ok response =>
      have given : (after.mark (.given after.back.givenCount response.status)).back.Orderly :=
        .given (idle after last).orderly (idle after last).none
      exact ⟨given, given, _, _, rfl, fun _ => rfl⟩

end Ledger
end ResilientHttp

import Mathlib.Algebra.Order.BigOperators.Group.List
import Mathlib.Algebra.Order.Ring.Nat
import ResilientHttp.Proofs.Retry.Outcome

/-!
Stacks of policies. The rotation of a stack is nested: for every turn of its outermost policy it goes
through the rotation of the stack below, from the target of that turn on. It is no longer than the
product of the attempts that the policies allow, and just as long if every endpoint is a URL.

* `execute_onto` — a stack that stands on stacks does what the whole stack does.
* `recordedBy_execute`, `returns_execute` — recording what reaches the bottom changes nothing, and a
  call to a stack ends if the exchanges at the bottom do.
* `length_rotation_le`, `length_rotation` — how long the nested rotation is.
-/

namespace ResilientHttp

variable {σ τ κ : Type}

namespace RetryPolicy

variable {policy : RetryPolicy}

/-- Every endpoint of a policy is a URL. -/
def Parses (policy : RetryPolicy) : Prop :=
  ∀ endpoint ∈ policy.endpoints, ∃ url, Url.parse endpoint = .ok url

/-- If every endpoint is a URL, no attempt is left out. -/
theorem Parses.exists_turn (parses : policy.Parses) (own : Url) (index : Nat) :
    ∃ url, policy.turn? own index = some url := by
  have places : ∀ place, place < policy.endpoints.length + 1 →
      ∃ url, policy.place? own place = some url := by
    rintro (_ | place) inBounds
    · exact ⟨own, rfl⟩
    · have found := List.getElem?_eq_getElem (Nat.lt_of_succ_lt_succ inBounds)
      obtain ⟨url, parsed⟩ := parses _ (List.mem_of_getElem? found)
      exact ⟨url, by rw [place?, found, Option.bind_some, parsed]; rfl⟩
  exact places _ (Nat.mod_lt _ (Nat.succ_pos _))

theorem Parses.length_turns (parses : policy.Parses) (own : Url) (count : Nat) :
    (policy.turns own count).length = count := by
  induction count with
  | zero => rfl
  | succ count ih =>
      obtain ⟨url, turn⟩ := parses.exists_turn own count
      rw [turns_succ, turn, List.length_append, ih]
      rfl

end RetryPolicy

namespace Transport

/-- The policies of a stack, the outermost first. -/
def policies : Transport τ → List RetryPolicy
  | .base _ => []
  | .retrying policy _ inner => policy :: inner.policies

/-- The product of the attempts that the policies of a stack allow. -/
def attempts (stack : Transport τ) : Nat :=
  (stack.policies.map fun policy => policy.maxAttempts.toNat + 1).prod

/-- The targets of all attempts that a stack allows, in order. -/
def rotation : Transport τ → Url → List Url
  | .base _, own => [own]
  | .retrying policy _ inner, own => (policy.rotation own).flatMap inner.rotation

/-- A stack on top of others, one for each thing that it stands on. -/
def onto (below : κ → Transport τ) : Transport κ → Transport τ
  | .base sender => below sender
  | .retrying policy sink inner => .retrying policy sink (inner.onto below)

/-- What a stack does on top of others is what the whole stack does. -/
theorem execute_onto (run : τ → Executor σ) (below : κ → Transport τ) (outer : Transport κ) :
    (outer.onto below).execute run = outer.execute fun sender => (below sender).execute run := by
  induction outer with
  | base sender => rfl
  | retrying policy sink inner ih => exact congrArg (policy.retrying sink) ih

/-- A call to a stack comes to the same, whether a journal is kept at its bottom or not. -/
theorem recordedBy_execute (run : τ → Executor σ) (stack : Transport τ) :
    (stack.execute run).RecordedBy (stack.execute fun sender => (run sender).recording) := by
  induction stack with
  | base sender => exact (run sender).recorded_recording
  | retrying policy sink inner ih => exact RetryPolicy.recordedBy_retrying ih policy sink

/-- A call to a stack ends if the exchanges at its bottom do. -/
theorem returns_execute {run : τ → Executor σ}
    (answers : ∀ sender request world, (run sender request).Returns world) (stack : Transport τ)
    (request : Request) (world : World σ) : (stack.execute run request).Returns world := by
  induction stack generalizing request world with
  | base sender => exact answers sender request world
  | retrying policy sink inner ih => exact policy.returns_retrying sink request ih world

/-! ### The nested rotation -/

section Rotation

variable (stack : Transport τ) (own : Url)

theorem attempts_retrying (policy : RetryPolicy) (sink : Sink) :
    (Transport.retrying policy sink stack).attempts =
      (policy.maxAttempts.toNat + 1) * stack.attempts := by
  simp [attempts, policies]

/-- The rotation is no longer than the product of the attempts. -/
theorem length_rotation_le : (stack.rotation own).length ≤ stack.attempts := by
  induction stack generalizing own with
  | base sender => exact Nat.le_refl 1
  | retrying policy sink inner ih =>
      rw [rotation, List.length_flatMap, attempts_retrying]
      calc
        ((policy.rotation own).map fun url => (inner.rotation url).length).sum
            ≤ (policy.rotation own).length * inner.attempts := by
              have bound := List.sum_le_card_nsmul
                ((policy.rotation own).map fun url => (inner.rotation url).length) inner.attempts
                (by simpa using fun url _ => ih url)
              simpa using bound
        _ ≤ (policy.maxAttempts.toNat + 1) * inner.attempts :=
              Nat.mul_le_mul_right _ (policy.length_turns_le own _)

/-- If every endpoint is a URL, the rotation is as long as the product of the attempts. -/
theorem length_rotation (parses : ∀ policy ∈ stack.policies, policy.Parses) :
    (stack.rotation own).length = stack.attempts := by
  induction stack generalizing own with
  | base sender => rfl
  | retrying policy sink inner ih =>
      obtain ⟨here, below⟩ := List.forall_mem_cons.mp parses
      have same : ∀ url, (inner.rotation url).length = inner.attempts := fun url => ih url below
      have turns : (policy.rotation own).length = policy.maxAttempts.toNat + 1 :=
        here.length_turns own _
      rw [rotation, List.length_flatMap, attempts_retrying]
      simp [same, turns]

end Rotation

/-- A world with a context that nobody has cancelled. -/
def quietWorld : World Unit := ⟨0, none, ⟨[⟨none, false⟩]⟩, .empty, ()⟩

end Transport
end ResilientHttp

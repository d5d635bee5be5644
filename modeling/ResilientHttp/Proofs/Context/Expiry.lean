import Mathlib.Order.Bounds.Basic
import ResilientHttp.Proofs.Context.Deadline
import ResilientHttp.Proofs.Context.Kinship
import ResilientHttp.Proofs.Task.Crowd

/-!
Deadlines among contexts that come from each other. Which instants a context was limited to is read off
the operations alone: `ContextStep.stated` lists, for each context, the limit that the operation stated
which made it, and `ContextStep.limits` gathers these along the way on which a context comes about.

* `Family.Dates` — after a run the clock shows the time that the operations took, and the deadline of
  every context is the earliest of its limits; `Dates.next` and `dates_run` are the step and the run.
* `Family.checks_ok`, `checks_cancelled`, `checks_exceeded` — when checking a context gives what.
* `Family.deadline_isEarliest` — the law of every run, with what it means for descendants and for checks
  that are made later on.
-/

namespace ResilientHttp

namespace ContextStep

/-- The limit that a step states for the context it makes, if it makes one: none, or an instant. -/
def stated? (now : Instant) : ContextStep → Option (Option Instant)
  | .background | .copy _ | .child _ => some none
  | .timeout _ span => some (some (now + span.toNanos))
  | .deadline _ instant => some (some instant)
  | .cancel _ | .wait _ => none

/-- The time after a step. -/
def clock (now : Instant) : ContextStep → Instant
  | .wait span => now + span
  | _ => now

/-- The limits that steps state for the contexts they make, in order. -/
def stated (now : Instant) : List ContextStep → List (Option Instant)
  | [] => []
  | step :: later => (step.stated? now).toList ++ stated (step.clock now) later

/-- A context was limited to an instant by the step that made it. -/
def LimitedTo (now : Instant) (steps : List ContextStep) (i : Nat) (instant : Instant) : Prop :=
  (stated now steps)[i]? = some (some instant)

/-- The instants that a context, or one that it comes from, was limited to. -/
def limits (now : Instant) (steps : List ContextStep) (i : Nat) : Set Instant :=
  {instant | ∃ ancestor, ComesFrom steps i ancestor ∧ LimitedTo now steps ancestor instant}

end ContextStep

/-- The earliest of some instants, or none if there are no instants. -/
def IsEarliest (instants : Set Instant) : Option Instant → Prop
  | some instant => IsLeast instants instant
  | none => instants = ∅

namespace IsEarliest

variable {first second : Set Instant} {left right : Option Instant} {instant : Instant}

/-- What a limit amounts to. -/
theorem limit (stated : Option Instant) : IsEarliest {instant | stated = some instant} stated := by
  cases stated with
  | none => exact Set.eq_empty_of_forall_notMem fun _ => nofun
  | some instant => exact ⟨rfl, fun _ same => Nat.le_of_eq (Option.some.inj same)⟩

/-- The earlier of two earliest instants is the earliest of all. -/
theorem union (h : IsEarliest first left) (h' : IsEarliest second right) :
    IsEarliest (first ∪ second) (Context.earlier left right) := by
  cases left with
  | none =>
      cases h
      rwa [Set.empty_union]
  | some left =>
      cases right with
      | none =>
          cases h'
          rwa [Set.union_empty]
      | some right => exact IsLeast.union h h'

/-- Among more instants the earliest is no later. -/
theorem le (subset : first ⊆ second) (h : IsEarliest first (some instant))
    (h' : IsEarliest second right) : ∃ own, right = some own ∧ own ≤ instant := by
  cases right with
  | none =>
      cases h'
      exact absurd (subset h.1) (Set.notMem_empty _)
  | some own => exact ⟨own, rfl, h'.2 (subset h.1)⟩

end IsEarliest

namespace ContextStep

variable {now : Instant} {steps later : List ContextStep} {step : ContextStep} {i of : Nat}
  {limit : Option Instant}

theorem stated_concat :
    stated now (steps ++ [step]) =
      stated now steps ++ (step.stated? (steps.foldl clock now)).toList := by
  induction steps generalizing now with
  | nil => simp [stated]
  | cons first steps ih => simp [stated, ih]

/-- A step states a limit, if only none, for the context that it makes. -/
theorem length_stated : (stated now steps).length = (origins steps).length := by
  induction steps generalizing now with
  | nil => rfl
  | cons step steps ih =>
      rw [origins] at ih ⊢
      cases step <;> simp [stated, stated?, origin?, List.filterMap_cons, ih]

theorem origins_concat {origin : Origin} (made : step.origin? = some origin) :
    origins (steps ++ [step]) = origins steps ++ [origin] := by
  rw [origins_append]
  simp [origins, made]

/-- The contexts that others are made from have been made. -/
def Grounded (steps : List ContextStep) : Prop :=
  ∀ i of, CopyOf steps i of ∨ DerivedFrom steps i of → of < (origins steps).length

theorem origins_concat_of_lt (h : i < (origins steps).length) :
    (origins (steps ++ later))[i]? = (origins steps)[i]? := by
  rw [origins_append, List.getElem?_append_left h]

/-- Where a context comes from is told by the steps up to the one that made it. -/
theorem comesFrom_append (grounded : Grounded steps) (h : i < (origins steps).length)
    (later : List ContextStep) : ComesFrom (steps ++ later) i of ↔ ComesFrom steps i of := by
  refine ⟨fun comes => ?_, ComesFrom.append⟩
  induction comes using Relation.ReflTransGen.head_induction_on with
  | refl => exact .refl
  | head made _ ih =>
      rw [CopyOf, DerivedFrom, origins_concat_of_lt h] at made
      exact .head made (ih (grounded _ _ made))

theorem limitedTo_append (h : i < (origins steps).length) {instant : Instant} :
    LimitedTo now (steps ++ [step]) i instant ↔ LimitedTo now steps i instant := by
  rw [LimitedTo, stated_concat, List.getElem?_append_left (by rwa [length_stated])]
  rfl

/-- A context that has been made keeps its limits. -/
theorem limits_append (grounded : Grounded steps) (h : i < (origins steps).length)
    (step : ContextStep) : limits now (steps ++ [step]) i = limits now steps i := by
  ext instant
  refine exists_congr fun ancestor => ?_
  rw [comesFrom_append grounded h]
  refine and_congr_right fun comes => limitedTo_append ?_
  rcases comes.cases_tail with rfl | ⟨_, _, made⟩
  · exact h
  · exact grounded _ _ made

/-- The limit that the last step states for the context it makes. -/
theorem limitedTo_last (h : step.stated? (steps.foldl clock now) = some limit) {instant : Instant} :
    LimitedTo now (steps ++ [step]) (origins steps).length instant ↔ limit = some instant := by
  have last : (origins steps).length = (stated now steps).length := length_stated.symm
  simp [LimitedTo, stated_concat, h, last]

theorem comesFrom_root (made : step.origin? = some .background) :
    ComesFrom (steps ++ [step]) (origins steps).length i ↔ i = (origins steps).length := by
  refine ⟨fun comes => ?_, fun same => same ▸ .refl⟩
  rcases comes.cases_head with same | ⟨_, copy | derived, _⟩
  · exact same.symm
  · simp [CopyOf, origins_concat made] at copy
  · simp [DerivedFrom, origins_concat made] at derived

/-- What is made from a context comes from that and from all that it comes from. -/
theorem comesFrom_further (grounded : Grounded steps) (lt : of < (origins steps).length)
    (made : step.origin? = some (.copy of) ∨ step.origin? = some (.derived of)) :
    ComesFrom (steps ++ [step]) (origins steps).length i ↔
      i = (origins steps).length ∨ ComesFrom steps of i := by
  rw [← comesFrom_append grounded lt [step]]
  constructor
  · intro comes
    rcases comes.cases_head with same | ⟨parent, edge, onward⟩
    · exact .inl same.symm
    · obtain rfl : of = parent := by
        rcases made with made | made <;> simpa [CopyOf, DerivedFrom, origins_concat made] using edge
      exact .inr onward
  · rintro (rfl | comes)
    · exact .refl
    · refine .head (made.imp ?_ ?_) comes <;> intro made
      · simp [CopyOf, origins_concat made]
      · simp [DerivedFrom, origins_concat made]

/-- A context that comes from no other one has the limit that was stated for it. -/
theorem limits_root (made : step.origin? = some .background)
    (h : step.stated? (steps.foldl clock now) = some limit) :
    limits now (steps ++ [step]) (origins steps).length = {instant | limit = some instant} := by
  ext instant
  constructor
  · rintro ⟨ancestor, comes, limited⟩
    rw [(comesFrom_root made).mp comes] at limited
    exact (limitedTo_last h).mp limited
  · intro same
    exact ⟨_, .refl, (limitedTo_last h).mpr same⟩

/-- A context that is made from another one has the limits of that and the one stated for it. -/
theorem limits_further (grounded : Grounded steps) (lt : of < (origins steps).length)
    (made : step.origin? = some (.copy of) ∨ step.origin? = some (.derived of))
    (h : step.stated? (steps.foldl clock now) = some limit) :
    limits now (steps ++ [step]) (origins steps).length =
      limits now steps of ∪ {instant | limit = some instant} := by
  rw [← limits_append grounded lt step]
  ext instant
  constructor
  · rintro ⟨ancestor, comes, limited⟩
    rcases (comesFrom_further grounded lt made).mp comes with rfl | onward
    · exact .inr ((limitedTo_last h).mp limited)
    · exact .inl ⟨ancestor, onward.append, limited⟩
  · rintro (⟨ancestor, comes, limited⟩ | same)
    · have onward := (comesFrom_append grounded lt [step]).mp comes
      exact ⟨ancestor, (comesFrom_further grounded lt made).mpr (.inr onward), limited⟩
    · exact ⟨_, .refl, (limitedTo_last h).mpr same⟩

end ContextStep

namespace Family

open ContextStep

variable {σ : Type} {now : Instant} {family after : Family} {steps later : List ContextStep}
  {step : ContextStep} {i j : Nat} {context other : Context}

/-! ### What one operation does to deadlines -/

/-- What one operation adds to the contexts: none, one without a deadline, or one whose deadline is the
earlier one of that of the context it is made from and of the limit that the operation states. -/
inductive Makes (family after : Family) (step : ContextStep) : Prop where
  | none : step.origin? = none → after.contexts = family.contexts → Makes family after step
  | root {made : Context} : step.origin? = some .background → step.stated? family.now = some none →
      made.deadline = none → after.contexts = family.contexts ++ [made] → Makes family after step
  | further {of : Nat} {context made : Context} {limit : Option Instant} :
      step.origin? = some (.copy of) ∨ step.origin? = some (.derived of) →
      step.stated? family.now = some limit → family.contexts[of]? = some context →
      made.deadline = Context.earlier context.deadline limit →
      after.contexts = family.contexts ++ [made] → Makes family after step

theorem makes_of_step (h : family.step step = some after) : family.Makes after step := by
  cases step with
  | background =>
      cases h
      exact .root rfl rfl rfl rfl
  | copy of =>
      obtain ⟨context, found, rfl⟩ := Option.map_eq_some_iff.mp h
      exact .further (.inl rfl) rfl found (Context.earlier_none _).symm rfl
  | child of =>
      obtain ⟨context, found, rfl⟩ := Option.map_eq_some_iff.mp h
      have kept : (context.child family.tokens).1.deadline = Context.earlier context.deadline none :=
        (Context.earlier_none _).symm
      exact .further (.inr rfl) rfl found kept rfl
  | timeout of span =>
      obtain ⟨context, found, rfl⟩ := Option.map_eq_some_iff.mp h
      exact .further (.inr rfl) rfl found rfl rfl
  | deadline of instant =>
      obtain ⟨context, found, rfl⟩ := Option.map_eq_some_iff.mp h
      exact .further (.inr rfl) rfl found rfl rfl
  | cancel of =>
      obtain ⟨context, found, rfl⟩ := Option.map_eq_some_iff.mp h
      exact .none rfl rfl
  | wait span =>
      cases h
      exact .none rfl rfl

theorem now_of_step (h : family.step step = some after) : after.now = step.clock family.now := by
  cases step with
  | background | wait span =>
      cases h
      rfl
  | copy of | child of | timeout of span | deadline of instant | cancel of =>
      obtain ⟨context, found, rfl⟩ := Option.map_eq_some_iff.mp h
      rfl

/-- The clock does not go back, and contexts are only added. -/
theorem grows_of_step (h : family.step step = some after) :
    family.now ≤ after.now ∧ family.contexts <+: after.contexts := by
  constructor
  · rw [now_of_step h]
    cases step with
    | wait span => exact Nat.le_add_right _ _
    | _ => exact Nat.le_refl _
  · cases makes_of_step h with
    | none _ contexts => exact contexts.symm ▸ List.prefix_refl _
    | root _ _ _ contexts | further _ _ _ _ contexts =>
        rw [contexts]
        exact List.prefix_append _ _

theorem grows_of_run (run : family.run later = some after) :
    family.now ≤ after.now ∧ family.contexts <+: after.contexts := by
  induction later generalizing family with
  | nil =>
      cases run
      exact ⟨Nat.le_refl _, List.prefix_refl _⟩
  | cons step later ih =>
      obtain ⟨next, first, rest⟩ := Option.bind_eq_some_iff.mp run
      obtain ⟨clock, contexts⟩ := grows_of_step first
      obtain ⟨clock', contexts'⟩ := ih rest
      exact ⟨Nat.le_trans clock clock', contexts.trans contexts'⟩

/-! ### Deadlines after a run -/

/-- What a sequence of operations has made of the clock and of the deadlines. -/
structure Dates (now : Instant) (steps : List ContextStep) (family : Family) : Prop where
  clock : family.now = steps.foldl clock now
  count : family.contexts.length = (origins steps).length
  grounded : Grounded steps
  earliest : ∀ {i : Nat} {context : Context}, family.contexts[i]? = some context →
    IsEarliest (limits now steps i) context.deadline

theorem dates_start : (start now).Dates now [] where
  clock := rfl
  count := rfl
  grounded := by simp [Grounded, CopyOf, DerivedFrom, origins]
  earliest := nofun

section Step

variable (dates : family.Dates now steps)

include dates

theorem Dates.lt (found : family.contexts[i]? = some context) : i < (origins steps).length :=
  dates.count ▸ (List.getElem?_eq_some_iff.mp found).1

/-- A context that was there before keeps its deadline and its limits. -/
theorem Dates.old (found : family.contexts[i]? = some context) :
    IsEarliest (limits now (steps ++ [step]) i) context.deadline := by
  rw [limits_append dates.grounded (dates.lt found)]
  exact dates.earliest found

/-- One more context leaves all others as they were. -/
theorem Dates.concat (clock : after.now = (steps ++ [step]).foldl ContextStep.clock now)
    (contexts : after.contexts = family.contexts ++ [context]) {origin : Origin}
    (made : step.origin? = some origin)
    (known : ∀ of, origin = .copy of ∨ origin = .derived of → of < (origins steps).length)
    (earliest : IsEarliest (limits now (steps ++ [step]) (origins steps).length) context.deadline) :
    after.Dates now (steps ++ [step]) where
  clock := clock
  count := by simp [contexts, dates.count, origins_concat made]
  grounded i of edge := by
    rw [CopyOf, DerivedFrom, origins_concat made, getElem?_concat_eq_some,
      getElem?_concat_eq_some] at edge
    rw [origins_concat made, List.length_append]
    refine Nat.lt_add_right _ ?_
    rcases edge with (old | ⟨-, new⟩) | old | ⟨-, new⟩
    · exact dates.grounded i of (.inl old)
    · exact known of (.inl new)
    · exact dates.grounded i of (.inr old)
    · exact known of (.inr new)
  earliest found := by
    rw [contexts, getElem?_concat_eq_some, dates.count] at found
    rcases found with old | ⟨rfl, rfl⟩
    · exact dates.old old
    · exact earliest

/-- One operation keeps the account. -/
theorem Dates.next (h : family.step step = some after) : after.Dates now (steps ++ [step]) := by
  have clock : after.now = (steps ++ [step]).foldl ContextStep.clock now := by
    simp [now_of_step h, dates.clock]
  cases makes_of_step h with
  | none made contexts =>
      have same : origins (steps ++ [step]) = origins steps := by
        simp [origins, made]
      refine ⟨clock, by rw [contexts, same, dates.count], ?_, ?_⟩
      · intro i of edge
        rw [CopyOf, DerivedFrom, same] at edge
        rw [same]
        exact dates.grounded i of edge
      · intro i context found
        exact dates.old (contexts ▸ found)
  | root origin stated deadline contexts =>
      rw [dates.clock] at stated
      refine dates.concat clock contexts origin (by rintro of (⟨⟨⟩⟩ | ⟨⟨⟩⟩)) ?_
      rw [limits_root origin stated, deadline]
      exact .limit none
  | @further of context made limit origin stated found deadline contexts =>
      rw [dates.clock] at stated
      have lt := dates.lt found
      have earliest := (dates.earliest found).union (.limit limit)
      rw [← limits_further dates.grounded lt origin stated, ← deadline] at earliest
      rcases origin with origin | origin
      · refine dates.concat clock contexts origin ?_ earliest
        rintro _ (⟨⟨⟩⟩ | ⟨⟨⟩⟩)
        exact lt
      · refine dates.concat clock contexts origin ?_ earliest
        rintro _ (⟨⟨⟩⟩ | ⟨⟨⟩⟩)
        exact lt

end Step

/-- Every run keeps the account. -/
theorem dates_run (run : (start now).run steps = some family) : family.Dates now steps := by
  induction steps using List.reverseRecOn generalizing family with
  | nil =>
      cases run
      exact dates_start
  | append_singleton earlier step ih =>
      rw [run_append] at run
      obtain ⟨before, run, last⟩ := Option.bind_eq_some_iff.mp run
      refine (ih run).next ?_
      simpa [Family.run] using last

/-! ### Checks -/

/-- A world shows the clock and the tokens of the family. -/
structure Shown (family : Family) (world : World σ) : Prop where
  clock : world.now = family.now
  tokens : world.tokens = family.tokens

/-- What checking a context comes to wherever the family is shown: at once, and nothing is changed. -/
def Checks (family : Family) (context : Context) (result : Except ClientError Unit) : Prop :=
  ∀ (σ ε : Type) (world : World σ), family.Shown world →
    ∃ ended, (context.check : Task σ ε (Except ContextEnd Unit)).turn world = (.done ended, world) ∧
      ended.mapError ContextEnd.error = result

/-- What a check makes of the end of a context. -/
def reported : Option ContextEnd → Except ContextEnd Unit
  | some ending => .error ending
  | none => .ok ()

/-- The context was cancelled, itself or with one that it comes from. -/
def Cancelled (family : Family) (context : Context) : Prop :=
  family.tokens.isCancelled context.token = true

/-- The deadline of the context has come. -/
def Passed (family : Family) (context : Context) : Prop :=
  ∃ limit, context.deadline = some limit ∧ limit ≤ family.now

section Checks

variable (family context) {result : Except ClientError Unit}

/-- How a context has ended in the family, in terms of its token and its deadline. -/
theorem ended_cases :
    (family.Cancelled context ∧ context.ended? family.tokens family.now = some .cancelled) ∨
    (¬ family.Cancelled context ∧ family.Passed context ∧
      context.ended? family.tokens family.now = some .deadline) ∨
    (¬ family.Cancelled context ∧ ¬ family.Passed context ∧
      context.ended? family.tokens family.now = none) := by
  have passed : context.deadline.any (· ≤ family.now) = true ↔ family.Passed context := by
    cases h : context.deadline <;> simp [Passed, h]
  rw [Context.ended?, ← passed, Cancelled]
  split
  · exact .inl ⟨‹_›, rfl⟩
  · split
    · exact .inr (.inl ⟨‹_›, ‹_›, rfl⟩)
    · exact .inr (.inr ⟨‹_›, ‹_›, rfl⟩)

variable {family context}

/-- A check tells at once how the context has ended. -/
theorem checks_iff {ended : Option ContextEnd} (h : context.ended? family.tokens family.now = ended) :
    family.Checks context result ↔ result = (reported ended).mapError ContextEnd.error := by
  have told : ∀ (σ ε : Type) (world : World σ), family.Shown world →
      (context.check : Task σ ε (Except ContextEnd Unit)).turn world =
        (.done (reported ended), world) := by
    intro σ ε world shown
    rw [Context.check, Task.turn, Context.endedIn?, shown.clock, shown.tokens, h]
    cases ended <;> rfl
  constructor
  · intro checks
    obtain ⟨check, turned, rfl⟩ :=
      checks Unit Unit ⟨family.now, none, family.tokens, .empty, ()⟩ ⟨rfl, rfl⟩
    rw [told _ _ _ ⟨rfl, rfl⟩] at turned
    cases turned
    rfl
  · rintro rfl σ ε world shown
    exact ⟨_, told σ ε world shown, rfl⟩

theorem checks_ok :
    family.Checks context (.ok ()) ↔ ¬ family.Cancelled context ∧ ¬ family.Passed context := by
  rcases ended_cases family context with ⟨cancelled, h⟩ | ⟨alive, passed, h⟩ | ⟨alive, early, h⟩
  · simp [checks_iff h, reported, Except.mapError, ContextEnd.error, cancelled]
  · simp [checks_iff h, reported, Except.mapError, ContextEnd.error, passed]
  · simp [checks_iff h, reported, Except.mapError, alive, early]

theorem checks_cancelled : family.Checks context (.error .cancelled) ↔ family.Cancelled context := by
  rcases ended_cases family context with ⟨cancelled, h⟩ | ⟨alive, passed, h⟩ | ⟨alive, early, h⟩
  · simp [checks_iff h, reported, Except.mapError, ContextEnd.error, cancelled]
  · simp [checks_iff h, reported, Except.mapError, ContextEnd.error, alive]
  · simp [checks_iff h, reported, Except.mapError, alive]

theorem checks_exceeded :
    family.Checks context (.error .deadlineExceeded) ↔
      ¬ family.Cancelled context ∧ family.Passed context := by
  rcases ended_cases family context with ⟨cancelled, h⟩ | ⟨alive, passed, h⟩ | ⟨alive, early, h⟩
  · simp [checks_iff h, reported, Except.mapError, ContextEnd.error, cancelled]
  · simp [checks_iff h, reported, Except.mapError, ContextEnd.error, alive, passed]
  · simp [checks_iff h, reported, Except.mapError, early]

/-- A check fails if the context was cancelled or its deadline has come, and not otherwise. -/
theorem exists_checks_error :
    (∃ error, family.Checks context (.error error)) ↔
      family.Cancelled context ∨ family.Passed context := by
  constructor
  · rintro ⟨error, checks⟩
    by_contra live
    have passes := checks_ok.mpr (not_or.mp live)
    rw [checks_iff rfl] at checks passes
    cases checks.trans passes.symm
  · intro ended
    by_cases cancelled : family.Cancelled context
    · exact ⟨_, checks_cancelled.mpr cancelled⟩
    · exact ⟨_, checks_exceeded.mpr ⟨cancelled, ended.resolve_left cancelled⟩⟩

end Checks

theorem Cancelled.onward (cancelled : family.Cancelled context)
    (run : family.run later = some after) : after.Cancelled context :=
  isCancelled_run run cancelled

theorem Passed.onward (passed : family.Passed context) (run : family.run later = some after) :
    after.Passed context := by
  obtain ⟨limit, deadline, le⟩ := passed
  exact ⟨limit, deadline, Nat.le_trans le (grows_of_run run).1⟩

/-- What comes from a context has all the limits of that. -/
theorem limits_subset (comes : ComesFrom steps i j) : limits now steps j ⊆ limits now steps i :=
  fun _ ⟨ancestor, onward, limited⟩ => ⟨ancestor, comes.trans onward, limited⟩

/-- After any operations, the deadline of a context is the earliest instant that it, or a context it
comes from, was limited to, and it has none if there is no such instant; so nothing that comes from a
context has a later deadline. A check fails if and only if the context was cancelled or its deadline has
come, and says that it was cancelled if it was. A check that has failed fails ever after, whatever
operations follow, and once it has told of the cancellation it never tells of the deadline. -/
theorem deadline_isEarliest (run : (start now).run steps = some family)
    (onward : family.run later = some after) :
    (∀ i context, family.contexts[i]? = some context →
      IsEarliest (limits now steps i) context.deadline ∧ after.contexts[i]? = some context) ∧
    (∀ i j context other, family.contexts[i]? = some context → family.contexts[j]? = some other →
      ComesFrom steps i j → ∀ limit, other.deadline = some limit →
        ∃ own, context.deadline = some own ∧ own ≤ limit) ∧
    ∀ context,
      (family.Checks context (.ok ()) ↔ ¬ family.Cancelled context ∧ ¬ family.Passed context) ∧
      (family.Checks context (.error .cancelled) ↔ family.Cancelled context) ∧
      (family.Checks context (.error .deadlineExceeded) ↔
        ¬ family.Cancelled context ∧ family.Passed context) ∧
      ((∃ error, family.Checks context (.error error)) ↔
        family.Cancelled context ∨ family.Passed context) ∧
      ((∃ error, family.Checks context (.error error)) →
        ∃ error, after.Checks context (.error error)) ∧
      (family.Checks context (.error .cancelled) →
        after.Checks context (.error .cancelled) ∧
          ¬ after.Checks context (.error .deadlineExceeded)) := by
  have dates := dates_run run
  refine ⟨?_, ?_, fun context =>
    ⟨checks_ok, checks_cancelled, checks_exceeded, exists_checks_error, ?_, ?_⟩⟩
  · intro i context found
    obtain ⟨more, grown⟩ := (grows_of_run onward).2
    refine ⟨dates.earliest found, ?_⟩
    rw [← grown, List.getElem?_append_left (List.getElem?_eq_some_iff.mp found).1, found]
  · intro i j context other found found' comes limit deadline
    have earliest := dates.earliest found'
    rw [deadline] at earliest
    exact earliest.le (limits_subset comes) (dates.earliest found)
  · intro failed
    rw [exists_checks_error] at failed ⊢
    exact failed.imp (·.onward onward) (·.onward onward)
  · intro cancelled
    have still := (checks_cancelled.mp cancelled).onward onward
    exact ⟨checks_cancelled.mpr still, fun exceeded => (checks_exceeded.mp exceeded).1 still⟩

/-- A context with a timeout, contexts made from it that have limits of their own, and a pause up to the
deadline that one of these has. -/
def nestedLimits : List ContextStep :=
  [.background, .timeout 0 { seconds := 0, nanos := 8 }, .wait 5, .copy 1, .deadline 2 7, .child 3,
    .timeout 3 { seconds := 0, nanos := 60 }, .wait 2]

/-- What the nested limits lead to. -/
def nestedFamily : Family where
  now := 7
  tokens := ⟨[⟨some 2, false⟩, ⟨some 2, false⟩, ⟨some 1, false⟩, ⟨some 0, false⟩, ⟨none, false⟩]⟩
  contexts := [⟨0, none⟩, ⟨1, some 8⟩, ⟨1, some 8⟩, ⟨2, some 7⟩, ⟨3, some 7⟩, ⟨4, some 7⟩]

/-- The timeout that was asked for last is cut short by the deadline above it, and a check that has
failed for that fails for the cancellation later on. -/
theorem deadline_nestedFamily : (start 0).run nestedLimits = some nestedFamily ∧
    IsLeast (limits 0 nestedLimits 5) 7 ∧ limits 0 nestedLimits 0 = ∅ ∧
    nestedFamily.Checks ⟨4, some 7⟩ (.error .deadlineExceeded) ∧
    ∃ after, nestedFamily.run [.cancel 2, .wait 1] = some after ∧
      after.Checks ⟨4, some 7⟩ (.error .cancelled) := by
  have run : (start 0).run nestedLimits = some nestedFamily := by decide +kernel
  have goesOn : (nestedFamily.run [.cancel 2, .wait 1]).isSome := by decide
  have onward := (Option.some_get goesOn).symm
  obtain ⟨deadlines, -, checks⟩ := deadline_isEarliest run onward
  obtain ⟨-, -, exceeded, -⟩ := checks ⟨4, some 7⟩
  refine ⟨run, (deadlines 5 ⟨4, some 7⟩ rfl).1, (deadlines 0 ⟨0, none⟩ rfl).1,
    exceeded.mpr ⟨?_, 7, rfl, Nat.le_refl _⟩, _, onward, ?_⟩
  · exact Bool.not_eq_true _ ▸ rfl
  · exact checks_cancelled.mpr rfl

end Family
end ResilientHttp

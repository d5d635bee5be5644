import Mathlib.Data.List.Induction
import Mathlib.Logic.Relation
import ResilientHttp.Proofs.Context.Tree

/-!
Families of contexts. A `Family` is what a sequence of operations makes of no contexts at all, and
the contexts are numbered in the order in which they are made. Who is a copy of whom and who is
derived from whom is read off the operations alone (`CopyOf`, `DerivedFrom`); two contexts share a
token if copying joins them (`ShareToken`), and cancelling a context reaches another one if that is, or
comes from, one that shares its token (`Reaches`).

* `Family.changes_of_step` — all that one operation can do to the tokens.
* `Family.traces_run` — after every run the tokens of the contexts and their parents are as the
  operations tell (`Lineage`), and those tokens are cancelled themselves that an operation cancelled.
-/

namespace ResilientHttp

/-- An operation on contexts, each of which has a number. -/
inductive ContextStep where
  | background
  | copy (of : Nat)
  | child (of : Nat)
  | timeout (of : Nat) (span : Duration)
  | deadline (of : Nat) (instant : Instant)
  | cancel (of : Nat)
  /-- Time goes on. -/
  | wait (span : Nat)

/-- Where a context is from. -/
inductive Origin where
  | background
  | copy (of : Nat)
  | derived (of : Nat)

namespace ContextStep

/-- Where the context that a step makes is from, if it makes one. -/
def origin? : ContextStep → Option Origin
  | .background => some .background
  | .copy of => some (.copy of)
  | .child of | .timeout of _ | .deadline of _ => some (.derived of)
  | .cancel _ | .wait _ => none

/-- Where the contexts are from that a sequence of steps makes. -/
def origins (steps : List ContextStep) : List Origin := steps.filterMap origin?

/-- A context was made as a copy of another one. -/
def CopyOf (steps : List ContextStep) (i of : Nat) : Prop := (origins steps)[i]? = some (.copy of)

/-- A context was derived from another one. -/
def DerivedFrom (steps : List ContextStep) (i of : Nat) : Prop :=
  (origins steps)[i]? = some (.derived of)

/-- Copying joins two contexts. -/
def ShareToken (steps : List ContextStep) : Nat → Nat → Prop := Relation.EqvGen (CopyOf steps)

/-- A context is another one or was made from it, by copying and deriving. -/
def ComesFrom (steps : List ContextStep) : Nat → Nat → Prop :=
  Relation.ReflTransGen fun i of => CopyOf steps i of ∨ DerivedFrom steps i of

/-- A context is one that shares the token of another one, or comes from such a one. -/
def Reaches (steps : List ContextStep) (cancelled i : Nat) : Prop :=
  ∃ ancestor, ComesFrom steps i ancestor ∧ ShareToken steps cancelled ancestor

/-- A context, or one that shares its token, was derived from another one. -/
def Parent (steps : List ContextStep) (i parent : Nat) : Prop :=
  ∃ sharing, ShareToken steps i sharing ∧ DerivedFrom steps sharing parent

/-- Two contexts with tokens of their own have the same parent. -/
def Siblings (steps : List ContextStep) (i j : Nat) : Prop :=
  ¬ ShareToken steps i j ∧ ∃ parent other, Parent steps i parent ∧ Parent steps j other ∧
    ShareToken steps parent other

end ContextStep

/-- The contexts that have been made, with the tree of their tokens and the time. -/
structure Family where
  now : Instant
  tokens : CancelTree
  contexts : List Context
  deriving DecidableEq, Repr

namespace Family

/-- No contexts. -/
def start (now : Instant) : Family := ⟨now, .empty, []⟩

/-- One context more. -/
def adopt (family : Family) (made : Context × CancelTree) : Family :=
  { family with tokens := made.2, contexts := family.contexts ++ [made.1] }

/-- One operation; there is no result if it is on a context that has not been made. -/
def step (family : Family) : ContextStep → Option Family
  | .background => some (family.adopt (Context.background family.tokens))
  | .copy of => family.contexts[of]?.map fun context => family.adopt (context, family.tokens)
  | .child of => family.contexts[of]?.map fun context => family.adopt (context.child family.tokens)
  | .timeout of span => family.contexts[of]?.map fun context =>
      family.adopt (context.withTimeout span family.now family.tokens)
  | .deadline of instant => family.contexts[of]?.map fun context =>
      family.adopt (context.withDeadline instant family.tokens)
  | .cancel of => family.contexts[of]?.map fun context =>
      { family with tokens := family.tokens.cancel context.token }
  | .wait span => some { family with now := family.now + span }

/-- A sequence of operations. -/
def run (family : Family) (steps : List ContextStep) : Option Family := steps.foldlM step family

/-- The tokens of the contexts. -/
def held (family : Family) : List Token := family.contexts.map Context.token

variable {family after : Family} {steps later : List ContextStep} {step : ContextStep}

theorem run_append :
    family.run (steps ++ later) = (family.run steps).bind fun next => next.run later :=
  List.foldlM_append

/-- What one operation does to the tokens: it makes a token, copies one, cancels one, or does none of
these. -/
inductive Changes (family after : Family) (step : ContextStep) : Prop where
  | background : step.origin? = some .background → after.held = family.held ++ [family.tokens.fresh] →
      after.tokens = family.tokens.derive none → Changes family after step
  | copy {of : Nat} {token : Token} : step.origin? = some (.copy of) →
      family.held[of]? = some token → after.held = family.held ++ [token] →
      after.tokens = family.tokens → Changes family after step
  | derived {of : Nat} {token : Token} : step.origin? = some (.derived of) →
      family.held[of]? = some token → after.held = family.held ++ [family.tokens.fresh] →
      after.tokens = family.tokens.derive (some token) → Changes family after step
  | cancel {of : Nat} {token : Token} : step = .cancel of → family.held[of]? = some token →
      after.held = family.held → after.tokens = family.tokens.cancel token →
      Changes family after step
  | wait {span : Nat} : step = .wait span → after.held = family.held →
      after.tokens = family.tokens → Changes family after step

theorem held_adopt (made : Context × CancelTree) :
    (family.adopt made).held = family.held ++ [made.1.token] :=
  List.map_append

theorem held_getElem? {of : Nat} {context : Context} (h : family.contexts[of]? = some context) :
    family.held[of]? = some context.token := by
  simp [held, h]

theorem changes_of_step (h : family.step step = some after) : family.Changes after step := by
  cases step with
  | background =>
      cases h
      exact .background rfl (held_adopt _) rfl
  | copy of =>
      obtain ⟨context, found, rfl⟩ := Option.map_eq_some_iff.mp h
      exact .copy rfl (held_getElem? found) (held_adopt _) rfl
  | child of =>
      obtain ⟨context, found, rfl⟩ := Option.map_eq_some_iff.mp h
      exact .derived rfl (held_getElem? found) (held_adopt _) rfl
  | timeout of span =>
      obtain ⟨context, found, rfl⟩ := Option.map_eq_some_iff.mp h
      exact .derived rfl (held_getElem? found) (held_adopt _) rfl
  | deadline of instant =>
      obtain ⟨context, found, rfl⟩ := Option.map_eq_some_iff.mp h
      exact .derived rfl (held_getElem? found) (held_adopt _) rfl
  | cancel of =>
      obtain ⟨context, found, rfl⟩ := Option.map_eq_some_iff.mp h
      exact .cancel rfl (held_getElem? found) rfl rfl
  | wait span =>
      cases h
      exact .wait rfl rfl rfl

end Family

/-! ### Tokens and where contexts are from -/

section Concat

variable {α : Type} {rows : List α} {row last : α} {i : Nat}

theorem getElem?_concat_eq_some :
    (rows ++ [last])[i]? = some row ↔ rows[i]? = some row ∨ i = rows.length ∧ last = row := by
  rcases Nat.lt_trichotomy i rows.length with lt | rfl | gt
  · simp [List.getElem?_append_left lt, Nat.ne_of_lt lt]
  · simp
  · simp [List.getElem?_append_right (Nat.le_of_lt gt), Nat.le_of_lt gt, Nat.ne_of_gt gt,
      Nat.sub_ne_zero_of_lt gt]

theorem getElem?_concat_of_some (h : rows[i]? = some row) : (rows ++ [last])[i]? = some row :=
  getElem?_concat_eq_some.mpr (.inl h)

end Concat

/-- A context that is no copy has a token of its own. -/
def Origin.Own (origin : Origin) : Prop := ∀ of, origin ≠ .copy of

/-- The tokens of contexts are as where these are from tells: copies share one, and every other context
has one of its own, whose parent is the token of the context that it was derived from. -/
structure Lineage (rows : List (Origin × Token)) (tree : CancelTree) : Prop where
  known : ∀ {i : Nat} {origin : Origin} {token : Token}, rows[i]? = some (origin, token) →
    token < tree.fresh
  copied : ∀ {i of : Nat} {token : Token}, rows[i]? = some (.copy of, token) →
    of < i ∧ ∃ origin, rows[of]? = some (origin, token)
  derived : ∀ {i of : Nat} {token : Token}, rows[i]? = some (.derived of, token) →
    ∃ origin parent, rows[of]? = some (origin, parent) ∧ tree.parent? token = some parent ∧
      parent < token
  background : ∀ {i : Nat} {token : Token}, rows[i]? = some (.background, token) →
    tree.parent? token = none
  apart : ∀ {i j : Nat} {origin other : Origin} {token : Token}, rows[i]? = some (origin, token) →
    rows[j]? = some (other, token) → origin.Own → other.Own → i = j

namespace Lineage

variable {rows : List (Origin × Token)} {tree : CancelTree} {i of : Nat} {origin : Origin}
  {token : Token}

theorem empty : Lineage [] .empty where
  known := nofun
  copied := nofun
  derived := nofun
  background := nofun
  apart := nofun

theorem cancel (lineage : Lineage rows tree) (other : Token) : Lineage rows (tree.cancel other) where
  known h := by
    simpa [CancelTree.fresh, CancelTree.cancel, CancelTree.length_mark] using lineage.known h
  copied := lineage.copied
  derived h := by simpa only [CancelTree.parent?_cancel] using lineage.derived h
  background h := by simpa only [CancelTree.parent?_cancel] using lineage.background h
  apart := lineage.apart

theorem copy (lineage : Lineage rows tree) (found : rows[of]? = some (origin, token)) :
    Lineage (rows ++ [(.copy of, token)]) tree where
  known h := by
    rcases getElem?_concat_eq_some.mp h with old | ⟨-, ⟨⟩⟩
    · exact lineage.known old
    · exact lineage.known found
  copied h := by
    rcases getElem?_concat_eq_some.mp h with old | ⟨rfl, ⟨⟩⟩
    · obtain ⟨lt, origin, others⟩ := lineage.copied old
      exact ⟨lt, origin, getElem?_concat_of_some others⟩
    · exact ⟨(List.getElem?_eq_some_iff.mp found).1, origin, getElem?_concat_of_some found⟩
  derived h := by
    rcases getElem?_concat_eq_some.mp h with old | ⟨-, ⟨⟩⟩
    obtain ⟨origin, parent, others, rest⟩ := lineage.derived old
    exact ⟨origin, parent, getElem?_concat_of_some others, rest⟩
  background h := by
    rcases getElem?_concat_eq_some.mp h with old | ⟨-, ⟨⟩⟩
    exact lineage.background old
  apart hi hj iOwn jOwn := by
    rcases getElem?_concat_eq_some.mp hi with old | ⟨-, ⟨⟩⟩
    · rcases getElem?_concat_eq_some.mp hj with older | ⟨-, ⟨⟩⟩
      · exact lineage.apart old older iOwn jOwn
      · exact absurd rfl (jOwn of)
    · exact absurd rfl (iOwn of)

theorem fresh (lineage : Lineage rows tree) {parent : Option Token} (own : origin.Own)
    (derived : ∀ of, origin = .derived of → ∃ other above,
      rows[of]? = some (other, above) ∧ parent = some above)
    (background : origin = .background → parent = none) :
    Lineage (rows ++ [(origin, tree.fresh)]) (tree.derive parent) where
  known h := by
    rcases getElem?_concat_eq_some.mp h with old | ⟨-, ⟨⟩⟩
    · exact Nat.lt_succ_of_lt (lineage.known old)
    · exact Nat.lt_succ_self _
  copied h := by
    rcases getElem?_concat_eq_some.mp h with old | ⟨-, ⟨⟩⟩
    · obtain ⟨lt, origin, others⟩ := lineage.copied old
      exact ⟨lt, origin, getElem?_concat_of_some others⟩
    · exact absurd rfl (own _)
  derived h := by
    rcases getElem?_concat_eq_some.mp h with old | ⟨rfl, ⟨⟩⟩
    · obtain ⟨other, above, others, rest⟩ := lineage.derived old
      rw [CancelTree.parent?_derive_of_lt _ (lineage.known old)]
      exact ⟨other, above, getElem?_concat_of_some others, rest⟩
    · obtain ⟨other, above, found, rfl⟩ := derived _ rfl
      exact ⟨other, above, getElem?_concat_of_some found, CancelTree.parent?_derive_fresh _,
        lineage.known found⟩
  background h := by
    rcases getElem?_concat_eq_some.mp h with old | ⟨-, ⟨⟩⟩
    · rw [CancelTree.parent?_derive_of_lt _ (lineage.known old)]
      exact lineage.background old
    · rw [CancelTree.parent?_derive_fresh, background rfl]
  apart hi hj iOwn jOwn := by
    rcases getElem?_concat_eq_some.mp hi with old | ⟨rfl, ⟨⟩⟩
    · rcases getElem?_concat_eq_some.mp hj with older | ⟨-, ⟨⟩⟩
      · exact lineage.apart old older iOwn jOwn
      · exact absurd (lineage.known old) (Nat.lt_irrefl _)
    · rcases getElem?_concat_eq_some.mp hj with older | ⟨rfl, -⟩
      · exact absurd (lineage.known older) (Nat.lt_irrefl _)
      · rfl

end Lineage

/-- What a sequence of operations has led to: tokens are as where contexts are from tells, and those are
cancelled themselves that an operation cancelled. -/
structure Family.Traces (steps : List ContextStep) (family : Family) (rows : List (Origin × Token)) :
    Prop where
  told : ContextStep.origins steps = rows.map Prod.fst
  held : family.held = rows.map Prod.snd
  lineage : Lineage rows family.tokens
  cancelled : ∀ {i : Nat}, .cancel i ∈ steps → ∃ token, family.held[i]? = some token ∧
    family.tokens.isMarked token = true
  marked : ∀ {token : Token}, family.tokens.isMarked token = true →
    ∃ i, .cancel i ∈ steps ∧ family.held[i]? = some token

namespace Family

variable {now : Instant} {family after : Family} {steps : List ContextStep} {step : ContextStep}
  {rows : List (Origin × Token)}

theorem traces_start : (start now).Traces [] [] :=
  ⟨rfl, rfl, .empty, nofun, nofun⟩

/-- A context more, with nothing cancelled. -/
theorem Traces.adopt (traces : family.Traces steps rows) {origin : Origin} {token : Token}
    (made : step.origin? = some origin) (held : after.held = family.held ++ [token])
    (lineage : Lineage (rows ++ [(origin, token)]) after.tokens)
    (same : ∀ token, after.tokens.isMarked token = true ↔ family.tokens.isMarked token = true) :
    after.Traces (steps ++ [step]) (rows ++ [(origin, token)]) where
  told := by simp [ContextStep.origins, ← traces.told, made]
  held := by rw [held, traces.held, List.map_append, List.map_singleton]
  lineage := lineage
  cancelled h := by
    rcases List.mem_append.mp h with old | new
    · obtain ⟨token, found, marked⟩ := traces.cancelled old
      exact ⟨token, held ▸ getElem?_concat_of_some found, (same token).mpr marked⟩
    · cases List.mem_singleton.mp new
      cases made
  marked h := by
    obtain ⟨i, cancelled, found⟩ := traces.marked ((same _).mp h)
    exact ⟨i, List.mem_append_left _ cancelled, held ▸ getElem?_concat_of_some found⟩

/-- No context more, and cancelled is what the step cancels. -/
theorem Traces.keep (traces : family.Traces steps rows) (made : step.origin? = none)
    (held : after.held = family.held) (lineage : Lineage rows after.tokens)
    (known : ∀ i, step = .cancel i → ∃ token, family.held[i]? = some token)
    (marks : ∀ token, after.tokens.isMarked token = true ↔ family.tokens.isMarked token = true ∨
      ∃ i, step = .cancel i ∧ family.held[i]? = some token) :
    after.Traces (steps ++ [step]) rows where
  told := by simp [ContextStep.origins, ← traces.told, made]
  held := held.trans traces.held
  lineage := lineage
  cancelled h := by
    rw [held]
    rcases List.mem_append.mp h with old | new
    · obtain ⟨token, found, marked⟩ := traces.cancelled old
      exact ⟨token, found, (marks token).mpr (.inl marked)⟩
    · have last := (List.mem_singleton.mp new).symm
      obtain ⟨token, found⟩ := known _ last
      exact ⟨token, found, (marks token).mpr (.inr ⟨_, last, found⟩)⟩
  marked h := by
    rw [held]
    rcases (marks _).mp h with old | ⟨i, rfl, found⟩
    · obtain ⟨i, cancelled, found⟩ := traces.marked old
      exact ⟨i, List.mem_append_left _ cancelled, found⟩
    · exact ⟨i, List.mem_append_right _ (List.mem_singleton.mpr rfl), found⟩

theorem Traces.row (traces : family.Traces steps rows) {i : Nat} {token : Token}
    (found : family.held[i]? = some token) : ∃ origin, rows[i]? = some (origin, token) := by
  rw [traces.held, List.getElem?_map] at found
  obtain ⟨row, known, rfl⟩ := Option.map_eq_some_iff.mp found
  exact ⟨row.1, known⟩

/-- One step keeps the account. -/
theorem Traces.changed (traces : family.Traces steps rows) (changes : family.Changes after step) :
    ∃ rows, after.Traces (steps ++ [step]) rows := by
  cases changes with
  | background made held tokens =>
      refine ⟨_, traces.adopt made held ?_ fun _ => ?_⟩
      · rw [tokens]
        exact traces.lineage.fresh nofun nofun fun _ => rfl
      · rw [tokens, CancelTree.isMarked_derive]
  | copy made found held tokens =>
      obtain ⟨origin, found⟩ := traces.row found
      refine ⟨_, traces.adopt made held ?_ fun _ => ?_⟩
      · rw [tokens]
        exact traces.lineage.copy found
      · rw [tokens]
  | derived made found held tokens =>
      obtain ⟨origin, found⟩ := traces.row found
      refine ⟨_, traces.adopt made held ?_ fun _ => ?_⟩
      · rw [tokens]
        refine traces.lineage.fresh nofun ?_ nofun
        rintro of ⟨⟩
        exact ⟨origin, _, found, rfl⟩
      · rw [tokens, CancelTree.isMarked_derive]
  | @cancel of token cancels found held tokens =>
      subst cancels
      obtain ⟨origin, known⟩ := traces.row found
      have lt := traces.lineage.known known
      refine ⟨rows, traces.keep rfl held (tokens ▸ traces.lineage.cancel token) ?_ fun other => ?_⟩
      · rintro i ⟨⟩
        exact ⟨token, found⟩
      · rw [tokens, CancelTree.isMarked_cancel]
        refine or_congr_right ⟨?_, ?_⟩
        · rintro ⟨rfl, -⟩
          exact ⟨of, rfl, found⟩
        · rintro ⟨i, ⟨⟩, same⟩
          cases found.symm.trans same
          exact ⟨rfl, lt⟩
  | wait waits held tokens =>
      subst waits
      refine ⟨rows, traces.keep rfl held (tokens ▸ traces.lineage) nofun fun other => ?_⟩
      rw [tokens]
      exact ⟨.inl, fun h => h.resolve_right nofun⟩

/-- Every run keeps the account. -/
theorem traces_run (run : (start now).run steps = some family) :
    ∃ rows, family.Traces steps rows := by
  induction steps using List.reverseRecOn generalizing family with
  | nil =>
      cases run
      exact ⟨[], traces_start⟩
  | append_singleton earlier step ih =>
      rw [run_append] at run
      obtain ⟨before, run, last⟩ := Option.bind_eq_some_iff.mp run
      obtain ⟨rows, traces⟩ := ih run
      refine traces.changed (changes_of_step ?_)
      simpa [Family.run] using last

end Family

end ResilientHttp

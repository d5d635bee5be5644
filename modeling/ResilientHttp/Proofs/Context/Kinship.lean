import ResilientHttp.Proofs.Context.Family

/-!
Cancellation among contexts that come from each other. After a run the tree of tokens agrees with
what the operations tell of the contexts: two contexts share a token if theirs is the same, and one is
reached from another if its token is below the other's (`Family.Traces.reaches_iff_below`).

* `Family.isCancelled_iff_reached` — a context is cancelled if and only if one that reaches it was;
  it stays so, and what comes from it later on is cancelled too, but no ancestor and no sibling.
-/

namespace ResilientHttp

namespace Family.Traces

open ContextStep

variable {family : Family} {steps : List ContextStep} {rows : List (Origin × Token)}
  {i j of parent ancestor cancelled : Nat} {token above : Token}

theorem held_of_row (traces : family.Traces steps rows) {origin : Origin}
    (found : rows[i]? = some (origin, token)) : family.held[i]? = some token := by
  rw [traces.held, List.getElem?_map, found]
  rfl

theorem exists_row (traces : family.Traces steps rows) {origin : Origin}
    (h : (origins steps)[i]? = some origin) : ∃ token, rows[i]? = some (origin, token) := by
  rw [traces.told, List.getElem?_map] at h
  obtain ⟨row, known, rfl⟩ := Option.map_eq_some_iff.mp h
  exact ⟨row.2, known⟩

theorem origin_of_row (traces : family.Traces steps rows) {origin : Origin}
    (found : rows[i]? = some (origin, token)) : (origins steps)[i]? = some origin := by
  rw [traces.told, List.getElem?_map, found]
  rfl

/-- A copy has the token of the context that it was made from. -/
theorem of_copyOf (traces : family.Traces steps rows) (h : CopyOf steps i of) :
    ∃ token, family.held[i]? = some token ∧ family.held[of]? = some token := by
  obtain ⟨token, own⟩ := traces.exists_row h
  obtain ⟨-, origin, other⟩ := traces.lineage.copied own
  exact ⟨token, traces.held_of_row own, traces.held_of_row other⟩

/-- The token of a context that was derived comes from the token of the one it was derived from. -/
theorem of_derivedFrom (traces : family.Traces steps rows) (h : DerivedFrom steps i of) :
    ∃ token above, family.held[i]? = some token ∧ family.held[of]? = some above ∧
      family.tokens.parent? token = some above ∧ above < token := by
  obtain ⟨token, own⟩ := traces.exists_row h
  obtain ⟨origin, above, other, rest⟩ := traces.lineage.derived own
  exact ⟨token, above, traces.held_of_row own, traces.held_of_row other, rest⟩

theorem held_of_shareToken (traces : family.Traces steps rows) (h : ShareToken steps i j) :
    family.held[i]? = family.held[j]? := by
  induction h with
  | rel i of copy =>
      obtain ⟨token, own, other⟩ := traces.of_copyOf copy
      rw [own, other]
  | refl i => rfl
  | symm i j _ ih => exact ih.symm
  | trans i j k _ _ first second => exact first.trans second

/-- Every context is a copy, perhaps of a copy, of a context with a token of its own. -/
theorem exists_own (traces : family.Traces steps rows) (h : family.held[i]? = some token) :
    ∃ own origin, ShareToken steps i own ∧ ComesFrom steps i own ∧
      rows[own]? = some (origin, token) ∧ origin.Own := by
  induction i using Nat.strongRecOn with
  | _ i ih =>
      obtain ⟨origin, found⟩ := traces.row h
      by_cases own : origin.Own
      · exact ⟨i, origin, .refl i, .refl, found, own⟩
      · obtain ⟨of, rfl⟩ : ∃ of, origin = .copy of := by simpa [Origin.Own] using own
        have copy : CopyOf steps i of := traces.origin_of_row found
        obtain ⟨lt, other, others⟩ := traces.lineage.copied found
        obtain ⟨own, origin, shares, comes, rest⟩ := ih of lt (traces.held_of_row others)
        exact ⟨own, origin, .trans _ _ _ (.rel _ _ copy) shares, .head (.inl copy) comes, rest⟩

/-- Contexts share a token, as the operations tell, if it is the same one. -/
theorem shareToken_of_held (traces : family.Traces steps rows) (hi : family.held[i]? = some token)
    (hj : family.held[j]? = some token) : ShareToken steps i j := by
  obtain ⟨_, _, iShares, -, iRow, iOwn⟩ := traces.exists_own hi
  obtain ⟨_, _, jShares, -, jRow, jOwn⟩ := traces.exists_own hj
  cases traces.lineage.apart iRow jRow iOwn jOwn
  exact .trans _ _ _ iShares (.symm _ _ jShares)

theorem below_of_comesFrom (traces : family.Traces steps rows) (comes : ComesFrom steps i ancestor)
    (h : family.held[i]? = some token) :
    ∃ above, family.held[ancestor]? = some above ∧ family.tokens.Below token above := by
  induction comes using Relation.ReflTransGen.head_induction_on generalizing token with
  | refl => exact ⟨token, h, .same⟩
  | head made _ ih =>
      rcases made with copy | derived
      · obtain ⟨same, own, other⟩ := traces.of_copyOf copy
        cases h.symm.trans own
        exact ih other
      · obtain ⟨same, parent, own, other, hparent, before⟩ := traces.of_derivedFrom derived
        cases h.symm.trans own
        obtain ⟨above, found, below⟩ := ih other
        exact ⟨above, found, .derived hparent before below⟩

theorem comesFrom_of_below (traces : family.Traces steps rows)
    (below : family.tokens.Below token above) (h : family.held[i]? = some token) :
    ∃ ancestor, ComesFrom steps i ancestor ∧ family.held[ancestor]? = some above := by
  induction below generalizing i with
  | same => exact ⟨i, .refl, h⟩
  | derived hparent _ _ ih =>
      obtain ⟨own, origin, -, comes, found, hown⟩ := traces.exists_own h
      cases origin with
      | background =>
          rw [traces.lineage.background found] at hparent
          cases hparent
      | copy of => exact absurd rfl (hown of)
      | derived of =>
          obtain ⟨other, parent, others, same, -⟩ := traces.lineage.derived found
          cases hparent.symm.trans same
          obtain ⟨ancestor, onward, reached⟩ := ih (traces.held_of_row others)
          have derived : DerivedFrom steps own of := traces.origin_of_row found
          exact ⟨ancestor, comes.trans (.head (.inr derived) onward), reached⟩

/-- Being reached is being below, as far as tokens are concerned. -/
theorem reaches_iff_below (traces : family.Traces steps rows) (h : family.held[i]? = some token) :
    Reaches steps cancelled i ↔
      ∃ above, family.held[cancelled]? = some above ∧ family.tokens.Below token above := by
  constructor
  · rintro ⟨ancestor, comes, shares⟩
    obtain ⟨above, found, below⟩ := traces.below_of_comesFrom comes h
    exact ⟨above, (traces.held_of_shareToken shares).trans found, below⟩
  · rintro ⟨above, found, below⟩
    obtain ⟨ancestor, comes, reached⟩ := traces.comesFrom_of_below below h
    exact ⟨ancestor, comes, traces.shareToken_of_held found reached⟩

theorem isCancelled_iff (traces : family.Traces steps rows) (h : family.held[i]? = some token) :
    family.tokens.isCancelled token = true ↔
      ∃ cancelled, .cancel cancelled ∈ steps ∧ Reaches steps cancelled i := by
  rw [CancelTree.isCancelled_iff_exists_marked]
  constructor
  · rintro ⟨above, below, marked⟩
    obtain ⟨cancelled, member, found⟩ := traces.marked marked
    exact ⟨cancelled, member, (traces.reaches_iff_below h).mpr ⟨above, found, below⟩⟩
  · rintro ⟨cancelled, member, reaches⟩
    obtain ⟨above, found, below⟩ := (traces.reaches_iff_below h).mp reaches
    obtain ⟨same, found', marked⟩ := traces.cancelled member
    cases found.symm.trans found'
    exact ⟨above, below, marked⟩

theorem held_of_reaches (traces : family.Traces steps rows) (reaches : Reaches steps cancelled i)
    (apart : ¬ ShareToken steps cancelled i) : ∃ token, family.held[i]? = some token := by
  obtain ⟨ancestor, comes, shares⟩ := reaches
  rcases comes.cases_head with rfl | ⟨of, copy | derived, -⟩
  · exact absurd shares apart
  · obtain ⟨token, own, -⟩ := traces.of_copyOf copy
    exact ⟨token, own⟩
  · obtain ⟨token, above, own, -⟩ := traces.of_derivedFrom derived
    exact ⟨token, own⟩

/-- No context reaches one that it comes from. -/
theorem not_reaches_ancestor (traces : family.Traces steps rows) (reaches : Reaches steps i j)
    (apart : ¬ ShareToken steps i j) : ¬ Reaches steps j i := by
  intro back
  obtain ⟨token, hj⟩ := traces.held_of_reaches reaches apart
  obtain ⟨other, hi⟩ := traces.held_of_reaches back (mt (.symm _ _) apart)
  obtain ⟨_, found, below⟩ := (traces.reaches_iff_below hj).mp reaches
  cases hi.symm.trans found
  obtain ⟨_, found, above⟩ := (traces.reaches_iff_below hi).mp back
  cases hj.symm.trans found
  cases Nat.le_antisymm below.le above.le
  exact apart (traces.shareToken_of_held hi hj)

theorem of_parent (traces : family.Traces steps rows) (h : Parent steps i parent) :
    ∃ token above, family.held[i]? = some token ∧ family.held[parent]? = some above ∧
      family.tokens.parent? token = some above ∧ above < token := by
  obtain ⟨sharing, shares, derived⟩ := h
  rw [traces.held_of_shareToken shares]
  exact traces.of_derivedFrom derived

/-- No context reaches one that has the same parent. -/
theorem not_reaches_sibling (traces : family.Traces steps rows) (siblings : Siblings steps i j) :
    ¬ Reaches steps j i := by
  obtain ⟨apart, parent, other, iParent, jParent, same⟩ := siblings
  obtain ⟨token, above, hi, hparent, parent?, -⟩ := traces.of_parent iParent
  obtain ⟨_, _, hj, hother, -, before⟩ := traces.of_parent jParent
  rw [traces.held_of_shareToken same, hother] at hparent
  cases hparent
  intro reaches
  obtain ⟨_, found, below⟩ := (traces.reaches_iff_below hi).mp reaches
  cases hj.symm.trans found
  cases below with
  | same => exact apart (traces.shareToken_of_held hi hj)
  | derived parent?' _ onward =>
      cases parent?.symm.trans parent?'
      exact absurd before (Nat.not_lt_of_le onward.le)

end Family.Traces

namespace ContextStep

variable {steps later : List ContextStep} {i j of ancestor cancelled : Nat}

theorem origins_append : origins (steps ++ later) = origins steps ++ origins later :=
  List.filterMap_append

theorem origin_append {origin : Origin} (h : (origins steps)[i]? = some origin) :
    (origins (steps ++ later))[i]? = some origin := by
  rw [origins_append, List.getElem?_append_left (List.getElem?_eq_some_iff.mp h).1, h]

theorem ShareToken.append (h : ShareToken steps i j) : ShareToken (steps ++ later) i j :=
  h.mono fun _ _ => origin_append

theorem ComesFrom.append (h : ComesFrom steps i ancestor) :
    ComesFrom (steps ++ later) i ancestor := by
  induction h with
  | refl => exact .refl
  | tail _ made ih => exact ih.tail (made.imp origin_append origin_append)

/-- A context is reached from where one is that it comes from. -/
theorem Reaches.of_comesFrom (reaches : Reaches steps cancelled i) (comes : ComesFrom steps j i) :
    Reaches steps cancelled j := by
  obtain ⟨ancestor, onward, shares⟩ := reaches
  exact ⟨ancestor, comes.trans onward, shares⟩

theorem Reaches.append (reaches : Reaches steps cancelled i) :
    Reaches (steps ++ later) cancelled i := by
  obtain ⟨ancestor, comes, shares⟩ := reaches
  exact ⟨ancestor, comes.append, shares.append⟩

/-- Cancelling changes nothing about who comes from whom. -/
theorem reaches_cancel : Reaches (steps ++ [.cancel of]) cancelled i ↔ Reaches steps cancelled i := by
  have same : origins (steps ++ [.cancel of]) = origins steps := by
    rw [origins_append]
    exact List.append_nil _
  have copy : CopyOf (steps ++ [.cancel of]) = CopyOf steps := by
    funext i j
    rw [CopyOf, CopyOf, same]
  simp only [Reaches, ComesFrom, ShareToken, DerivedFrom, copy, same]

end ContextStep

namespace Family

open ContextStep

variable {now : Instant} {family after : Family} {steps later : List ContextStep}
  {step : ContextStep} {token : Token}

theorem Changes.isCancelled (changes : family.Changes after step)
    (h : family.tokens.isCancelled token = true) : after.tokens.isCancelled token = true := by
  cases changes with
  | background _ _ tokens | derived _ _ _ tokens =>
      rw [tokens]
      exact CancelTree.isCancelled_derive _ h
  | copy _ _ _ tokens | wait _ _ tokens =>
      rw [tokens]
      exact h
  | cancel _ _ _ tokens =>
      rw [tokens]
      exact CancelTree.isCancelled_cancel _ h

theorem isCancelled_run (run : family.run later = some after)
    (h : family.tokens.isCancelled token = true) : after.tokens.isCancelled token = true := by
  induction later generalizing family with
  | nil =>
      cases run
      exact h
  | cons step later ih =>
      obtain ⟨next, first, rest⟩ := Option.bind_eq_some_iff.mp run
      exact ih rest ((changes_of_step first).isCancelled h)

/-- After any operations, a context is cancelled if and only if one was that reaches it: one that
shares its token or the token of a context it comes from. Then it stays cancelled, and so is every
context that comes from it, now or later on. Cancelling a context cancels what it reaches and
nothing else, and it reaches neither a context it comes from nor one that has the same parent. -/
theorem isCancelled_iff_reached (run : (start now).run steps = some family)
    (onward : family.run later = some after) :
    (∀ i context, family.contexts[i]? = some context →
      (family.tokens.isCancelled context.token = true ↔
        ∃ cancelled, .cancel cancelled ∈ steps ∧ Reaches steps cancelled i)) ∧
    (∀ token, family.tokens.isCancelled token = true → after.tokens.isCancelled token = true) ∧
    (∀ i context j descendant, family.contexts[i]? = some context →
      family.tokens.isCancelled context.token = true →
      after.contexts[j]? = some descendant → ComesFrom (steps ++ later) j i →
      after.tokens.isCancelled descendant.token = true) ∧
    (∀ cancelled ended, family.step (.cancel cancelled) = some ended →
      ∀ i context, family.contexts[i]? = some context →
        (ended.tokens.isCancelled context.token = true ↔
          family.tokens.isCancelled context.token = true ∨ Reaches steps cancelled i)) ∧
    (∀ i j, Reaches steps i j → ¬ ShareToken steps i j → ¬ Reaches steps j i) ∧
    ∀ i j, Siblings steps i j → ¬ Reaches steps j i := by
  obtain ⟨rows, traces⟩ := traces_run run
  refine ⟨fun i context found => traces.isCancelled_iff (held_getElem? found),
    fun token => isCancelled_run onward, ?_, ?_, fun i j => traces.not_reaches_ancestor,
    fun i j => traces.not_reaches_sibling⟩
  · intro i context j descendant found cancelled later? comes
    have whole : (start now).run (steps ++ later) = some after := by
      rw [run_append, run]
      exact onward
    obtain ⟨_, grown⟩ := traces_run whole
    obtain ⟨k, member, reaches⟩ := (traces.isCancelled_iff (held_getElem? found)).mp cancelled
    exact (grown.isCancelled_iff (held_getElem? later?)).mpr
      ⟨k, List.mem_append_left _ member, reaches.append.of_comesFrom comes⟩
  · intro k ended last i context found
    obtain ⟨_, grown⟩ := traces.changed (changes_of_step last)
    obtain ⟨other, found', rfl⟩ := Option.map_eq_some_iff.mp last
    rw [grown.isCancelled_iff (held_getElem? found), traces.isCancelled_iff (held_getElem? found)]
    simp only [List.mem_append, List.mem_singleton, cancel.injEq, or_and_right, exists_or,
      reaches_cancel, exists_eq_left]

/-- A context with two children, the first of which has a copy and contexts derived from it; the copy
is cancelled. -/
def cancelledBranch : List ContextStep :=
  [.background, .child 0, .copy 1, .child 0, .timeout 1 { seconds := 0, nanos := 9 }, .wait 5,
    .cancel 2, .deadline 4 7]

/-- What the cancelled branch leads to. -/
def branchFamily : Family where
  now := 5
  tokens := ⟨[⟨some 3, false⟩, ⟨some 1, false⟩, ⟨some 0, false⟩, ⟨some 0, true⟩, ⟨none, false⟩]⟩
  contexts := [⟨0, none⟩, ⟨1, none⟩, ⟨1, none⟩, ⟨2, none⟩, ⟨3, some 9⟩, ⟨4, some 7⟩]

/-- The branch of the copy is cancelled, also where it is made longer, and the rest is not. -/
theorem isCancelled_branchFamily : (start 0).run cancelledBranch = some branchFamily ∧
    Reaches cancelledBranch 2 5 ∧ ¬ Reaches cancelledBranch 2 3 ∧
    ∃ after, branchFamily.run [.child 5, .child 3] = some after ∧
      after.contexts.map (fun context => after.tokens.isCancelled context.token) =
        [false, true, true, false, true, true, true, false] := by
  have run : (start 0).run cancelledBranch = some branchFamily := by decide +kernel
  have grows : (branchFamily.run [.child 5, .child 3]).isSome := by decide
  have onward := (Option.some_get grows).symm
  obtain ⟨reached, -⟩ := isCancelled_iff_reached run onward
  refine ⟨run, ?_, fun other => ?_, _, onward, rfl⟩
  · obtain ⟨cancelled, member, reaches⟩ := (reached 5 ⟨4, some 7⟩ rfl).mp (by decide)
    obtain rfl : cancelled = 2 := by simpa [cancelledBranch] using member
    exact reaches
  · have cancelled := (reached 3 ⟨2, none⟩ rfl).mpr ⟨2, by simp [cancelledBranch], other⟩
    exact absurd cancelled (by decide)

end Family
end ResilientHttp

import ResilientHttp.Proofs.Context.Guard

/-!
Contexts that come from each other. `CancelTree.Below` follows the parents of a token, and
`Context.Under` compares whole contexts: one is under another if its token comes from the other's and
its deadline is no later. Time goes on and the tree only grows (`World.Onward`), so a context that has
ended stays so (`endedIn?_onward`), and with it every context under it (`Under.endedIn?`).

* `CancelTree.isCancelled_iff_exists_marked` — a token is cancelled if and only if it or one that it
  comes from was cancelled itself.
* `onward_cancel` — cancelling a context makes a world go on.
-/

namespace ResilientHttp

variable {σ : Type}

namespace CancelTree

/-- The token that a token was derived from, among tokens from newest to oldest. -/
def parentIn? : List TokenNode → Token → Option Token
  | [], _ => none
  | node :: older, token => if token = older.length then node.parent else parentIn? older token

/-- The token that a token was derived from. -/
def parent? (tree : CancelTree) (token : Token) : Option Token := parentIn? tree.nodes token

/-- A token is another one or comes from it. -/
inductive Below (tree : CancelTree) : Token → Token → Prop where
  | same {token : Token} : Below tree token token
  | derived {token parent ancestor : Token} : tree.parent? token = some parent → parent < token →
      Below tree parent ancestor → Below tree token ancestor

variable {tree : CancelTree} {nodes : List TokenNode} {token other parent ancestor : Token}

theorem lt_of_cancelledIn (h : cancelledIn nodes token = true) : token < nodes.length := by
  induction nodes with
  | nil => cases h
  | cons node older ih =>
      rw [cancelledIn] at h
      split at h
      · simp [*]
      · exact Nat.lt_succ_of_lt (ih h)

theorem lt_of_parentIn? (h : parentIn? nodes token = some parent) : token < nodes.length := by
  induction nodes with
  | nil => cases h
  | cons node older ih =>
      rw [parentIn?] at h
      split at h
      · simp [*]
      · exact Nat.lt_succ_of_lt (ih h)

/-- What newer tokens are, older ones do not depend on. -/
theorem cancelledIn_cons_of_lt {node : TokenNode} (h : token < nodes.length) :
    cancelledIn (node :: nodes) token = cancelledIn nodes token := by
  rw [cancelledIn, if_neg (Nat.ne_of_lt h)]

theorem cancelledIn_of_parent (hparent : parentIn? nodes token = some parent)
    (before : parent < token) (h : cancelledIn nodes parent = true) :
    cancelledIn nodes token = true := by
  induction nodes with
  | nil => cases h
  | cons node older ih =>
      rw [parentIn?] at hparent
      split at hparent
      · rename_i newest
        subst newest
        rw [cancelledIn_cons_of_lt before] at h
        rw [cancelledIn, if_pos rfl, hparent]
        simp [h]
      · rename_i notNewest
        have known := lt_of_parentIn? hparent
        rw [cancelledIn_cons_of_lt (Nat.lt_trans before known)] at h
        rw [cancelledIn_cons_of_lt known]
        exact ih hparent h

/-- What comes from a cancelled token is cancelled. -/
theorem Below.isCancelled (below : tree.Below token ancestor)
    (h : tree.isCancelled ancestor = true) : tree.isCancelled token = true := by
  induction below with
  | same => exact h
  | derived hparent before _ ih => exact cancelledIn_of_parent hparent before (ih h)

theorem length_mark (nodes : List TokenNode) (token : Token) :
    (mark nodes token).length = nodes.length := by
  induction nodes with
  | nil => rfl
  | cons node older ih =>
      rw [mark]
      split
      · rfl
      · simp [ih]

theorem cancelledIn_mark (h : cancelledIn nodes token = true) :
    cancelledIn (mark nodes other) token = true := by
  induction nodes generalizing token with
  | nil => cases h
  | cons node older ih =>
      rw [mark]
      split
      · rw [cancelledIn] at h ⊢
        split at h
        · simp [*]
        · simp [*]
      · rw [cancelledIn] at h ⊢
        rw [length_mark]
        split at h
        · rename_i newest
          rw [if_pos newest]
          rcases Bool.or_eq_true .. |>.mp h with own | inherited
          · simp [own]
          · cases hparent : node.parent with
            | none => simp [hparent] at inherited
            | some parent =>
                rw [hparent] at inherited
                simp [ih inherited]
        · rename_i notNewest
          rw [if_neg notNewest]
          exact ih h

/-- A cancelled token stays so when another one is cancelled. -/
theorem isCancelled_cancel (other : Token) (h : tree.isCancelled token = true) :
    (tree.cancel other).isCancelled token = true :=
  cancelledIn_mark h

/-- A cancelled token stays so when a new one is derived. -/
theorem isCancelled_derive (parent : Option Token) (h : tree.isCancelled token = true) :
    (tree.derive parent).isCancelled token = true := by
  rw [isCancelled, derive, cancelledIn_cons_of_lt (lt_of_cancelledIn h)]
  exact h

theorem parentIn?_mark (nodes : List TokenNode) (token other : Token) :
    parentIn? (mark nodes other) token = parentIn? nodes token := by
  induction nodes with
  | nil => rfl
  | cons node older ih =>
      rw [mark]
      split
      · rfl
      · rw [parentIn?, parentIn?, length_mark, ih]

/-- What comes from a token does so in every tree in which the parents are the same. -/
theorem Below.mono {grown : CancelTree} (below : tree.Below token ancestor)
    (parents : ∀ token parent, tree.parent? token = some parent →
      grown.parent? token = some parent) :
    grown.Below token ancestor := by
  induction below with
  | same => exact .same
  | derived hparent before _ ih => exact .derived (parents _ _ hparent) before ih

/-- What a token comes from is no newer. -/
theorem Below.le (below : tree.Below token ancestor) : ancestor ≤ token := by
  induction below with
  | same => exact Nat.le_refl _
  | derived _ before _ ih => exact Nat.le_trans ih (Nat.le_of_lt before)

theorem parent?_derive_fresh (origin : Option Token) :
    (tree.derive origin).parent? tree.fresh = origin :=
  if_pos rfl

theorem parent?_derive_of_lt (origin : Option Token) (h : token < tree.fresh) :
    (tree.derive origin).parent? token = tree.parent? token :=
  if_neg (Nat.ne_of_lt h)

theorem parent?_cancel (other : Token) : (tree.cancel other).parent? token = tree.parent? token :=
  parentIn?_mark _ token other

/-! ### Tokens that were cancelled themselves -/

/-- Whether a token was cancelled itself, among tokens from newest to oldest. -/
def markedIn : List TokenNode → Token → Bool
  | [], _ => false
  | node :: older, token =>
    if token = older.length then node.cancelled else markedIn older token

/-- Whether a token was cancelled itself. -/
def isMarked (tree : CancelTree) (token : Token) : Bool := markedIn tree.nodes token

theorem lt_of_markedIn (h : markedIn nodes token = true) : token < nodes.length := by
  induction nodes with
  | nil => cases h
  | cons node older ih =>
      rw [markedIn] at h
      split at h
      · simp [*]
      · exact Nat.lt_succ_of_lt (ih h)

theorem markedIn_mark :
    markedIn (mark nodes other) token =
      (markedIn nodes token || decide (token = other ∧ token < nodes.length)) := by
  induction nodes with
  | nil => simp [mark, markedIn]
  | cons node older ih =>
      rw [mark]
      split
      · rename_i newest
        subst newest
        by_cases same : token = older.length
        · simp [markedIn, same]
        · simp [markedIn, same]
      · rename_i notNewest
        rw [markedIn, markedIn, length_mark, ih]
        by_cases same : token = older.length
        · simp [same, Ne.symm notNewest]
        · have older_iff : token < older.length + 1 ↔ token < older.length :=
            Nat.lt_succ_iff_lt_or_eq.trans (or_iff_left same)
          simp only [if_neg same, List.length_cons, older_iff]

/-- Cancelling a token marks it and no other. -/
theorem isMarked_cancel :
    (tree.cancel other).isMarked token = true ↔
      tree.isMarked token = true ∨ token = other ∧ token < tree.fresh := by
  rw [isMarked, cancel, markedIn_mark, Bool.or_eq_true, decide_eq_true_iff]
  rfl

/-- A new token is not cancelled, and the others are as they were. -/
theorem isMarked_derive (origin : Option Token) :
    (tree.derive origin).isMarked token = true ↔ tree.isMarked token = true := by
  rw [isMarked, derive, markedIn]
  split
  · rename_i fresh
    refine ⟨nofun, fun marked => ?_⟩
    exact absurd (lt_of_markedIn marked) (fresh ▸ Nat.lt_irrefl _)
  · rfl

theorem cancelledIn_of_markedIn (h : markedIn nodes token = true) : cancelledIn nodes token = true := by
  induction nodes with
  | nil => cases h
  | cons node older ih =>
      rw [markedIn] at h
      rw [cancelledIn]
      split at h
      · simp [*]
      · simp [*]

/-- A token is cancelled if and only if it or a token that it comes from was cancelled itself. -/
theorem isCancelled_iff_exists_marked :
    tree.isCancelled token = true ↔
      ∃ ancestor, tree.Below token ancestor ∧ tree.isMarked ancestor = true := by
  constructor
  · obtain ⟨nodes⟩ := tree
    intro h
    induction nodes generalizing token with
    | nil => cases h
    | cons node older ih =>
        -- What holds among the older tokens does so with the newest one added.
        have lift : ∀ {token}, cancelledIn older token = true → ∃ ancestor,
            Below ⟨node :: older⟩ token ancestor ∧ markedIn (node :: older) ancestor = true := by
          intro token cancelled
          obtain ⟨ancestor, below, marked⟩ := ih cancelled
          refine ⟨ancestor, below.mono fun token parent h => ?_, ?_⟩
          · rwa [parent?, parentIn?, if_neg (Nat.ne_of_lt (lt_of_parentIn? h))]
          · rwa [markedIn, if_neg (Nat.ne_of_lt (lt_of_markedIn marked))]
        rw [isCancelled, cancelledIn] at h
        split at h
        · rename_i newest
          rcases Bool.or_eq_true .. |>.mp h with own | inherited
          · exact ⟨token, .same, by rwa [isMarked, markedIn, if_pos newest]⟩
          · cases hparent : node.parent with
            | none => simp [hparent] at inherited
            | some parent =>
                rw [hparent] at inherited
                obtain ⟨ancestor, below, marked⟩ := lift inherited
                refine ⟨ancestor, .derived ?_ (newest ▸ lt_of_cancelledIn inherited) below, marked⟩
                rw [parent?, parentIn?, if_pos newest, hparent]
        · exact lift h
  · rintro ⟨ancestor, below, marked⟩
    exact below.isCancelled (cancelledIn_of_markedIn marked)

end CancelTree

/-- The clock does not go back, what is cancelled stays so, and tokens keep their parents. -/
structure World.Onward (world after : World σ) : Prop where
  clock : world.now ≤ after.now
  cancelled : ∀ token, world.tokens.isCancelled token = true → after.tokens.isCancelled token = true
  parents : ∀ token parent, world.tokens.parent? token = some parent →
    after.tokens.parent? token = some parent

namespace World

theorem onward_refl (world : World σ) : world.Onward world :=
  ⟨Nat.le_refl _, fun _ => id, fun _ _ => id⟩

theorem Onward.trans {first second third : World σ} (h : first.Onward second)
    (h' : second.Onward third) : first.Onward third where
  clock := Nat.le_trans h.clock h'.clock
  cancelled token := h'.cancelled token ∘ h.cancelled token
  parents token parent := h'.parents token parent ∘ h.parents token parent

/-- Cancelling any context is going on. -/
theorem onward_cancel (world : World σ) (token : Token) :
    world.Onward { world with tokens := world.tokens.cancel token } where
  clock := Nat.le_refl _
  cancelled _ := CancelTree.isCancelled_cancel token
  parents other _ := (CancelTree.parentIn?_mark _ other token).trans

end World

namespace Context

variable {context other : Context} {world after : World σ} {tokens : CancelTree}

/-- A context has not ended if and only if its token is not cancelled and its deadline is still to
come. -/
theorem endedIn?_eq_none_iff_live :
    context.endedIn? world = none ↔ world.tokens.isCancelled context.token = false ∧
      ∀ limit, context.deadline = some limit → world.now < limit := by
  rw [endedIn?_eq_none_iff]
  cases context.deadline <;> simp

/-- A context that has ended stays so. -/
theorem endedIn?_onward (onward : world.Onward after) (h : context.endedIn? after = none) :
    context.endedIn? world = none := by
  rw [endedIn?_eq_none_iff_live] at h ⊢
  refine ⟨?_, fun limit bound => Nat.lt_of_le_of_lt onward.clock (h.2 limit bound)⟩
  cases hworld : world.tokens.isCancelled context.token with
  | false => rfl
  | true => exact absurd (onward.cancelled _ hworld) (by simp [h.1])

/-- A context is another one, or was derived from it: its token comes from the other's, and its
deadline is no later. -/
structure Under (tokens : CancelTree) (context other : Context) : Prop where
  token : tokens.Below context.token other.token
  deadline : ∀ limit, other.deadline = some limit →
    ∃ own, context.deadline = some own ∧ own ≤ limit

/-- Derived contexts stay so. -/
theorem Under.onward (under : Under world.tokens context other) (onward : world.Onward after) :
    Under after.tokens context other :=
  ⟨under.token.mono onward.parents, under.deadline⟩

/-- While a context has not ended, nor has any that it is under. -/
theorem Under.endedIn? (under : Under world.tokens context other)
    (h : context.endedIn? world = none) : other.endedIn? world = none := by
  rw [endedIn?_eq_none_iff_live] at h ⊢
  refine ⟨?_, fun limit bound => ?_⟩
  · cases hother : world.tokens.isCancelled other.token with
    | false => rfl
    | true => exact absurd (under.token.isCancelled hother) (by simp [h.1])
  · obtain ⟨own, hown, le⟩ := under.deadline limit bound
    exact Nat.lt_of_lt_of_le (h.2 own hown) le

end Context
end ResilientHttp

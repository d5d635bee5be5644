import ResilientHttp.Network.Semaphore
import Mathlib.Data.List.Nodup

/-!
What a semaphore never loses. `Semaphore.Balanced` says that each permit is free or held, that nobody
waits while one is free, and that nobody stands twice. Asking for a permit keeps the balance
(`Balanced.enter`), and so does leaving, for somebody who is there (`Balanced.leave`); whoever leaves
twice destroys it. Neither does anything to anybody else (`Passes`).
-/

namespace ResilientHttp.Semaphore

/-- Every permit is free or held, nobody waits while one is free, and nobody is there twice. -/
structure Balanced (permits : Nat) (semaphore : Semaphore) : Prop where
  count : semaphore.free + semaphore.holders.length = permits
  line : semaphore.free = 0 ∨ semaphore.line = []
  nodup : semaphore.tickets.Nodup

variable {permits number other : Nat} {semaphore : Semaphore}

@[simp] theorem mem_tickets :
    number ∈ semaphore.tickets ↔ number ∈ semaphore.holders ∨ number ∈ semaphore.line :=
  List.mem_append

theorem balanced_ofPermits (permits : Nat) : (ofPermits permits).Balanced permits :=
  ⟨rfl, .inr rfl, List.nodup_nil⟩

/-! ### Who is there -/

theorem perm_tickets_enter (number : Nat) (semaphore : Semaphore) :
    (semaphore.enter number).tickets.Perm (number :: semaphore.tickets) := by
  unfold enter tickets
  split
  · exact (List.append_assoc ..) ▸ List.perm_append_singleton ..
  · exact (List.append_assoc ..) ▸ List.perm_middle

theorem mem_tickets_enter :
    other ∈ (semaphore.enter number).tickets ↔ other = number ∨ other ∈ semaphore.tickets :=
  (perm_tickets_enter number semaphore).mem_iff.trans List.mem_cons

theorem perm_tickets_leave (h : number ∈ semaphore.tickets) :
    (number :: (semaphore.leave number).tickets).Perm semaphore.tickets := by
  unfold leave
  split
  · rename_i waits
    exact List.perm_middle.symm.trans ((List.perm_cons_erase waits).symm.append_left _)
  · rename_i notWaits
    have holds : number ∈ semaphore.holders := (mem_tickets.mp h).resolve_right notWaits
    have held := (List.perm_cons_erase holds).symm
    unfold release
    cases hline : semaphore.line with
    | nil => simpa [tickets, hline] using held
    | cons next line =>
        rw [tickets, tickets, hline, List.append_assoc]
        exact held.append_right _

theorem mem_tickets_leave (nodup : semaphore.tickets.Nodup) (h : number ∈ semaphore.tickets) :
    other ∈ (semaphore.leave number).tickets ↔ other ∈ semaphore.tickets ∧ other ≠ number := by
  have perm := perm_tickets_leave h
  obtain ⟨gone, -⟩ := List.nodup_cons.mp (perm.nodup_iff.mpr nodup)
  rw [← perm.mem_iff, List.mem_cons]
  constructor
  · intro mem
    exact ⟨.inr mem, fun same => gone (same ▸ mem)⟩
  · rintro ⟨same | mem, different⟩
    · exact absurd same different
    · exact mem

/-- Whoever holds a permit keeps it when others come. -/
theorem mem_holders_enter (h : other ∈ semaphore.holders) :
    other ∈ (semaphore.enter number).holders := by
  unfold enter
  split
  · exact h
  · exact List.mem_append_left _ h

/-- Whoever holds a permit keeps it when others leave. -/
theorem mem_holders_leave (h : other ∈ semaphore.holders) (different : other ≠ number) :
    other ∈ (semaphore.leave number).holders := by
  have kept := (List.mem_erase_of_ne different).mpr h
  unfold leave release
  split
  · exact h
  · split
    · exact kept
    · exact List.mem_append_left _ kept

/-! ### The balance -/

theorem Balanced.enter (h : semaphore.Balanced permits) (fresh : number ∉ semaphore.tickets) :
    (semaphore.enter number).Balanced permits := by
  refine ⟨?_, ?_, ?_⟩
  · have count := h.count
    unfold Semaphore.enter
    split
    · exact count
    · simp only [List.length_append, List.length_singleton]
      omega
  · unfold Semaphore.enter
    split
    · exact .inl ‹_›
    · exact .inr (h.line.resolve_left ‹_›)
  · exact (perm_tickets_enter number semaphore).nodup_iff.mpr (List.nodup_cons.mpr ⟨fresh, h.nodup⟩)

/-- A permit that is given back is free again, or it goes to the first in line. -/
theorem Balanced.release (h : semaphore.Balanced permits) (holds : number ∈ semaphore.holders) :
    (semaphore.release number).free + (semaphore.release number).holders.length = permits ∧
      ((semaphore.release number).free = 0 ∨ (semaphore.release number).line = []) := by
  have count := h.count
  have one := List.length_erase_add_one holds
  unfold Semaphore.release
  cases hline : semaphore.line with
  | nil =>
      refine ⟨?_, .inr rfl⟩
      dsimp only
      omega
  | cons next line =>
      have none : semaphore.free = 0 := h.line.resolve_right (by simp [hline])
      refine ⟨?_, .inl none⟩
      simp only [List.length_append, List.length_singleton]
      omega

theorem Balanced.leave (h : semaphore.Balanced permits) (there : number ∈ semaphore.tickets) :
    (semaphore.leave number).Balanced permits := by
  have nodup : (semaphore.leave number).tickets.Nodup :=
    (List.nodup_cons.mp ((perm_tickets_leave there).nodup_iff.mpr h.nodup)).2
  by_cases waits : number ∈ semaphore.line
  · have left : semaphore.leave number = { semaphore with line := semaphore.line.erase number } :=
      if_pos waits
    have none : semaphore.free = 0 := h.line.resolve_right (List.ne_nil_of_mem waits)
    rw [left] at nodup ⊢
    exact ⟨h.count, .inl none, nodup⟩
  · have left : semaphore.leave number = semaphore.release number := if_neg waits
    obtain ⟨count, line⟩ := h.release ((mem_tickets.mp there).resolve_right waits)
    rw [left] at nodup ⊢
    exact ⟨count, line, nodup⟩

/-! ### One number among others -/

/-- What somebody under a number may do to a semaphore: it is balanced after that, all others stand where
they stood, and those that hold a permit keep it. -/
structure Passes (permits number : Nat) (semaphore after : Semaphore) : Prop where
  balanced : after.Balanced permits
  tickets : ∀ other, other ≠ number → (other ∈ after.tickets ↔ other ∈ semaphore.tickets)
  holders : ∀ other, other ≠ number → other ∈ semaphore.holders → other ∈ after.holders

theorem Balanced.passes_enter (h : semaphore.Balanced permits) (fresh : number ∉ semaphore.tickets) :
    semaphore.Passes permits number (semaphore.enter number) where
  balanced := h.enter fresh
  tickets _ different := mem_tickets_enter.trans (or_iff_right different)
  holders _ _ := mem_holders_enter

theorem Balanced.passes_leave (h : semaphore.Balanced permits) (there : number ∈ semaphore.tickets) :
    semaphore.Passes permits number (semaphore.leave number) where
  balanced := h.leave there
  tickets _ different := (mem_tickets_leave h.nodup there).trans (and_iff_left different)
  holders _ different holds := mem_holders_leave holds different

end ResilientHttp.Semaphore

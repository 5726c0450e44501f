import Mathlib.Data.List.Count
import FusionRouter.Lib.Interleaving

/-!
# Critical sections

Threads that take turns behind a lock.  At most one of them is inside, so what
it has read of the shared state stays true until it leaves: the others neither
enter nor change what it knows.
-/

namespace Interleaving

open List

variable {Shared Local : Type}

/-- How the steps of a thread use the lock.  `Knows` is what a thread inside has
found out about the shared state. -/
structure Guarded (action : Shared → Local → Shared → Local → Prop)
    (locked : Shared → Bool) (inside : Local → Bool) (Knows : Shared → Local → Prop) : Prop where
  enters : ∀ {shared here shared' here'}, action shared here shared' here' →
    inside here = false → inside here' = true →
      locked shared = false ∧ locked shared' = true ∧ Knows shared' here'
  stays : ∀ {shared here shared' here'}, action shared here shared' here' →
    inside here = true → inside here' = true → Knows shared here →
      locked shared' = locked shared ∧ Knows shared' here'
  leaves : ∀ {shared here shared' here'}, action shared here shared' here' →
    inside here = true → inside here' = false → locked shared' = false
  outside : ∀ {shared here shared' here'}, action shared here shared' here' →
    inside here = false → inside here' = false → locked shared' = locked shared ∧
        ∀ other, Knows shared other → Knows shared' other

/-- The lock is held by the one thread that is inside. -/
structure Excludes (locked : Shared → Bool) (inside : Local → Bool)
    (Knows : Shared → Local → Prop) (shared : Shared) (threads : List Local) : Prop where
  count : threads.countP inside = (locked shared).toNat
  knows : ∀ here ∈ threads, inside here = true → Knows shared here

variable {action : Shared → Local → Shared → Local → Prop}
  {locked : Shared → Bool} {inside : Local → Bool}
  {Knows : Shared → Local → Prop}

namespace Excludes

variable {shared : Shared} {threads : List Local}

theorem perm {threads' : List Local} (permuted : threads.Perm threads')
    (held : Excludes locked inside Knows shared threads) :
    Excludes locked inside Knows shared threads' := by
  constructor
  · rw [← permuted.countP_eq]
    exact held.count
  · intro here member
    exact held.knows here (permuted.mem_iff.mpr member)

theorem free (unlocked : locked shared = false) (waiting : ∀ here ∈ threads, inside here = false) :
    Excludes locked inside Knows shared threads := by
  constructor
  · rw [unlocked, countP_eq_zero.mpr]
    · rfl
    · intro here member
      simp [waiting here member]
  · intro here member entered
    rw [waiting here member] at entered
    cases entered

theorem others_outside {here : Local} {others : List Local}
    (held : Excludes locked inside Knows shared (here :: others)) (entered : inside here = true) :
    locked shared = true ∧ ∀ other ∈ others, inside other = false := by
  have count := held.count
  rw [countP_cons_of_pos entered] at count
  cases lock : locked shared with
  | false => simp [lock] at count
  | true =>
    rw [lock, Bool.toNat_true, Nat.add_eq_right] at count
    refine ⟨rfl, fun other member => ?_⟩
    simpa using countP_eq_zero.mp count other member

theorem all_outside (held : Excludes locked inside Knows shared threads)
    (unlocked : locked shared = false) : ∀ here ∈ threads, inside here = false := by
  have count := held.count
  rw [unlocked, Bool.toNat_false] at count
  intro here member
  simpa using countP_eq_zero.mp count here member

end Excludes

/-- Guarded steps keep the threads apart. -/
theorem Guarded.excludes (guarded : Guarded action locked inside Knows)
    {shared shared' : Shared} {here here' : Local} {others : List Local}
    (moves : action shared here shared' here')
    (held : Excludes locked inside Knows shared (here :: others)) :
    Excludes locked inside Knows shared' (here' :: others) := by
  cases before : inside here with
  | true =>
    obtain ⟨taken, waiting⟩ := held.others_outside before
    have none : others.countP inside = 0 := by
      refine countP_eq_zero.mpr (fun other member => ?_)
      simp [waiting other member]
    cases after : inside here' with
    | true =>
      obtain ⟨same, knows⟩ := guarded.stays moves before after
        (held.knows here mem_cons_self before)
      constructor
      · rw [countP_cons_of_pos after, none, same, taken]
        rfl
      · intro other member entered
        rcases mem_cons.mp member with rfl | inOthers
        · exact knows
        · rw [waiting other inOthers] at entered
          cases entered
    | false =>
      refine .free (guarded.leaves moves before after) ?_
      intro other member
      rcases mem_cons.mp member with rfl | inOthers
      · exact after
      · exact waiting other inOthers
  | false =>
    cases after : inside here' with
    | true =>
      obtain ⟨unlocked, taken, knows⟩ := guarded.enters moves before after
      have waiting := held.all_outside unlocked
      constructor
      · rw [countP_cons_of_pos after, taken, countP_eq_zero.mpr]
        · rfl
        · intro other member
          simp [waiting other (mem_cons_of_mem _ member)]
      · intro other member entered
        rcases mem_cons.mp member with rfl | inOthers
        · exact knows
        · rw [waiting other (mem_cons_of_mem _ inOthers)] at entered
          cases entered
    | false =>
      obtain ⟨same, kept⟩ := guarded.outside moves before after
      constructor
      · have count := held.count
        rw [countP_cons_of_neg (by simp [before])] at count
        rw [countP_cons_of_neg (by simp [after]), count, same]
      · intro other member entered
        rcases mem_cons.mp member with rfl | inOthers
        · rw [after] at entered
          cases entered
        · exact kept other (held.knows other (mem_cons_of_mem _ inOthers) entered)

end Interleaving

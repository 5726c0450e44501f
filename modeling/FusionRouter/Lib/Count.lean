import Mathlib.Algebra.Ring.Nat
import Mathlib.Data.List.Count

/-!
# Counting in lists

Comparing how many members of a list meet two conditions, one of which implies
the other.
-/

namespace Count

open List

variable {α : Type} {weak strong : α → Bool} {items : List α}

theorem sum_map_toNat (test : α → Bool) (items : List α) :
    (items.map (fun item => (test item).toNat)).sum = items.countP test := by
  induction items with
  | nil => rfl
  | cons head tail ih =>
    rw [map_cons, sum_cons, ih, countP_cons]
    cases test head with
    | false => simp
    | true => simp [Nat.add_comm]

section

variable (implies : ∀ item, item ∈ items → strong item = true → weak item =
  true)
include implies

/-- A member that meets only the weaker condition makes its count larger. -/
theorem countP_lt_countP {extra : α} (member : extra ∈ items) (holds : weak extra = true)
    (fails : strong extra = false) : items.countP strong < items.countP weak := by
  induction items with
  | nil => cases member
  | cons head tail ih =>
    have tailImplies : ∀ item ∈ tail, strong item = true → weak item = true :=
      fun item inside => implies item (mem_cons_of_mem _ inside)
    rcases mem_cons.mp member with rfl | inside
    · have below := countP_mono_left tailImplies
      rw [countP_cons_of_neg (by simp [fails]), countP_cons_of_pos holds]
      omega
    · have below := ih tailImplies inside
      have first := implies head mem_cons_self
      rw [countP_cons, countP_cons]
      split <;> split <;> simp_all
      omega

/-- If the stronger condition is met as often as the weaker one, it is met by
the same members. -/
theorem strong_of_countP_le (enough : items.countP weak ≤ items.countP strong)
    {item : α} (member : item ∈ items) (holds : weak item = true) : strong item = true := by
  by_contra fails
  have below := countP_lt_countP implies member holds (by simpa using fails)
  omega

end

/-- Two members with the same image are equal when the image occurs once. -/
theorem eq_of_count_map_le_one {β : Type} [DecidableEq β] {image : α → β}
    {left right : α} (first : left ∈ items) (second : right ∈ items)
    (same : image left = image right)
    (once : (items.map image).count (image left) ≤ 1) : left = right := by
  induction items with
  | nil => cases first
  | cons head tail ih =>
    rw [map_cons, count_cons] at once
    have absent : ∀ item ∈ tail, image item = image left → image head = image left → False := by
      intro item inside itemSame headSame
      have positive : 0 < (tail.map image).count (image left) :=
        count_pos_iff.mpr (mem_map.mpr ⟨item, inside, itemSame⟩)
      simp only [headSame, beq_self_eq_true, if_true] at once
      omega
    rcases mem_cons.mp first with rfl | firstInside
    · rcases mem_cons.mp second with rfl | secondInside
      · rfl
      · exact (absent right secondInside same.symm rfl).elim
    · rcases mem_cons.mp second with rfl | secondInside
      · exact (absent left firstInside rfl same.symm).elim
      · exact ih firstInside secondInside (by omega)

end Count

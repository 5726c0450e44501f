import Mathlib.Data.List.Perm.Basic

/-!
# Histories

The last entry of a history that carries a value.  Where the entries come in
blocks whose inner order is open, that value is decided by the last block that
carries one, and it is the same in every order exactly when all values of that
block agree.
-/

namespace History

open List

variable {α β : Type}

/-- The value of the last entry that has one. -/
def lastOf (value : α → Option β) (history : List α) : Option β :=
  history.reverse.findSome? value

theorem lastOf_append (value : α → Option β) (first second : List α) :
    lastOf value (first ++ second) = (lastOf value second).or (lastOf value first) := by
  simp [lastOf, findSome?_append]

theorem lastOf_cons (value : α → Option β) (entry : α) (history : List α) :
    lastOf value (entry :: history) = (lastOf value history).or (value entry) := by
  simp [lastOf, findSome?_append]

variable {value : α → Option β} {blocks later : List (List α)}

theorem lastOf_eq_none {history : List α} :
    lastOf value history = none ↔ ∀ entry ∈ history, value entry = none := by
  simp [lastOf, findSome?_eq_none_iff]

theorem exists_of_lastOf {history : List α} {last : β} (found : lastOf value history = some last) :
    ∃ entry ∈ history, value entry = some last := by
  obtain ⟨entry, member, carries⟩ := exists_of_findSome?_eq_some found
  exact ⟨entry, mem_reverse.mp member, carries⟩

/-- The blocks, with the entries of each in some order. -/
def Reorders (orders blocks : List (List α)) : Prop :=
  List.Forall₂ List.Perm orders blocks

theorem Reorders.refl (blocks : List (List α)) : Reorders blocks blocks :=
  forall₂_same.mpr (fun block _ => List.Perm.refl block)

/-- The values of the last block that has any. -/
def deciding (value : α → Option β) : List (List α) → List β
  | [] => []
  | block :: blocks =>
    match deciding value blocks with
    | [] => block.filterMap value
    | found :: others => found :: others

theorem deciding_cons_nil (undecided : deciding value blocks = []) (block : List α) :
    deciding value (block :: blocks) = block.filterMap value := by
  rw [deciding, undecided]

theorem deciding_cons (decided : deciding value blocks ≠ []) (block : List α) :
    deciding value (block :: blocks) = deciding value blocks := by
  cases found : deciding value blocks with
  | nil => exact (decided found).elim
  | cons first others => rw [deciding, found]

theorem deciding_append_nil (undecided : deciding value later = []) (blocks : List (List α)) :
    deciding value (blocks ++ later) = deciding value blocks := by
  induction blocks with
  | nil => exact undecided
  | cons block blocks ih => rw [cons_append, deciding, deciding, ih]

theorem deciding_append (decided : deciding value later ≠ []) (blocks : List (List α)) :
    deciding value (blocks ++ later) = deciding value later := by
  induction blocks with
  | nil => rfl
  | cons block blocks ih =>
    rw [cons_append, deciding_cons (ih.symm ▸ decided), ih]

theorem deciding_replicate (value : α → Option β) (count : Nat) :
    deciding value (List.replicate count []) = [] := by
  induction count with
  | zero => rfl
  | succ count ih => rw [replicate_succ, deciding_cons_nil ih]; rfl

/-- In every order the last value is one of the deciding ones. -/
theorem Reorders.lastOf_mem {orders : List (List α)}
    (reorders : Reorders orders blocks) (value : α → Option β) :
    (deciding value blocks = [] ∧ lastOf value orders.flatten = none) ∨
      ∃ last ∈ deciding value blocks, lastOf value orders.flatten = some last := by
  induction reorders with
  | nil => exact Or.inl ⟨rfl, rfl⟩
  | @cons order block orders blocks permuted _ ih =>
    rw [flatten_cons, lastOf_append]
    rcases ih with ⟨undecided, none⟩ | ⟨last, member, found⟩
    · rw [deciding_cons_nil undecided, none, Option.none_or]
      cases found : lastOf value order with
      | none =>
        refine Or.inl ⟨?_, rfl⟩
        rw [filterMap_eq_nil_iff]
        intro entry member
        exact lastOf_eq_none.mp found entry (permuted.mem_iff.mpr member)
      | some last =>
        obtain ⟨entry, member, carries⟩ := exists_of_lastOf found
        refine Or.inr ⟨last, ?_, rfl⟩
        exact mem_filterMap.mpr ⟨entry, permuted.mem_iff.mp member, carries⟩
    · rw [deciding_cons (ne_nil_of_mem member), found]
      exact Or.inr ⟨last, member, rfl⟩

/-- Every deciding value comes last in some order. -/
theorem exists_reorders {last : β} (member : last ∈ deciding value blocks) :
    ∃ orders, Reorders orders blocks ∧ lastOf value orders.flatten = some last := by
  induction blocks with
  | nil => cases member
  | cons block blocks ih =>
    by_cases undecided : deciding value blocks = []
    · rw [deciding_cons_nil undecided] at member
      obtain ⟨entry, inside, carries⟩ := mem_filterMap.mp member
      -- move the entry to the end of its block
      obtain ⟨before, after, rfl⟩ := append_of_mem inside
      refine ⟨(before ++ after ++ [entry]) :: blocks, ?_, ?_⟩
      · refine .cons ?_ (Reorders.refl blocks)
        exact perm_append_singleton entry (before ++ after)
          |>.trans perm_middle.symm
      · have silent : lastOf value blocks.flatten = none := by
          rcases (Reorders.refl blocks).lastOf_mem value with ⟨-, none⟩ | ⟨other, inside, -⟩
          · exact none
          · rw [undecided] at inside
            cases inside
        rw [flatten_cons, lastOf_append, silent, Option.none_or, lastOf_append]
        simp [lastOf, carries]
    · rw [deciding_cons undecided] at member
      obtain ⟨orders, reorders, found⟩ := ih member
      refine ⟨block :: orders, .cons (List.Perm.refl block) reorders, ?_⟩
      rw [flatten_cons, lastOf_append, found]
      rfl

/-- The last value does not depend on the order within the blocks exactly when
the deciding values agree. -/
theorem lastOf_reorders_iff (value : α → Option β) (blocks : List (List α)) :
    (∀ first second, Reorders first blocks → Reorders second blocks →
      lastOf value first.flatten = lastOf value second.flatten) ↔
      ∀ left ∈ deciding value blocks, ∀ right ∈ deciding value blocks, left = right := by
  constructor
  · intro independent left leftMember right rightMember
    obtain ⟨first, firstOrder, firstLast⟩ := exists_reorders leftMember
    obtain ⟨second, secondOrder, secondLast⟩ := exists_reorders rightMember
    have same := independent first second firstOrder secondOrder
    rw [firstLast, secondLast] at same
    exact Option.some.inj same
  · intro agree first second firstOrder secondOrder
    rcases firstOrder.lastOf_mem value with ⟨undecided, firstNone⟩ | ⟨left, leftMember, firstLast⟩
    · rcases secondOrder.lastOf_mem value with ⟨-, secondNone⟩ | ⟨right, rightMember, -⟩
      · rw [firstNone, secondNone]
      · rw [undecided] at rightMember
        cases rightMember
    · rcases secondOrder.lastOf_mem value with ⟨undecided, -⟩ | ⟨right, rightMember, secondLast⟩
      · rw [undecided] at leftMember
        cases leftMember
      · rw [firstLast, secondLast, agree left leftMember right rightMember]

end History

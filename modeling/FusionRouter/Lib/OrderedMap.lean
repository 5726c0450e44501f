import Mathlib.Algebra.Ring.Nat
import Mathlib.Data.List.Pairwise
import Mathlib.Order.Lattice

/-!
# Ordered association lists

A B-tree map is the list of its entries with strictly increasing keys.  Such a
list is determined by its lookups, so two ways of building a map give the same
list as soon as they answer every key alike.
-/

namespace OrderedMap

open List

variable {κ ν : Type} [LinearOrder κ]

/-- The keys are strictly increasing. -/
def Ordered (entries : List (κ × ν)) : Prop :=
  entries.Pairwise (fun left right => left.1 < right.1)

instance (entries : List (κ × ν)) : Decidable (Ordered entries) :=
  inferInstanceAs (Decidable (entries.Pairwise _))

/-- Put a value at its place, replacing one with the same key. -/
def insert (key : κ) (value : ν) : List (κ × ν) → List (κ × ν)
  | [] => [(key, value)]
  | entry :: rest =>
    if key < entry.1 then (key, value) :: entry :: rest
    else if entry.1 < key then entry :: insert key value rest
    else (key, value) :: rest

/-- The map with these entries; of two with one key the later one counts. -/
def collect (entries : List (κ × ν)) : List (κ × ν) :=
  entries.foldl (fun map entry => insert entry.1 entry.2 map) []

def erase (key : κ) (entries : List (κ × ν)) : List (κ × ν) :=
  entries.filter (fun entry => entry.1 < key ∨ key < entry.1)

variable {key : κ} {value : ν} {entries : List (κ × ν)}

theorem mem_insert {entry : κ × ν} :
    ∀ {entries : List (κ × ν)}, entry ∈ insert key value entries →
      entry = (key, value) ∨ entry ∈ entries := by
  intro entries
  induction entries with
  | nil =>
    intro member
    exact Or.inl (mem_singleton.mp member)
  | cons first rest induction =>
    intro member
    unfold insert at member
    split at member
    · exact mem_cons.mp member
    · split at member
      · rcases mem_cons.mp member with rfl | later
        · exact Or.inr mem_cons_self
        · exact (induction later).imp_right (mem_cons_of_mem _)
      · exact (mem_cons.mp member).imp_right (mem_cons_of_mem _)

theorem Ordered.insert (ordered : Ordered entries) (key : κ) (value : ν) :
    Ordered (insert key value entries) := by
  induction entries with
  | nil => exact pairwise_singleton _ _
  | cons first rest induction =>
    obtain ⟨below, tail⟩ := pairwise_cons.mp ordered
    unfold OrderedMap.insert
    split
    next before =>
      refine pairwise_cons.mpr ⟨?_, ordered⟩
      intro entry member
      rcases mem_cons.mp member with rfl | later
      · exact before
      · exact lt_trans before (below entry later)
    next notBefore =>
      split
      next after =>
        refine pairwise_cons.mpr ⟨?_, induction tail⟩
        intro entry member
        rcases mem_insert member with rfl | later
        · exact after
        · exact below entry later
      next notAfter =>
        have same : key = first.1 := le_antisymm (not_lt.mp notAfter) (not_lt.mp notBefore)
        refine pairwise_cons.mpr ⟨?_, tail⟩
        intro entry member
        rw [same]
        exact below entry member

theorem ordered_collect (entries : List (κ × ν)) : Ordered (collect entries) := by
  have kept : ∀ map : List (κ × ν), Ordered map →
      Ordered (entries.foldl (fun map entry => OrderedMap.insert entry.1 entry.2 map) map) := by
    induction entries with
    | nil => exact fun _ ordered => ordered
    | cons entry entries induction =>
      exact fun map ordered => induction _ (ordered.insert _ _)
  exact kept [] List.Pairwise.nil

theorem mem_of_mem_collect {entry : κ × ν} {entries : List (κ × ν)}
    (member : entry ∈ collect entries) : entry ∈ entries := by
  have kept : ∀ map : List (κ × ν),
      entry ∈ entries.foldl (fun map entry => insert entry.1 entry.2 map) map →
        entry ∈ map ∨ entry ∈ entries := by
    clear member
    induction entries with
    | nil => simp
    | cons first rest induction =>
      intro map member
      rcases induction _ member with inserted | later
      · rcases mem_insert inserted with rfl | old
        · exact Or.inr mem_cons_self
        · exact Or.inl old
      · exact Or.inr (mem_cons_of_mem _ later)
  simpa using kept [] member

theorem Ordered.erase (ordered : Ordered entries) (key : κ) :
    Ordered (erase key entries) := List.Pairwise.filter _ ordered

theorem Ordered.distinct (ordered : Ordered entries) :
    entries.Pairwise (fun left right => left.1 ≠ right.1) :=
  List.Pairwise.imp ne_of_lt ordered

theorem insert_last (above : ∀ entry ∈ entries, entry.1 < key) :
    insert key value entries = entries ++ [(key, value)] := by
  induction entries with
  | nil => rfl
  | cons first rest induction =>
    obtain ⟨smaller, later⟩ := forall_mem_cons.mp above
    rw [OrderedMap.insert, if_neg (lt_asymm smaller), if_pos smaller, induction later]
    rfl

variable [BEq κ] [LawfulBEq κ]

theorem lookup_insert_same (key : κ) (value : ν) (entries : List (κ × ν)) :
    (insert key value entries).lookup key = some value := by
  induction entries with
  | nil => simp [insert]
  | cons first rest induction =>
    obtain ⟨head, content⟩ := first
    unfold insert
    split
    · simp
    · split
      next after =>
        rw [lookup_cons, beq_false_of_ne (ne_of_gt after), induction]
      · simp

theorem lookup_insert_of_ne {other : κ} (different : other ≠ key) (value : ν)
    (entries : List (κ × ν)) : (insert key value entries).lookup other = entries.lookup other := by
  have miss : (other == key) = false := beq_false_of_ne different
  induction entries with
  | nil => simp [insert, lookup_cons, miss]
  | cons first rest induction =>
    obtain ⟨head, content⟩ := first
    unfold insert
    split
    · rw [lookup_cons, miss]
    next notBefore =>
      split
      · rw [lookup_cons, lookup_cons, induction]
      next notAfter =>
        have same : key = head := le_antisymm (not_lt.mp notAfter) (not_lt.mp notBefore)
        rw [lookup_cons, lookup_cons, ← same, miss]

theorem lookup_erase_same (key : κ) (entries : List (κ × ν)) :
    (erase key entries).lookup key = none := by
  rw [lookup_eq_none_iff]
  intro entry member
  obtain ⟨-, apart⟩ := mem_filter.mp member
  rw [bne_iff_ne]
  rintro rfl
  exact lt_irrefl _ ((of_decide_eq_true apart).elim id id)

theorem lookup_erase_of_ne {other : κ} (different : other ≠ key) (entries : List (κ × ν)) :
    (erase key entries).lookup other = entries.lookup other := by
  induction entries with
  | nil => rfl
  | cons first rest induction =>
    obtain ⟨head, content⟩ := first
    unfold erase at induction ⊢
    rw [filter_cons]
    split
    · rw [lookup_cons, lookup_cons, induction]
    next dropped =>
      have same : head = key := by
        rw [decide_eq_true_eq, not_or, not_lt, not_lt] at dropped
        exact le_antisymm dropped.2 dropped.1
      rw [lookup_cons, same, beq_false_of_ne different, induction]

section

variable (distinct : entries.Pairwise (fun left right => left.1 ≠ right.1))
include distinct

/-- Collecting entries into a map keeps their lookups, where no two have one
key. -/
theorem lookup_foldl_insert (map : List (κ × ν)) (key : κ) :
    (entries.foldl (fun map entry => insert entry.1 entry.2 map) map).lookup
        key = (entries.lookup key).or (map.lookup key) := by
  induction entries generalizing map with
  | nil => rfl
  | cons entry entries induction =>
    obtain ⟨first, value⟩ := entry
    obtain ⟨apart, rest⟩ := pairwise_cons.mp distinct
    rw [foldl_cons, induction rest, lookup_cons]
    by_cases same : key = first
    · subst same
      have absent : entries.lookup key = none := by
        rw [lookup_eq_none_iff]
        intro entry member
        exact bne_iff_ne.mpr (apart entry member)
      rw [absent, lookup_insert_same, beq_self_eq_true]
      rfl
    · rw [beq_false_of_ne same, lookup_insert_of_ne same]

theorem lookup_collect (key : κ) : (collect entries).lookup key = entries.lookup key := by
  rw [collect, lookup_foldl_insert distinct]
  exact Option.or_none

theorem lookup_eq_some_iff : entries.lookup key = some value ↔ (key, value) ∈ entries := by
  induction entries with
  | nil => simp
  | cons first rest induction =>
    obtain ⟨apart, tail⟩ := pairwise_cons.mp distinct
    obtain ⟨head, content⟩ := first
    rw [lookup_cons]
    by_cases same : key = head
    · subst same
      simp only [beq_self_eq_true, Option.some.injEq, mem_cons, Prod.mk.injEq, true_and]
      constructor
      · intro found
        exact Or.inl found.symm
      · rintro (found | later)
        · exact found.symm
        · exact (apart (key, value) later rfl).elim
    · rw [beq_false_of_ne same, induction tail]
      simp [same]

end

theorem Ordered.lookup_eq_some_iff (ordered : Ordered entries) :
    entries.lookup key = some value ↔ (key, value) ∈ entries :=
  OrderedMap.lookup_eq_some_iff ordered.distinct

theorem Ordered.ext {left right : List (κ × ν)} (leftOrdered : Ordered left)
    (rightOrdered : Ordered right)
    (agree : ∀ key, left.lookup key = right.lookup key) : left = right := by
  have nodup : ∀ {entries : List (κ × ν)}, Ordered entries →
      entries.Nodup := by
    intro entries ordered
    refine List.Pairwise.imp ?_ ordered
    rintro entry other smaller rfl
    exact lt_irrefl _ smaller
  have permuted : left.Perm right := by
    refine (perm_ext_iff_of_nodup (nodup leftOrdered) (nodup rightOrdered)).mpr ?_
    rintro ⟨key, value⟩
    rw [← leftOrdered.lookup_eq_some_iff, ← rightOrdered.lookup_eq_some_iff, agree key]
  refine permuted.eq_of_pairwise ?_ leftOrdered rightOrdered
  intro entry other _ _ smaller larger
  exact (lt_asymm smaller larger).elim

end OrderedMap

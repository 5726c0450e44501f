import Mathlib.Data.List.Sort

/-!
# Sorting by a key

A stable sort by a key that several items may share.  Items with one key keep
the order in which they were listed, so what is read off the sorted list depends
on the listing exactly if it differs between two items with one key.
-/

namespace KeySort

open List

variable {α κ ρ : Type} [LinearOrder κ]

/-- The stable sort by `key`. -/
def sortByKey (key : α → κ) (items : List α) : List α :=
  items.insertionSort (fun left right => key left ≤ key right)

variable {key : α → κ} {view : α → ρ} {items other : List α}

theorem perm_sortByKey (key : α → κ) (items : List α) :
    (sortByKey key items).Perm items := perm_insertionSort _ items

theorem mem_sortByKey {item : α} : item ∈ sortByKey key items ↔ item ∈ items :=
  (perm_sortByKey key items).mem_iff

theorem sorted_sortByKey (key : α → κ) (items : List α) :
    (sortByKey key items).Pairwise (fun left right => key left ≤ key right) := by
  have total : Std.Total (fun left right => key left ≤ key right) :=
    ⟨fun left right => le_total (key left) (key right)⟩
  have transitive : IsTrans α (fun left right => key left ≤ key right) :=
    ⟨fun _ _ _ first second => first.trans second⟩
  exact pairwise_insertionSort _ items

theorem filter_sortByKey (key : α → κ) (items : List α) (wanted : κ) :
    (sortByKey key items).filter (fun item => key item = wanted) =
      items.filter (fun item => key item = wanted) := by
  have keys : ∀ item ∈ items.filter (fun item => key item = wanted),
      key item = wanted := fun item member =>
    of_decide_eq_true (mem_filter.mp member).2
  have equal : (items.filter (fun item => key item = wanted)).Pairwise
      (fun left right => key left ≤ key right) := by
    refine pairwise_iff_forall_sublist.mpr fun {left right} pair => ?_
    rw [keys left (pair.subset (by simp)), keys right (pair.subset (by simp))]
  have kept : (items.filter (fun item => key item = wanted)).Sublist
      (sortByKey key items) := sublist_insertionSort equal filter_sublist
  have inside : (items.filter (fun item => key item = wanted)).Sublist
      ((sortByKey key items).filter (fun item => key item = wanted)) := by
    simpa only [filter_filter, Bool.and_self] using
      kept.filter (fun item => decide (key item = wanted))
  exact (inside.eq_of_length ((perm_sortByKey key items).filter _).length_eq.symm).symm

/-- Items with one key look the same. -/
def TieFree (key : α → κ) (view : α → ρ) (items : List α) : Prop :=
  ∀ left ∈ items, ∀ right ∈ items, key left = key right → view left = view right

/-- Two listings of the same items have the same keys in order. -/
theorem map_sortByKey_eq (permuted : other.Perm items) (free : TieFree key view items) :
    (sortByKey key other).map view = (sortByKey key items).map view := by
  let pair := fun item => (key item, view item)
  have same : ((sortByKey key other).map pair).Perm ((sortByKey key items).map pair) :=
    (((perm_sortByKey key other).trans permuted).trans (perm_sortByKey key items).symm).map pair
  have ordered : ∀ list : List α, ((sortByKey key list).map pair).Pairwise
      (fun left right => left.1 ≤ right.1) := fun list =>
    pairwise_map.mpr (sorted_sortByKey key list)
  have equal : (sortByKey key other).map pair = (sortByKey key items).map pair := by
    refine same.eq_of_pairwise ?_ (ordered other) (ordered items)
    intro left right first second below above
    obtain ⟨one, oneMember, rfl⟩ := mem_map.mp first
    obtain ⟨two, twoMember, rfl⟩ := mem_map.mp second
    have keys : key one = key two := le_antisymm below above
    exact Prod.ext keys (free one (permuted.mem_iff.mp (mem_sortByKey.mp oneMember)) two
      (mem_sortByKey.mp twoMember) keys)
  have seen := congrArg (map Prod.snd) equal
  rwa [map_map, map_map] at seen

/-- What is seen of two listings in order, key by key. -/
theorem map_filter_eq (permuted : other.Perm items)
    (same : (sortByKey key other).map view = (sortByKey key items).map view) (wanted : κ) :
    (other.filter (fun item => key item = wanted)).map view =
      (items.filter (fun item => key item = wanted)).map view := by
  let pair := fun item => (key item, view item)
  have pairs : (sortByKey key other).map pair = (sortByKey key items).map pair := by
    rw [← zip_map', ← zip_map', same, map_sortByKey_eq permuted fun _ _ _ _ keys => keys]
  have cut : ∀ list : List α, (((sortByKey key list).map pair).filter
          (fun entry => entry.1 = wanted)).map Prod.snd =
        (list.filter (fun item => key item = wanted)).map view := by
    intro list
    rw [filter_map, map_map, ← filter_sortByKey key list wanted]
    rfl
  rw [← cut other, ← cut items, pairs]

/-- Of two items with one key, the sorted list shows first the one that is
listed first. -/
theorem tieFree_of_map_sortByKey
    (independent : ∀ other : List α, other.Perm items →
      (sortByKey key other).map view = (sortByKey key items).map view) :
    TieFree key view items := by
  intro left leftMember right rightMember keys
  obtain ⟨before, after, rfl⟩ := append_of_mem leftMember
  have others : right = left ∨ right ∈ before ++ after := by
    simpa [or_left_comm] using rightMember
  rcases others with rfl | elsewhere
  · rfl
  · obtain ⟨first, second, split⟩ := append_of_mem elsewhere
    have leftFirst : (left :: right :: (first ++ second)).Perm (before ++ left :: after) := by
      refine List.Perm.trans ?_ perm_middle.symm
      rw [split]
      exact perm_middle.symm.cons left
    have rightFirst : (right :: left :: (first ++ second)).Perm (before ++ left :: after) :=
      (List.Perm.swap left right _).trans leftFirst
    have seen := map_filter_eq (leftFirst.trans rightFirst.symm)
      ((independent _ leftFirst).trans (independent _ rightFirst).symm) (key right)
    have shown : ∀ item more, key item = key right →
        (((item :: more).filter (fun item => key item = key right)).map
          view).head? = some (view item) := by
      intro item more same
      simp [same]
    have heads := congrArg head? seen
    rw [shown left _ keys, shown right _ rfl] at heads
    exact Option.some.inj heads

theorem tieFree_iff :
    TieFree key view items ↔ ∀ other : List α, other.Perm items →
        (sortByKey key other).map view = (sortByKey key items).map view :=
  ⟨fun free _ permuted => map_sortByKey_eq permuted free, tieFree_of_map_sortByKey⟩

end KeySort

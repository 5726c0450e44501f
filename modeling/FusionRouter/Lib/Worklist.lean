import Mathlib.Algebra.BigOperators.Group.Finset.Basic
import Mathlib.Algebra.Ring.Nat
import FusionRouter.Lib.Digraph

/-!
# Worklist search

A depth-first worklist that marks a vertex when it pushes it, and worklists that
mark it when they pop it, with the pending vertices in any order.  Each is given
the vertices to expand and the ones already marked; it returns every vertex it
marked.  With fuel for every pop a search marks exactly what its start reaches.
-/

namespace Worklist

open Relation List

variable {α : Type} [DecidableEq α]

/-- Push the unmarked targets, marking each one. -/
def pushFresh : List α → List α × Finset α → List α × Finset α
  | [], acc => acc
  | target :: targets, (stack, seen) =>
    if target ∈ seen then pushFresh targets (stack, seen)
    else pushFresh targets (target :: stack, insert target seen)

section

variable (successors : α → List α)

/-- Pop a vertex, push its unmarked successors, and go on until the stack is
empty or the fuel is spent. -/
def search : Nat → List α → Finset α → Finset α
  | 0, _, seen => seen
  | _ + 1, [], seen => seen
  | fuel + 1, current :: stack, seen =>
    let next := pushFresh (successors current) (stack, seen)
    search fuel next.1 next.2

/-- The edges a search follows. -/
def Step (left right : α) : Prop :=
  right ∈ successors left

theorem pushFresh_seen (targets stack : List α) (seen : Finset α) :
    (pushFresh targets (stack, seen)).2 = seen ∪ targets.toFinset := by
  induction targets generalizing stack seen with
  | nil => simp [pushFresh]
  | cons target targets induction =>
    by_cases marked : target ∈ seen
    · rw [pushFresh, if_pos marked, induction, toFinset_cons, Finset.union_insert,
        Finset.insert_eq_of_mem (Finset.mem_union_left _ marked)]
    · rw [pushFresh, if_neg marked, induction, toFinset_cons,
        Finset.insert_union, Finset.union_insert]

theorem mem_pushFresh_stack (targets stack : List α) (seen : Finset α) (vertex : α) :
    vertex ∈ (pushFresh targets (stack, seen)).1 ↔
      vertex ∈ stack ∨ vertex ∈ targets ∧ vertex ∉ seen := by
  induction targets generalizing stack seen with
  | nil => simp [pushFresh]
  | cons target targets induction =>
    by_cases marked : target ∈ seen
    · rw [pushFresh, if_pos marked, induction]
      simp only [mem_cons]
      constructor
      · rintro (old | ⟨later, fresh⟩)
        · exact Or.inl old
        · exact Or.inr ⟨Or.inr later, fresh⟩
      · rintro (old | ⟨same | later, fresh⟩)
        · exact Or.inl old
        · exact (fresh (same ▸ marked)).elim
        · exact Or.inr ⟨later, fresh⟩
    · rw [pushFresh, if_neg marked, induction]
      simp only [mem_cons, Finset.mem_insert, not_or]
      constructor
      · rintro ((same | old) | ⟨later, -, fresh⟩)
        · exact Or.inr ⟨Or.inl same, same ▸ marked⟩
        · exact Or.inl old
        · exact Or.inr ⟨Or.inr later, fresh⟩
      · rintro (old | ⟨same | later, fresh⟩)
        · exact Or.inl (Or.inr old)
        · exact Or.inl (Or.inl same)
        · by_cases same : vertex = target
          · exact Or.inl (Or.inl same)
          · exact Or.inr ⟨later, same, fresh⟩

theorem pushFresh_length (targets stack : List α) (seen : Finset α) :
    (pushFresh targets (stack, seen)).1.length + seen.card =
      stack.length + (pushFresh targets (stack, seen)).2.card := by
  induction targets generalizing stack seen with
  | nil => simp [pushFresh]
  | cons target targets induction =>
    by_cases marked : target ∈ seen
    · rw [pushFresh, if_pos marked]
      exact induction stack seen
    · rw [pushFresh, if_neg marked]
      have later := induction (target :: stack) (insert target seen)
      rw [Finset.card_insert_of_notMem marked, length_cons] at later
      omega

theorem subset_search :
    ∀ (fuel : Nat) (stack : List α) (seen : Finset α), seen ⊆ search successors fuel stack seen
  | 0, _, _ => by simp [search]
  | _ + 1, [], _ => by simp [search]
  | fuel + 1, current :: stack, seen => by
    rw [search]
    refine Finset.Subset.trans ?_ (subset_search fuel _ _)
    rw [pushFresh_seen]
    exact Finset.subset_union_left

/-- A marked vertex was marked before or is reached from the stack. -/
theorem search_sound (fuel : Nat) (stack : List α) (seen : Finset α) {vertex : α}
    (marked : vertex ∈ search successors fuel stack seen) :
    vertex ∈ seen ∨ ∃ start ∈ stack, TransGen (Step successors) start vertex := by
  fun_induction search successors fuel stack seen with
  | case1 | case2 => exact Or.inl marked
  | case3 fuel current stack seen next induction =>
    rcases induction marked with before | ⟨start, onStack, walk⟩
    · rw [pushFresh_seen, Finset.mem_union, mem_toFinset] at before
      exact before.imp_right fun pushed => ⟨current, mem_cons_self, .single pushed⟩
    · rcases (mem_pushFresh_stack _ _ _ _).mp onStack with below | ⟨pushed, -⟩
      · exact Or.inr ⟨start, mem_cons_of_mem _ below, walk⟩
      · exact Or.inr ⟨current, mem_cons_self, .head pushed walk⟩

/-- With fuel for every pop, the marks are closed under successors of the
stack and of every vertex marked on the way. -/
theorem search_closed {vertices : Finset α}
    (covered : ∀ left right, Step successors left right → right ∈ vertices) (fuel : Nat)
    (stack : List α) (seen : Finset α) (inside : seen ⊆ vertices)
    (enough : stack.length + vertices.card ≤ fuel + seen.card) (left right : α)
    (origin : left ∈ stack ∨ left ∈ search successors fuel stack seen ∧ left ∉ seen)
    (step : Step successors left right) : right ∈ search successors fuel stack seen := by
  fun_induction search successors fuel stack seen with
  | case1 stack seen =>
    have bounded := Finset.card_le_card inside
    have empty : stack = [] := length_eq_zero_iff.mp (by omega)
    simp [empty] at origin
  | case2 => simp at origin
  | case3 fuel current stack seen next induction =>
    have pushed := pushFresh_seen (successors current) stack seen
    have waits := mem_pushFresh_stack (successors current) stack seen
    have balance : next.1.length + seen.card = stack.length + next.2.card :=
      pushFresh_length (successors current) stack seen
    have marked : ∀ vertex, vertex ∈ next.2 ↔ vertex ∈ seen ∨ Step successors current vertex := by
      intro vertex
      rw [pushed, Finset.mem_union, mem_toFinset]
      rfl
    rw [length_cons] at enough
    have onward := induction ?_ (by omega)
    · by_cases here : left = current
      · exact subset_search _ _ _ _ ((marked right).mpr (Or.inr (here ▸ step)))
      · refine onward ?_
        rcases origin with onStack | ⟨found, unmarked⟩
        · exact Or.inl ((waits left).mpr (Or.inl ((mem_cons.mp onStack).resolve_left here)))
        · by_cases early : left ∈ next.2
          · have fresh := ((marked left).mp early).resolve_left unmarked
            exact Or.inl ((waits left).mpr (Or.inr ⟨fresh, unmarked⟩))
          · exact Or.inr ⟨found, early⟩
    · intro vertex member
      rcases (marked vertex).mp member with old | fresh
      · exact inside old
      · exact covered current vertex fresh

/-- A search from one vertex marks exactly what the vertex reaches in one or
more steps. -/
theorem mem_search_iff (vertices : Finset α)
    (covered : ∀ left right, Step successors left right → right ∈ vertices) {fuel : Nat}
    (enough : vertices.card + 1 ≤ fuel) (start vertex : α) :
    vertex ∈ search successors fuel [start] ∅ ↔ TransGen (Step successors) start vertex := by
  have closed := search_closed successors covered fuel [start] ∅
    (Finset.empty_subset _) (by simp; omega)
  constructor
  · intro marked
    rcases search_sound successors fuel [start] ∅ marked with impossible | ⟨other, member, walk⟩
    · simp at impossible
    · have same : other = start := by simpa using member
      exact same ▸ walk
  · intro walk
    induction walk with
    | single step => exact closed start _ (Or.inl (by simp)) step
    | tail _ step marked =>
      exact closed _ _ (Or.inr ⟨marked, by simp⟩) step

end

/-! ## Marking when popping -/

/-- Pop a vertex.  Unless it is marked already, mark it and push successors of
it, in whatever order. -/
def drain (push : α → Finset α → List α → List α) :
    Nat → List α → Finset α → Finset α
  | 0, _, seen => seen
  | _ + 1, [], seen => seen
  | fuel + 1, current :: pending, seen =>
    if current ∈ seen then drain push fuel pending seen
    else
      drain push fuel (push current (insert current seen) pending) (insert current seen)

/-- What is pushed: successors, all of them that are not marked. -/
structure Pushes (successors : α → List α) (push : α → Finset α → List α → List α) : Prop where
  sound : ∀ {current : α} {seen : Finset α} {pending : List α} {vertex : α},
    vertex ∈ push current seen pending → vertex ∈ pending ∨ Step successors current vertex
  keeps : ∀ {current : α} {seen : Finset α} {pending : List α} {vertex : α},
    vertex ∈ pending → vertex ∈ push current seen pending
  complete : ∀ {current : α} {seen : Finset α} (pending : List α) {vertex : α},
    Step successors current vertex → vertex ∈ seen ∨ vertex ∈ push current seen pending
  length : ∀ (current : α) (seen : Finset α) (pending : List α),
    (push current seen pending).length ≤ (successors current).length + pending.length

section

variable {successors : α → List α} {push : α → Finset α → List α → List α}

/-- A marked vertex was marked before or is reached from the pending ones. -/
theorem drain_sound (pushes : Pushes successors push) {vertex : α} {fuel : Nat}
    {pending : List α} {seen : Finset α} (marked : vertex ∈ drain push fuel pending seen) :
    vertex ∈ seen ∨ ∃ start ∈ pending, ReflTransGen (Step successors) start vertex := by
  fun_induction drain push fuel pending seen with
  | case1 | case2 => exact Or.inl marked
  | case3 fuel current pending seen old induction =>
    refine (induction marked).imp_right ?_
    rintro ⟨start, below, walk⟩
    exact ⟨start, mem_cons_of_mem _ below, walk⟩
  | case4 fuel current pending seen fresh induction =>
    rcases induction marked with old | ⟨start, waiting, walk⟩
    · rcases Finset.mem_insert.mp old with same | before
      · exact Or.inr ⟨current, mem_cons_self, same ▸ .refl⟩
      · exact Or.inl before
    · rcases pushes.sound waiting with below | pushed
      · exact Or.inr ⟨start, mem_cons_of_mem _ below, walk⟩
      · exact Or.inr ⟨current, mem_cons_self, .head pushed walk⟩

variable {vertices : Finset α}

/-- The pushes that are still to come, after one more vertex is marked. -/
theorem sum_unmarked_insert {successors : α → List α}
    (covered : ∀ left right, Step successors left right → left ∈ vertices)
    {current : α} {seen : Finset α} (fresh : current ∉ seen) :
    (successors current).length + ∑ vertex ∈ vertices \ insert current seen,
          (successors vertex).length = ∑ vertex ∈ vertices \ seen, (successors vertex).length := by
  rw [Finset.sdiff_insert]
  by_cases inside : current ∈ vertices
  · exact Finset.add_sum_erase _ (fun vertex => (successors vertex).length)
      (Finset.mem_sdiff.mpr ⟨inside, fresh⟩)
  · have childless : successors current = [] := by
      rw [eq_nil_iff_forall_not_mem]
      intro right pushed
      exact inside (covered current right pushed)
    rw [Finset.erase_eq_of_notMem (by simp [inside]), childless]
    exact Nat.zero_add _

/-- With fuel for every pop, the marks include the pending vertices and are
closed under successors. -/
theorem drain_closed (pushes : Pushes successors push)
    (covered : ∀ left right, Step successors left right → left ∈ vertices)
    (fuel : Nat) (pending : List α) (seen : Finset α)
    (enough : pending.length + ∑ vertex ∈ vertices \ seen, (successors vertex).length ≤ fuel)
    (closed : ∀ left ∈ seen, ∀ right, Step successors left right →
      right ∈ seen ∨ right ∈ pending) :
    (∀ vertex, vertex ∈ seen ∨ vertex ∈ pending → vertex ∈ drain push fuel pending seen) ∧
      ∀ left ∈ drain push fuel pending seen, ∀ right, Step successors left right →
        right ∈ drain push fuel pending seen := by
  fun_induction drain push fuel pending seen with
  | case1 pending seen =>
    have empty : pending = [] := length_eq_zero_iff.mp (by omega)
    simpa [empty] using closed
  | case2 => simpa using closed
  | case3 fuel current pending seen marked induction =>
    have moves : ∀ vertex, vertex ∈ seen ∨ vertex ∈ current :: pending →
        vertex ∈ seen ∨ vertex ∈ pending := by
      rintro vertex (old | waiting)
      · exact Or.inl old
      · rcases mem_cons.mp waiting with rfl | below
        · exact Or.inl marked
        · exact Or.inr below
    rw [length_cons] at enough
    obtain ⟨included, onward⟩ := induction (by omega)
      (fun left member right step => moves right (closed left member right step))
    exact ⟨fun vertex origin => included vertex (moves vertex origin), onward⟩
  | case4 fuel current pending seen fresh induction =>
    have toCome := sum_unmarked_insert covered fresh
    have pushed := pushes.length current (insert current seen) pending
    have moves : ∀ vertex, vertex ∈ seen ∨ vertex ∈ current :: pending →
        vertex ∈ insert current seen ∨ vertex ∈ push current (insert current seen) pending := by
      rintro vertex (old | waiting)
      · exact Or.inl (Finset.mem_insert_of_mem old)
      · rcases mem_cons.mp waiting with rfl | below
        · exact Or.inl (Finset.mem_insert_self _ _)
        · exact Or.inr (pushes.keeps below)
    rw [length_cons] at enough
    obtain ⟨included, onward⟩ := induction (by omega) (by
      intro left member right step
      rcases Finset.mem_insert.mp member with rfl | before
      · exact pushes.complete pending step
      · exact moves right (closed left before right step))
    exact ⟨fun vertex origin => included vertex (moves vertex origin), onward⟩

/-- The marks are exactly what the pending vertices reach. -/
theorem mem_drain_iff (pushes : Pushes successors push) (vertices : Finset α)
    (covered : ∀ left right, Step successors left right → left ∈ vertices)
    {fuel : Nat} {pending : List α} (enough : pending.length +
      ∑ vertex ∈ vertices, (successors vertex).length ≤ fuel) (vertex : α) :
    vertex ∈ drain push fuel pending ∅ ↔ ∃ start, start ∈ pending ∧
        ReflTransGen (Step successors) start vertex := by
  obtain ⟨included, onward⟩ := drain_closed pushes covered fuel pending ∅
    (by simpa using enough) (by simp)
  constructor
  · intro marked
    exact (drain_sound pushes marked).resolve_left (by simp)
  · rintro ⟨start, waiting, walk⟩
    induction walk with
    | refl => exact included start (Or.inr waiting)
    | tail _ step marked => exact onward _ marked _ step

end

/-- Pop a vertex.  Unless it is marked already, mark it and push all its
successors, the last one on top. -/
def sweep (successors : α → List α) : Nat → List α → Finset α → Finset α
  | 0, _, seen => seen
  | _ + 1, [], seen => seen
  | fuel + 1, current :: stack, seen =>
    if current ∈ seen then sweep successors fuel stack seen
    else
      sweep successors fuel ((successors current).reverse ++ stack) (insert current seen)

theorem sweep_eq_drain (successors : α → List α) (fuel : Nat) (stack : List α) (seen : Finset α) :
    sweep successors fuel stack seen =
      drain (fun current _ stack => (successors current).reverse ++ stack) fuel stack seen := by
  fun_induction sweep successors fuel stack seen with
  | case1 | case2 => rw [drain]
  | case3 _ _ _ _ marked induction => rw [drain, if_pos marked, induction]
  | case4 _ _ _ _ fresh induction => rw [drain, if_neg fresh, induction]

omit [DecidableEq α] in
theorem pushes_reverse (successors : α → List α) :
    Pushes successors (fun current _ stack => (successors current).reverse ++ stack) where
  sound := by
    intro current seen stack vertex member
    rcases mem_append.mp member with pushed | below
    · exact Or.inr (mem_reverse.mp pushed)
    · exact Or.inl below
  keeps := mem_append_right _
  complete := by
    intro current seen stack vertex step
    exact Or.inr (mem_append_left stack (mem_reverse.mpr step))
  length := by
    intro current seen stack
    rw [length_append, length_reverse]

end Worklist

import Mathlib.Algebra.Ring.Nat
import Mathlib.Algebra.Order.BigOperators.Group.Finset
import FusionRouter.Lib.Digraph

/-!
# Three-colour depth-first search

Cycle detection with an explicit stack of vertices and child positions.  White
vertices are untouched, grey ones are on the stack, black ones are finished.
A grey child closes a cycle; a search that ends without meeting one has
painted a set black that is closed under children and has no cycle.  A second
search notes such a child and goes on; it notes nothing where the first one
ends.
-/

namespace ColorSearch

open Function Relation List

inductive Color where
  | white
  | grey
  | black
deriving Repr, DecidableEq

variable {α : Type} [DecidableEq α]

/-- Work off the stack.  A spent fuel is reported like a cycle. -/
def visit (children : α → List α) :
    Nat → List (α × Nat) → (α → Color) → Except α (α → Color)
  | _, [], colors => .ok colors
  | 0, (vertex, _) :: _, _ => .error vertex
  | fuel + 1, (vertex, position) :: stack, colors =>
    match (children vertex)[position]? with
    | some next =>
      match colors next with
      | .grey => .error vertex
      | .white =>
        visit children fuel ((next, 0) :: (vertex, position + 1) :: stack)
          (update colors next .grey)
      | .black =>
        visit children fuel ((vertex, position + 1) :: stack) colors
    | none =>
      visit children fuel stack (update colors vertex .black)

/-- Start a visit from every root that is still white. -/
def detect (children : α → List α) (fuel : Nat) :
    List α → (α → Color) → Except α (α → Color)
  | [], colors => .ok colors
  | root :: roots, colors =>
    if colors root ≠ .white then detect children fuel roots colors
    else
      match visit children fuel [(root, 0)] (update colors root .grey) with
      | .error vertex => .error vertex
      | .ok painted => detect children fuel roots painted

/-- The children that an entry of the stack has passed are black, except that
the last one may be the entry above it. -/
def Scanned (children : α → List α) (colors : α → Color) :
    Option α → List (α × Nat) → Prop
  | _, [] => True
  | above, (vertex, position) :: rest =>
    (∀ child, child ∈ (children vertex).take position →
      colors child = .black ∨ some child = above) ∧ Scanned children colors (some vertex) rest

/-- The edges of the searched graph. -/
def Edge (children : α → List α) (left right : α) : Prop :=
  right ∈ children left

/-- What holds of the stack and the colours between two steps. -/
structure Frontier (children : α → List α) (stack : List (α × Nat))
    (colors : α → Color) : Prop where
  grey_iff : ∀ vertex, colors vertex = .grey ↔ vertex ∈ stack.map Prod.fst
  nodup : (stack.map Prod.fst).Nodup
  closed : ∀ left right, colors left = .black → Edge children left right → colors right = .black
  acyclic : ∀ vertex, colors vertex = .black → ¬ TransGen (Edge children) vertex vertex
  scanned : Scanned children colors none stack
  path : (stack.map Prod.fst).IsChain (fun upper lower => Edge children lower upper)

section Steps

variable {children : α → List α} {colors later : α → Color}
  {stack : List (α × Nat)} {vertex next : α} {position : Nat}

omit [DecidableEq α] in
theorem Scanned.mono (kept : ∀ vertex, colors vertex = .black → later vertex = .black) :
    ∀ {above : Option α} {stack : List (α × Nat)},
      Scanned children colors above stack → Scanned children later above stack
  | _, [], _ => trivial
  | _, _ :: _, scanned =>
    ⟨fun child member => (scanned.1 child member).imp (kept child) id, scanned.2.mono kept⟩

omit [DecidableEq α] in
/-- Once the entry above is black the exception for it is not needed. -/
theorem Scanned.forget (kept : ∀ vertex, colors vertex = .black → later vertex = .black)
    (finished : later vertex = .black) (scanned : Scanned children colors (some vertex) stack) :
    Scanned children later none stack := by
  cases stack with
  | nil => trivial
  | cons entry rest =>
    refine ⟨?_, scanned.2.mono kept⟩
    intro child member
    rcases scanned.1 child member with black | same
    · exact Or.inl (kept child black)
    · cases same
      exact Or.inl finished

omit [DecidableEq α] in
theorem mem_take_succ {items : List α} {position : Nat} {item : α}
    (here : items[position]? = some next) (member : item ∈ items.take (position + 1)) :
    item ∈ items.take position ∨ item = next := by
  rw [take_add_one, here] at member
  simpa using member

omit [DecidableEq α] in
theorem path_reaches_top {entries : List α} {top : α}
    (path : (top :: entries).IsChain (fun upper lower => Edge children lower upper))
    (member : vertex ∈ top :: entries) : ReflTransGen (Edge children) vertex top := by
  induction entries generalizing top with
  | nil =>
    have same : vertex = top := by simpa using member
    exact same ▸ .refl
  | cons lower entries induction =>
    rw [isChain_cons_cons] at path
    rcases mem_cons.mp member with same | below
    · exact same ▸ .refl
    · exact (induction path.2 below).tail path.1

omit [DecidableEq α] in
theorem Frontier.pass (frontier : Frontier children ((vertex, position) :: stack) colors)
    (here : (children vertex)[position]? = some next) (black : colors next = .black) :
    Frontier children ((vertex, position + 1) :: stack) colors := by
  refine ⟨frontier.grey_iff, frontier.nodup, frontier.closed,
    frontier.acyclic, ⟨?_, frontier.scanned.2⟩, frontier.path⟩
  intro child member
  rcases mem_take_succ here member with earlier | same
  · exact frontier.scanned.1 child earlier
  · exact Or.inl (same ▸ black)

/-- A white vertex turns grey and is put on top of the stack. -/
theorem Frontier.paint {above : List (α × Nat)}
    (frontier : Frontier children stack colors) (white : colors next = .white)
    (same : above.map Prod.fst = stack.map Prod.fst)
    (scanned : Scanned children colors (some next) above)
    (path : (next :: stack.map Prod.fst).IsChain (fun upper lower => Edge children lower upper)) :
    Frontier children ((next, 0) :: above) (update colors next .grey) := by
  have black_iff : ∀ other, update colors next .grey other = .black ↔ colors other = .black := by
    intro other
    by_cases same : other = next
    · simp [same, white]
    · simp [same]
  have fresh : next ∉ stack.map Prod.fst := by
    intro member
    have grey := (frontier.grey_iff next).mpr member
    rw [white] at grey
    cases grey
  refine ⟨?_, ?_, ?_, ?_, ⟨by simp, ?_⟩, ?_⟩
  · intro other
    rw [map_cons, same]
    by_cases same : other = next
    · simp [same]
    · have old := frontier.grey_iff other
      simpa [same] using old
  · rw [map_cons, same]
    exact nodup_cons.mpr ⟨fresh, frontier.nodup⟩
  · intro left right black edge
    exact (black_iff right).mpr (frontier.closed left right ((black_iff left).mp black) edge)
  · intro other black
    exact frontier.acyclic other ((black_iff other).mp black)
  · exact scanned.mono (fun other => (black_iff other).mpr)
  · rw [map_cons, same]
    exact path

theorem Frontier.push (frontier : Frontier children ((vertex, position) :: stack) colors)
    (here : (children vertex)[position]? = some next) (white : colors next = .white) :
    Frontier children ((next, 0) :: (vertex, position + 1) :: stack)
      (update colors next .grey) := by
  have edge : Edge children vertex next := mem_of_getElem? here
  refine frontier.paint white rfl ⟨?_, frontier.scanned.2⟩
    (isChain_cons_cons.mpr ⟨edge, frontier.path⟩)
  intro child member
  rcases mem_take_succ here member with earlier | same
  · rcases frontier.scanned.1 child earlier with black | impossible
    · exact Or.inl black
    · cases impossible
  · exact Or.inr (congrArg some same)

theorem Frontier.pop (frontier : Frontier children ((vertex, position) :: stack) colors)
    (past : (children vertex)[position]? = none) :
    Frontier children stack (update colors vertex .black) := by
  have whole : (children vertex).take position = children vertex :=
    take_of_length_le (getElem?_eq_none_iff.mp past)
  have childrenBlack : ∀ child, Edge children vertex child → colors child = .black := by
    intro child member
    rcases frontier.scanned.1 child (by rw [whole]; exact member) with black | impossible
    · exact black
    · cases impossible
  have vertexGrey : colors vertex = .grey := (frontier.grey_iff vertex).mpr (by simp)
  have kept : ∀ other, colors other = .black → update colors vertex .black other = .black := by
    intro other black
    by_cases same : other = vertex
    · simp [same]
    · simpa [same] using black
  have notBelow : vertex ∉ stack.map Prod.fst := (nodup_cons.mp frontier.nodup).1
  refine ⟨?_, (nodup_cons.mp frontier.nodup).2, ?_, ?_, ?_, ?_⟩
  · intro other
    by_cases same : other = vertex
    · subst same
      simpa using notBelow
    · have old := frontier.grey_iff other
      simpa [same] using old
  · intro left right black edge
    by_cases same : left = vertex
    · subst same
      exact kept right (childrenBlack right edge)
    · exact kept right (frontier.closed left right (by simpa [same] using black) edge)
  · intro other black cycle
    by_cases same : other = vertex
    · -- the cycle leaves `vertex` into the black set, which is closed and
      -- does not contain `vertex`
      subst same
      obtain ⟨child, first, rest⟩ := TransGen.head'_iff.mp cycle
      have childBlack := childrenBlack child first
      rcases rest.cases_head with back | ⟨middle, second, later⟩
      · rw [back, vertexGrey] at childBlack
        cases childBlack
      · have walk : TransGen (Edge children) child other := TransGen.head' second later
        have back := Digraph.closed_of_transGen frontier.closed childBlack walk
        rw [vertexGrey] at back
        cases back
    · exact frontier.acyclic other (by simpa [same] using black) cycle
  · exact frontier.scanned.2.forget kept (by simp)
  · exact frontier.path.tail

variable {result : α → Color} {vertices : Finset α} {fuel : Nat} {failure : α}

omit [DecidableEq α] in
theorem Frontier.black_of_touched (frontier : Frontier children [] colors)
    (touched : colors vertex ≠ .white) : colors vertex = .black := by
  cases color : colors vertex with
  | white => exact (touched color).elim
  | grey => simpa using (frontier.grey_iff vertex).mp color
  | black => rfl

theorem update_touched {other : α} {color : Color} (painted : color ≠ .white)
    (touched : colors other ≠ .white) : update colors vertex color other ≠ .white := by
  by_cases same : other = vertex
  · simp [same, painted]
  · simpa [same] using touched

/-- A visit that ends leaves no grey vertex and keeps what was painted. -/
theorem visit_ok (frontier : Frontier children stack colors)
    (success : visit children fuel stack colors = .ok result) :
    Frontier children [] result ∧ ∀ vertex, colors vertex ≠ .white → result vertex = .black := by
  fun_induction visit children fuel stack colors with
  | case1 =>
    cases success
    exact ⟨frontier, fun _ => frontier.black_of_touched⟩
  | case2 | case3 => cases success
  | case4 fuel vertex position stack colors next here white induction =>
    obtain ⟨final, painted⟩ := induction (frontier.push here white) success
    exact ⟨final, fun other touched => painted other (update_touched (by simp) touched)⟩
  | case5 fuel vertex position stack colors next here black induction =>
    exact induction (frontier.pass here black) success
  | case6 fuel vertex position stack colors past induction =>
    obtain ⟨final, painted⟩ := induction (frontier.pop past) success
    exact ⟨final, fun other touched => painted other (update_touched (by simp) touched)⟩

/-- The steps a stack can still take: one for each child not yet passed and
one to finish each vertex, with the white vertices of `vertices` untouched. -/
def remaining (children : α → List α) (vertices : Finset α)
    (stack : List (α × Nat)) (colors : α → Color) : Nat :=
  (stack.map (fun entry => (children entry.1).length - entry.2 + 1)).sum +
    ∑ vertex ∈ vertices.filter (fun vertex => colors vertex = .white),
      ((children vertex).length + 1)

theorem filter_white_update_of_not_white {color : Color}
    (touched : colors vertex ≠ .white) (painted : color ≠ .white) :
    vertices.filter (fun other => update colors vertex color other = .white) =
      vertices.filter (fun other => colors other = .white) := by
  apply Finset.filter_congr
  intro other _
  by_cases same : other = vertex
  · subst same
    simp [touched, painted]
  · simp [same]

theorem sum_white_update (inside : next ∈ vertices)
    (white : colors next = .white) (weight : α → Nat) :
    (∑ vertex ∈ vertices.filter (fun other => update colors next .grey other = .white),
        weight vertex) + weight next =
      ∑ vertex ∈ vertices.filter (fun other => colors other = .white), weight vertex := by
  have split : vertices.filter (fun other => colors other = .white) =
      insert next (vertices.filter (fun other => update colors next .grey other = .white)) := by
    ext other
    by_cases same : other = next
    · subst same
      simp [inside, white]
    · simp [same]
  rw [split, Finset.sum_insert (by simp), Nat.add_comm]

section Remaining

variable (enough : remaining children vertices ((vertex, position) :: stack)
  colors ≤ fuel + 1)
include enough

theorem remaining_pop (touched : colors vertex ≠ .white) :
    remaining children vertices stack (update colors vertex .black) ≤ fuel := by
  simp only [remaining, map_cons, sum_cons] at enough ⊢
  rw [filter_white_update_of_not_white touched (by simp)]
  omega

variable (here : (children vertex)[position]? = some next)
include here

omit [DecidableEq α] in
theorem remaining_pass :
    remaining children vertices ((vertex, position + 1) :: stack) colors ≤
      fuel := by
  have inBounds : position < (children vertex).length := (List.getElem?_eq_some_iff.mp here).1
  simp only [remaining, map_cons, sum_cons] at enough ⊢
  omega

theorem remaining_push (inside : next ∈ vertices) (white : colors next = .white) :
    remaining children vertices ((next, 0) :: (vertex, position + 1) :: stack)
      (update colors next .grey) ≤ fuel := by
  have passed := remaining_pass enough here
  have whites := sum_white_update inside white (fun other => (children other).length + 1)
  simp only [remaining, map_cons, sum_cons] at passed ⊢
  omega

end Remaining

/-- Work off the stack like `visit`, but note a child that closes a cycle and
go on. -/
def collect (children : α → List α) :
    Nat → List (α × Nat) → (α → Color) → List (α × α) → List (α × α) × (α → Color)
  | _, [], colors, found => (found, colors)
  | 0, _ :: _, colors, found => (found, colors)
  | fuel + 1, (vertex, position) :: stack, colors, found =>
    match (children vertex)[position]? with
    | some next =>
      match colors next with
      | .grey =>
        collect children fuel ((vertex, position + 1) :: stack) colors (found ++ [(vertex, next)])
      | .white =>
        collect children fuel ((next, 0) :: (vertex, position + 1) :: stack)
          (update colors next .grey) found
      | .black =>
        collect children fuel ((vertex, position + 1) :: stack) colors found
    | none =>
      collect children fuel stack (update colors vertex .black) found

/-- Collect from every root that is still white. -/
def collectAll (children : α → List α) (fuel : Nat) :
    List α → (α → Color) → List (α × α) → List (α × α)
  | [], _, found => found
  | root :: roots, colors, found =>
    if colors root ≠ .white then collectAll children fuel roots colors found
    else
      let result := collect children fuel [(root, 0)] (update colors root .grey) found
      collectAll children fuel roots result.2 result.1

theorem collect_length (children : α → List α) (fuel : Nat) (stack : List (α × Nat))
    (colors : α → Color) (found : List (α × α)) :
    found.length ≤ (collect children fuel stack colors found).1.length := by
  fun_induction collect children fuel stack colors found with
  | case1 | case2 => exact le_rfl
  | case3 fuel vertex position stack colors found next here grey induction =>
    exact le_trans (by simp) induction
  | case4 | case5 | case6 => assumption

theorem collectAll_length (children : α → List α) (fuel : Nat)
    (roots : List α) (colors : α → Color) (found : List (α × α)) :
    found.length ≤ (collectAll children fuel roots colors found).length := by
  induction roots generalizing colors found with
  | nil => exact le_rfl
  | cons root roots induction =>
    rw [collectAll]
    split
    · exact induction colors found
    · exact le_trans (collect_length children fuel _ _ _) (induction _ _)

theorem collect_of_visit_ok (found : List (α × α))
    (success : visit children fuel stack colors = .ok result) :
    collect children fuel stack colors found = (found, result) := by
  fun_induction visit children fuel stack colors with
  | case1 =>
    cases success
    rw [collect]
  | case2 | case3 => cases success
  | case4 fuel vertex position stack colors next here color induction
  | case5 fuel vertex position stack colors next here color induction =>
    simp only [collect, here, color]
    exact induction success
  | case6 fuel vertex position stack colors past induction =>
    simp only [collect, past]
    exact induction success

theorem collectAll_of_detect_ok (found : List (α × α)) {roots : List α}
    (success : detect children fuel roots colors = .ok result) :
    collectAll children fuel roots colors found = found := by
  fun_induction detect children fuel roots colors with
  | case1 => rfl
  | case2 root roots colors touched induction =>
    rw [collectAll, if_pos touched]
    exact induction success
  | case3 => cases success
  | case4 root roots colors white painted visited induction =>
    simp only [collectAll, if_neg white, collect_of_visit_ok found visited]
    exact induction success

theorem Frontier.start {root : α} (frontier : Frontier children [] colors)
    (white : colors root = .white) : Frontier children [(root, 0)] (update colors root .grey) :=
  frontier.paint white rfl trivial (by simp)

omit [DecidableEq α] in
theorem frontier_white : Frontier children [] (fun _ => .white) :=
  ⟨by simp, by simp, by simp, by simp, trivial, by simp⟩

theorem detect_ok {roots : List α} (frontier : Frontier children [] colors)
    (success : detect children fuel roots colors = .ok result) :
    Frontier children [] result ∧ (∀ vertex, colors vertex = .black → result vertex = .black) ∧
      ∀ root ∈ roots, result root = .black := by
  fun_induction detect children fuel roots colors with
  | case1 =>
    cases success
    exact ⟨frontier, fun _ black => black, by simp⟩
  | case2 root roots colors touched induction =>
    obtain ⟨final, kept, all⟩ := induction frontier success
    exact ⟨final, kept, forall_mem_cons.mpr ⟨kept root (frontier.black_of_touched touched), all⟩⟩
  | case3 => cases success
  | case4 root roots colors white painted visited induction =>
    obtain ⟨middle, blackened⟩ := visit_ok (frontier.start (not_not.mp white)) visited
    obtain ⟨final, kept, all⟩ := induction middle success
    refine ⟨final, ?_, forall_mem_cons.mpr ⟨kept root (blackened root (by simp)), all⟩⟩
    intro other black
    exact kept other (blackened other (update_touched (by simp) (by simp [black])))

/-- A search that ends from all roots, among them every vertex with children,
has seen an acyclic graph. -/
theorem acyclic_of_detect_ok {roots : List α}
    (rooted : ∀ vertex, children vertex ≠ [] → vertex ∈ roots)
    (success : detect children fuel roots (fun _ => .white) = .ok result) :
    Digraph.Acyclic (Edge children) := by
  obtain ⟨final, _, all⟩ := detect_ok frontier_white success
  intro vertex cycle
  obtain ⟨child, first, _⟩ := TransGen.head'_iff.mp cycle
  have nonempty : children vertex ≠ [] := ne_nil_of_mem first
  exact final.acyclic vertex (all vertex (rooted vertex nonempty)) cycle

theorem remaining_start {root : α}
    (enough : ∑ vertex ∈ vertices, ((children vertex).length + 1) ≤ fuel)
    (inside : root ∈ vertices) (white : colors root = .white) :
    remaining children vertices [(root, 0)] (update colors root .grey) ≤ fuel := by
  have whites := sum_white_update inside white (fun other => (children other).length + 1)
  have bounded : ∑ other ∈ vertices.filter
      (fun other => colors other = .white), ((children other).length + 1) ≤
      ∑ other ∈ vertices, ((children other).length + 1) :=
    Finset.sum_le_sum_of_subset (Finset.filter_subset _ _)
  simp only [remaining, map_cons, map_nil, sum_cons, sum_nil]
  omega

section Covered

variable
  (covered : ∀ left right, Edge children left right → right ∈ vertices)
include covered

/-- With enough fuel, a visit that does not end has met a cycle through the
vertex it reports, and collecting notes something. -/
theorem visit_error (frontier : Frontier children stack colors)
    (enough : remaining children vertices stack colors ≤ fuel)
    (failed : visit children fuel stack colors = .error failure) :
    TransGen (Edge children) failure failure ∧ ∀ found,
      found.length < (collect children fuel stack colors found).1.length := by
  fun_induction visit children fuel stack colors with
  | case1 => cases failed
  | case2 => simp [remaining] at enough
  | case3 fuel vertex position stack colors next here grey =>
    have reaches : ReflTransGen (Edge children) next vertex :=
      path_reaches_top frontier.path ((frontier.grey_iff next).mp grey)
    cases failed
    simp only [collect, here, grey]
    refine ⟨TransGen.head' (mem_of_getElem? here) reaches, fun found => ?_⟩
    exact lt_of_lt_of_le (by simp) (collect_length children fuel _ _ _)
  | case4 fuel vertex position stack colors next here white induction =>
    simp only [collect, here, white]
    exact induction (frontier.push here white)
      (remaining_push enough here (covered _ _ (mem_of_getElem? here)) white) failed
  | case5 fuel vertex position stack colors next here black induction =>
    simp only [collect, here, black]
    exact induction (frontier.pass here black) (remaining_pass enough here) failed
  | case6 fuel vertex position stack colors past induction =>
    have grey := (frontier.grey_iff vertex).mpr (by simp)
    simp only [collect, past]
    exact induction (frontier.pop past) (remaining_pop enough (by simp [grey])) failed

variable (enough : ∑ vertex ∈ vertices, ((children vertex).length + 1) ≤ fuel)
include enough

theorem detect_error (found : List (α × α)) {roots : List α}
    (inside : ∀ root ∈ roots, root ∈ vertices) (frontier : Frontier children [] colors)
    (failed : detect children fuel roots colors = .error failure) :
    TransGen (Edge children) failure failure ∧
      found.length < (collectAll children fuel roots colors found).length := by
  fun_induction detect children fuel roots colors with
  | case1 => cases failed
  | case2 root roots colors touched induction =>
    rw [collectAll, if_pos touched]
    exact induction (forall_mem_cons.mp inside).2 frontier failed
  | case3 root roots colors white vertex visited =>
    cases failed
    obtain ⟨cycle, noted⟩ := visit_error covered (frontier.start (not_not.mp white))
      (remaining_start enough (inside root mem_cons_self) (not_not.mp white)) visited
    rw [collectAll, if_neg white]
    exact ⟨cycle, (noted found).trans_le (collectAll_length children fuel roots _ _)⟩
  | case4 root roots colors white painted visited induction =>
    obtain ⟨middle, -⟩ := visit_ok (frontier.start (not_not.mp white)) visited
    simp only [collectAll, if_neg white, collect_of_visit_ok found visited]
    exact induction (forall_mem_cons.mp inside).2 middle failed

variable (vertices)

/-- With enough fuel, collecting from every vertex with children notes nothing
exactly when the graph is acyclic. -/
theorem collectAll_eq_nil_iff (roots : List α)
    (rooted : ∀ vertex, children vertex ≠ [] → vertex ∈ roots)
    (inside : ∀ root ∈ roots, root ∈ vertices) :
    collectAll children fuel roots (fun _ => .white) [] = [] ↔ Digraph.Acyclic (Edge children) := by
  cases found : detect children fuel roots (fun _ => Color.white) with
  | ok result =>
    exact iff_of_true (collectAll_of_detect_ok [] found) (acyclic_of_detect_ok rooted found)
  | error failure =>
    obtain ⟨cycle, noted⟩ := detect_error covered enough [] inside frontier_white found
    exact iff_of_false (ne_nil_of_length_pos noted) fun acyclic => acyclic failure cycle

end Covered

end Steps

end ColorSearch

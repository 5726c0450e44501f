import Mathlib.Data.Prod.Lex
import FusionRouter.Compiler.Policy
import FusionRouter.Lib.KeySort
import FusionRouter.Types.JsonValue

/-!
# The content hash of a workflow

`compute_workflow_content_hash` runs FNV-1a over the plan id, the policy
version, the nodes in the order of their ids and the edges in the order of
their endpoints.  Both sorts are stable, so nodes that share an id and edges
that share their endpoints are hashed as they are listed.
-/

/-- The lowest bytes of a number, the lowest one first. -/
def Coding.littleEndian : Nat → Nat → List UInt8
  | 0, _ => []
  | width + 1, value =>
    UInt8.ofNat value :: littleEndian width (value / 256)

/-- `u64::to_le_bytes`. -/
def Coding.leBytes (value : UInt64) : List UInt8 :=
  littleEndian 8 value.toNat

namespace FusionRouter

/-- `as_u128() as u64`. -/
def Uuid.lowHalf (id : Uuid) : UInt64 :=
  UInt64.ofNat id.val

/-- `(as_u128() >> 64) as u64`. -/
def Uuid.highHalf (id : Uuid) : UInt64 :=
  UInt64.ofNat (id.val / 2 ^ 64)

namespace ContentHash

open Coding KeySort

/-- The entries of a config in the order in which its hash map is walked. -/
structure Walks (entries : List (String × Json)) (config : Table String Json) :
    Prop where
  distinct : entries.Pairwise (fun left right => left.1 ≠ right.1)
  mem_iff : ∀ key value, (key, value) ∈ entries ↔ config key = some value
  wellFormed : ∀ entry ∈ entries, entry.2.WellFormed

/-- `canonical_config_json` of a config with these entries. -/
def canonicalConfigJson (entries : List (String × Json)) : Option String :=
  if entries.isEmpty then none
  else some (Json.object (OrderedMap.collect entries)).normalize.compact

/-! ## FNV-1a -/

def offset : UInt64 := 0xcbf29ce484222325

def prime : UInt64 := 0x100000001b3

def mix (h : UInt64) (byte : UInt8) : UInt64 :=
  (h ^^^ byte.toUInt64) * prime

def mixU64 (h value : UInt64) : UInt64 :=
  (leBytes value).foldl mix h

def asBytes (text : String) : List UInt8 :=
  text.toList.flatMap String.utf8EncodeChar

def mixStr (h : UInt64) (text : String) : UInt64 :=
  (asBytes text).foldl mix (mixU64 h (UInt64.ofNat (asBytes text).length))

/-- A text or a zero byte: a node's model, an edge's condition. -/
def mixOptional (h : UInt64) : Option String → UInt64
  | some text => mixStr h text
  | none => mix h 0

/-- An empty config is skipped. -/
def mixConfig (h : UInt64) (entries : List (String × Json)) : UInt64 :=
  match canonicalConfigJson entries with
  | some canonical => mixStr h canonical
  | none => h

section

variable (externals : Externals) (walk : IRNode → List (String × Json))

-- `Debug` of a kind is its tag, and of a strategy its label.
def mixNode (h : UInt64) (node : IRNode) : UInt64 :=
  let h := mixU64 h node.id.lowHalf
  let h := mixU64 h node.id.highHalf
  let h := mixStr h node.kind.tag
  let h := mixStr h (node.strategy.asLabel externals)
  let h := mixOptional h node.model
  mixConfig h (walk node)

def mixEdge (h : UInt64) (edge : IREdge) : UInt64 :=
  let h := mixU64 h edge.source.lowHalf
  let h := mixU64 h edge.target.lowHalf
  mixOptional h edge.condition

def sortedNodes (ir : WorkflowIR) : List IRNode :=
  sortByKey IRNode.id ir.nodes

def endpoints (edge : IREdge) : Uuid ×ₗ Uuid :=
  toLex (edge.source, edge.target)

def sortedEdges (ir : WorkflowIR) : List IREdge :=
  sortByKey endpoints ir.edges

def computeWorkflowContentHash (ir : WorkflowIR) : UInt64 :=
  let h := mixU64 offset ir.planId.lowHalf
  let h := mixU64 h ir.planId.highHalf
  let h := mixU64 h (UInt64.ofNat ir.metadata.policyVersion)
  let h := mixU64 h (UInt64.ofNat ir.nodes.length)
  let h := (sortedNodes ir).foldl (mixNode externals walk) h
  (sortedEdges ir).foldl mixEdge h

end

/-! ## The bytes that are hashed -/

def textBytes (text : String) : List UInt8 :=
  leBytes (UInt64.ofNat (asBytes text).length) ++ asBytes text

def optionalBytes : Option String → List UInt8
  | some text => textBytes text
  | none => [0]

/-- A text or nothing. -/
def skippedBytes : Option String → List UInt8
  | some text => textBytes text
  | none => []

def idBytes (id : Uuid) : List UInt8 :=
  leBytes id.lowHalf ++ leBytes id.highHalf

def edgeBytes (edge : IREdge) : List UInt8 :=
  leBytes edge.source.lowHalf ++ (leBytes edge.target.lowHalf ++ optionalBytes edge.condition)

section

variable (externals : Externals) (walk : IRNode → List (String × Json))

def nodeBytes (node : IRNode) : List UInt8 :=
  idBytes node.id ++ (textBytes node.kind.tag ++ (textBytes (node.strategy.asLabel externals) ++
      (optionalBytes node.model ++ skippedBytes (canonicalConfigJson (walk node)))))

/-- The byte sequence that is fed to FNV-1a. -/
def contentBytes (ir : WorkflowIR) : List UInt8 :=
  idBytes ir.planId ++ (leBytes (UInt64.ofNat ir.metadata.policyVersion) ++
    (leBytes (UInt64.ofNat ir.nodes.length) ++
      ((sortedNodes ir).flatMap (nodeBytes externals walk) ++ (sortedEdges ir).flatMap edgeBytes)))

end

theorem mixU64_eq (h value : UInt64) :
    mixU64 h value = (leBytes value).foldl mix h := rfl

theorem mixStr_eq (h : UInt64) (text : String) : mixStr h text = (textBytes text).foldl mix h := by
  rw [textBytes, List.foldl_append]
  rfl

theorem mixOptional_eq (h : UInt64) (text : Option String) :
    mixOptional h text = (optionalBytes text).foldl mix h := by
  cases text with
  | none => rfl
  | some text => exact mixStr_eq h text

theorem mixConfig_eq (h : UInt64) (entries : List (String × Json)) :
    mixConfig h entries = (skippedBytes (canonicalConfigJson entries)).foldl mix h := by
  unfold mixConfig
  cases canonicalConfigJson entries with
  | none => rfl
  | some canonical => exact mixStr_eq h canonical

theorem mixNode_eq (h : UInt64) (node : IRNode) :
    mixNode externals walk h node = (nodeBytes externals walk node).foldl mix h := by
  simp only [mixNode, nodeBytes, idBytes, mixConfig_eq, mixOptional_eq,
    mixStr_eq, mixU64_eq, List.foldl_append]

theorem mixEdge_eq (h : UInt64) (edge : IREdge) :
    mixEdge h edge = (edgeBytes edge).foldl mix h := by
  simp only [mixEdge, edgeBytes, mixOptional_eq, mixU64_eq, List.foldl_append]

theorem computeWorkflowContentHash_eq (ir : WorkflowIR) :
    computeWorkflowContentHash externals walk ir =
      (contentBytes externals walk ir).foldl mix offset := by
  have nodes : mixNode externals walk = fun h node => (nodeBytes externals walk node).foldl mix h :=
    funext₂ mixNode_eq
  have edges : mixEdge = fun h edge => (edgeBytes edge).foldl mix h := funext₂ mixEdge_eq
  simp only [computeWorkflowContentHash, contentBytes, idBytes, mixU64_eq,
    List.foldl_append, List.foldl_flatMap, nodes, edges]

/-! ## Configs -/

namespace Walks

section

variable (walks : Walks entries config)
include walks

theorem lookup_collect (key : String) : (OrderedMap.collect entries).lookup key = config key := by
  rw [OrderedMap.lookup_collect walks.distinct]
  refine Option.ext fun value => ?_
  rw [OrderedMap.lookup_eq_some_iff walks.distinct, walks.mem_iff]

theorem collect_eq (again : Walks others config) :
    OrderedMap.collect entries = OrderedMap.collect others := by
  refine (OrderedMap.ordered_collect entries).ext (OrderedMap.ordered_collect others) fun key => ?_
  rw [walks.lookup_collect, again.lookup_collect]

theorem eq_nil_iff : entries = [] ↔ ∀ key, config key = none := by
  rw [List.eq_nil_iff_forall_not_mem]
  constructor
  · intro empty key
    refine Option.eq_none_iff_forall_ne_some.mpr fun value found => ?_
    exact empty (key, value) ((walks.mem_iff key value).mpr found)
  · rintro empty ⟨key, value⟩ member
    have found := (walks.mem_iff key value).mp member
    rw [empty key] at found
    cases found

theorem canonicalConfigJson_eq (again : Walks others config) :
    canonicalConfigJson entries = canonicalConfigJson others := by
  have empty : entries.isEmpty = others.isEmpty := by
    rw [Bool.eq_iff_iff, List.isEmpty_iff, List.isEmpty_iff, walks.eq_nil_iff, again.eq_nil_iff]
  rw [canonicalConfigJson, canonicalConfigJson, empty, walks.collect_eq again]

end

end Walks

/-! ## The order of the listing -/

/-- The same workflow with its nodes and edges listed in some other order. -/
structure Relisted (ir other : WorkflowIR) : Prop where
  planId : other.planId = ir.planId
  metadata : other.metadata = ir.metadata
  nodes : other.nodes.Perm ir.nodes
  edges : other.edges.Perm ir.edges

/-- No two nodes share an id and no two edges their endpoints. -/
structure Distinguished (ir : WorkflowIR) : Prop where
  nodes : ∀ left ∈ ir.nodes, ∀ right ∈ ir.nodes, left.id = right.id → left = right
  edges : ∀ left ∈ ir.edges, ∀ right ∈ ir.edges, left.source = right.source →
    left.target = right.target → left = right

theorem endpoints_eq_iff :
    endpoints left = endpoints right ↔ left.source = right.source ∧ left.target = right.target := by
  rw [endpoints, endpoints, toLex_inj, Prod.mk.injEq]

theorem Distinguished.sortedNodes_eq (distinguished : Distinguished ir)
    (relisted : Relisted ir other) : sortedNodes other = sortedNodes ir := by
  have free : TieFree IRNode.id id ir.nodes := distinguished.nodes
  have same := map_sortByKey_eq relisted.nodes free
  rwa [List.map_id, List.map_id] at same

theorem Distinguished.sortedEdges_eq (distinguished : Distinguished ir)
    (relisted : Relisted ir other) : sortedEdges other = sortedEdges ir := by
  have free : TieFree endpoints id ir.edges := by
    intro left first right second same
    obtain ⟨sources, targets⟩ := endpoints_eq_iff.mp same
    exact distinguished.edges left first right second sources targets
  have same := map_sortByKey_eq relisted.edges free
  rwa [List.map_id, List.map_id] at same

/-- The hash does not depend on the listing if no two nodes share an id and no
two edges their endpoints, and exactly then the nodes and edges are always
hashed in the same order. -/
theorem content_hash_listing (externals : Externals) (ir : WorkflowIR) :
    (Distinguished ir → ∀ (other : WorkflowIR) (walk again : IRNode → List (String × Json)),
        Relisted ir other → (∀ node ∈ ir.nodes, Walks (walk node) node.config) →
        (∀ node ∈ ir.nodes, Walks (again node) node.config) →
        computeWorkflowContentHash externals again other =
          computeWorkflowContentHash externals walk ir) ∧ (Distinguished ir ↔
        ∀ other, Relisted ir other → sortedNodes other = sortedNodes ir ∧
            sortedEdges other = sortedEdges ir) := by
  refine ⟨?_, ?_, ?_⟩
  rotate_left
  · intro distinguished other relisted
    exact ⟨distinguished.sortedNodes_eq relisted, distinguished.sortedEdges_eq relisted⟩
  · intro independent
    constructor
    · refine tieFree_iff.mpr fun nodes permuted => ?_
      have relisted : Relisted ir { ir with nodes := nodes } :=
        ⟨rfl, rfl, permuted, List.Perm.refl _⟩
      exact congrArg (List.map id) (independent _ relisted).1
    · have free : TieFree endpoints id ir.edges := by
        refine tieFree_iff.mpr fun edges permuted => ?_
        have relisted : Relisted ir { ir with edges := edges } :=
          ⟨rfl, rfl, List.Perm.refl _, permuted⟩
        exact congrArg (List.map id) (independent _ relisted).2
      intro left first right second sources targets
      exact free left first right second (endpoints_eq_iff.mpr ⟨sources, targets⟩)
  intro distinguished other walk again relisted walks walksAgain
  have bytes : (sortedNodes ir).flatMap (nodeBytes externals again) =
      (sortedNodes ir).flatMap (nodeBytes externals walk) := by
    refine List.flatMap_congr fun node member => ?_
    have listed := mem_sortByKey.mp member
    rw [nodeBytes, nodeBytes, (walksAgain node listed).canonicalConfigJson_eq (walks node listed)]
  rw [computeWorkflowContentHash_eq, computeWorkflowContentHash_eq,
    contentBytes, contentBytes, distinguished.sortedNodes_eq relisted,
    distinguished.sortedEdges_eq relisted, bytes, relisted.planId,
    relisted.metadata, relisted.nodes.length_eq]

namespace Sample

def plain (id : Uuid) : IRNode :=
  { id := id
    kind := .generate
    strategy := .single
    model := some "m"
    config := Table.empty }

def parallel (edges : List IREdge) : WorkflowIR :=
  { planId := 7
    nodes := [plain 1, plain 2]
    edges := edges
    metadata :=
      { policyApplied := []
        policyVersion := 0
        estimatedCost := 0
        estimatedTokens := 0 } }

def externals : Externals :=
  Externals.sample (fun parent _ => parent)

def always : IREdge :=
  { source := 1
    target := 2
    condition := none }

def onSuccess : IREdge :=
  { always with condition := some "ok" }

def back : IREdge :=
  { source := 2
    target := 1
    condition := none }

theorem walks_plain (id : Uuid) : Walks [] (plain id).config :=
  ⟨List.Pairwise.nil, by simp [plain, Table.empty], by simp⟩

theorem distinguished_pair : Distinguished (parallel [always, back]) := by
  constructor
  · simp [parallel, plain]
  · simp [parallel, always, back]

end Sample

open Sample in
theorem content_hash_listing_pair :
    computeWorkflowContentHash externals (fun _ => []) (parallel [back, always]) =
      computeWorkflowContentHash externals (fun _ => []) (parallel [always, back]) := by
  have walks : ∀ node ∈ (parallel [always, back]).nodes, Walks [] node.config := by
    intro node member
    rcases List.mem_pair.mp member with rfl | rfl
    · exact walks_plain 1
    · exact walks_plain 2
  exact (content_hash_listing externals _).1 distinguished_pair _ _ _
    ⟨rfl, rfl, List.Perm.refl _, List.Perm.swap _ _ _⟩ walks walks

open Sample in
/-- Two edges between the same nodes, listed in both orders. -/
theorem parallel_edges_listing :
    Relisted (parallel [always, onSuccess]) (parallel [onSuccess, always]) ∧
      computeWorkflowContentHash externals (fun _ => []) (parallel [always, onSuccess]) ≠
        computeWorkflowContentHash externals (fun _ => []) (parallel [onSuccess, always]) := by
  refine ⟨⟨rfl, rfl, List.Perm.refl _, List.Perm.swap _ _ _⟩, ?_⟩
  decide +kernel

end ContentHash

end FusionRouter

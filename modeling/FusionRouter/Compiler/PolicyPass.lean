import FusionRouter.Compiler.Compiled
import FusionRouter.Scheduler.Gating

/-!
# The policy pass on its own output

The gates that the pass inserts are nodes of the workflow, and a second pass
asks the rules about them as well.  Their ids are derived from those of the
nodes behind them, and a workflow that has such an id already gets it twice.
-/

namespace FusionRouter

open List
open Relation (ReflTransGen)

namespace PolicyCompiler

/-- The rules leave the node as it is. -/
def Settled (externals : Externals) (policy : PolicyIR) (ir : WorkflowIR) (node : IRNode) : Prop :=
  ∀ rule, winningRule externals policy node = some rule →
    rule.effect ≠ .deny ∧ (rule.effect = .approval →
      alreadyGuarded ir.nodes ir.edges node.id = true)

/-- The pass adds gates, one for each node of a sublist. -/
structure Adds (externals : Externals) (policy : PolicyIR) (ir out : WorkflowIR)
    (guarded : List IRNode) : Prop where
  sublist : guarded.Sublist ir.nodes
  nodes : out.nodes = ir.nodes ++ guarded.map (gateNode externals ·.id)
  edges : out.edges = ir.edges ++ guarded.map (gateEdge externals ·.id)
  needed : ∀ node ∈ guarded, NeedsGate externals policy ir.nodes ir.edges node
  complete : ∀ node ∈ ir.nodes, NeedsGate externals policy ir.nodes ir.edges node →
    ∃ other ∈ guarded, other.id = node.id

theorem apply_ok (applied : apply externals policy ir = .ok out) :
    (∃ guarded, Adds externals policy ir out guarded) ∧
    ∀ node ∈ ir.nodes, Settled externals policy out node := by
  unfold apply at applied
  split at applied
  · cases applied
  next later gates passed =>
    cases applied
    obtain ⟨undenied, guarded, sublist, rfl, rfl, needed, approved⟩ := guardNodes_ok passed
    refine ⟨⟨guarded, sublist, by simp, rfl, needed, ?_⟩, ?_⟩
    · rintro node member ⟨⟨rule, wins, approval⟩, uncovered⟩
      rcases approved node member rule wins approval with covered | added
      · -- a gate that was added before leads into a node with this id
        rw [alreadyGuarded_append, uncovered, Bool.false_or] at covered
        simp only [alreadyGuarded, any_eq_true, Bool.and_eq_true, decide_eq_true_eq] at covered
        obtain ⟨_, new, same, -⟩ := covered
        obtain ⟨other, added, rfl⟩ := mem_map.mp new
        exact ⟨other, added, same⟩
      · exact ⟨node, added, rfl⟩
    intro node member rule wins
    refine ⟨undenied node member rule wins, ?_⟩
    intro approval
    simp only [alreadyGuarded, any_eq_true, Bool.and_eq_true,
      decide_eq_true_eq, nil_append] at approved ⊢
    rcases approved node member rule wins approval with
      ⟨edge, inside, target, gate, known, isGate⟩ | added
    · exact ⟨edge, inside, target, gate, mem_append_left _ known, isGate⟩
    · exact ⟨gateEdge externals node.id, mem_append_right _ (mem_map.mpr ⟨node, added, rfl⟩), rfl,
        gateNode externals node.id, mem_append_right _ (mem_map.mpr ⟨node, added, rfl⟩), rfl, rfl⟩

theorem guardNodes_settled (settled : ∀ node ∈ rest, Settled externals policy ir node) :
    guardNodes externals policy ir.nodes rest ir.edges gates = .ok (ir.edges, gates) := by
  induction rest with
  | nil => rfl
  | cons node rest induction =>
    obtain ⟨first, settled⟩ := forall_mem_cons.mp settled
    unfold guardNodes
    split
    · exact induction settled
    next rule wins =>
      obtain ⟨allowed, covered⟩ := first rule wins
      split
      next deny => exact (allowed deny).elim
      next approval =>
        rw [if_pos (covered approval)]
        exact induction settled
      · exact induction settled

theorem apply_eq_self_iff :
    apply externals policy ir = .ok ir ↔ ∀ node ∈ ir.nodes, Settled externals policy ir node := by
  constructor
  · exact fun applied => (apply_ok applied).2
  · intro settled
    unfold apply
    rw [guardNodes_settled settled]
    simp

end PolicyCompiler

open PolicyCompiler

/-- A second pass changes nothing exactly where the rules leave the gates alone
that the first one inserted. -/
theorem policy_idempotent_iff (externals : Externals) (policy : PolicyIR) (ir next : WorkflowIR)
    (applied : PolicyCompiler.apply externals policy ir = .ok next) :
    PolicyCompiler.apply externals policy next = .ok next ↔
      ∀ gate ∈ next.nodes.drop ir.nodes.length, Settled externals policy next gate := by
  obtain ⟨⟨guarded, adds⟩, settled⟩ := apply_ok applied
  rw [apply_eq_self_iff, adds.nodes, drop_left, forall_mem_append]
  exact and_iff_right settled

namespace Sample

/-- The nodes of a plain workflow need an approval. -/
def approveGeneral : PolicyIR :=
  ⟨[⟨"general", "general", 0, .approval, []⟩]⟩

/-- Every node does, gates among them. -/
def approveAll : PolicyIR :=
  ⟨[⟨"all", "*", 0, .approval, []⟩]⟩

/-- The id that is derived from another one is its mirror image. -/
def mirrored : Externals :=
  Externals.sample (fun id _ => id.rev)

def alone : WorkflowIR :=
  workflow [plainNode 1 .generate] []

def gated : WorkflowIR :=
  workflow [plainNode 1 .generate, gateNode mirrored 1] [gateEdge mirrored 1]

theorem gateId_mirrored : Function.Injective (gateId mirrored) :=
  Fin.rev_injective

end Sample

open Sample

theorem general_gated_once : PolicyCompiler.apply mirrored approveGeneral gated = .ok gated := by
  refine (policy_idempotent_iff mirrored approveGeneral alone gated rfl).mpr ?_
  intro gate inserted rule wins
  cases mem_singleton.mp inserted
  cases wins

/-- The second pass puts a gate in front of the gate. -/
theorem gate_gated :
    ¬ ∀ (externals : Externals) (policy : PolicyIR) (ir next : WorkflowIR),
      PolicyCompiler.apply externals policy ir = .ok next →
        PolicyCompiler.apply externals policy next = .ok next := by
  intro idempotent
  have again := idempotent mirrored approveAll alone gated rfl
  have sizes := congrArg (fun result =>
    (Except.toOption result).map (fun ir => ir.nodes.length)) again
  revert sizes
  decide

namespace ControlFlowValidation

theorem nodeError_append (edges : out.edges = ir.edges ++ more)
    (sound : nodeError ir node = none) : nodeError out node = none := by
  have outgoing : ∃ later, out.outgoingEdges node.id = ir.outgoingEdges node.id ++ later := by
    rw [WorkflowIR.outgoingEdges, edges, filter_append]
    exact ⟨_, rfl⟩
  have incoming : ∃ later, out.incomingEdges node.id = ir.incomingEdges node.id ++ later := by
    rw [WorkflowIR.incomingEdges, edges, filter_append]
    exact ⟨_, rfl⟩
  obtain ⟨_, outgoing⟩ := outgoing
  obtain ⟨_, incoming⟩ := incoming
  unfold nodeError at sound ⊢
  rw [outgoing, incoming]
  cases kind : node.kind <;> simp only [kind] at sound ⊢ <;> grind [append_eq_nil_iff]

theorem joined_checkedEdges :
    Joined (checkedEdges ir) left right ↔ ∃ edge ∈ ir.edges, edge.condition ≠ some "loop" ∧
        edge.source = left ∧ edge.target = right := by
  simp [Joined, checkedEdges, and_assoc]

end ControlFlowValidation

open ControlFlowValidation

/-- The unmarked edges of the workflow and those from the gates the pass adds. -/
def GatedStep (externals : Externals) (policy : PolicyIR) (ir : WorkflowIR)
    (left right : Uuid) : Prop :=
  Joined (checkedEdges ir) left right ∨ ∃ node ∈ ir.nodes,
    NeedsGate externals policy ir.nodes ir.edges node ∧
      gateId externals node.id = left ∧ node.id = right

/-- The gate in front of the node has an id that the node does not lead to and,
where ids are distinct, one of its own. -/
structure GateFits (externals : Externals) (policy : PolicyIR) (ir : WorkflowIR)
    (node : IRNode) : Prop where
  fresh : (ir.nodes.map IRNode.id).Nodup → gateId externals node.id ∉ ir.nodes.map IRNode.id
  ahead : ¬ ReflTransGen (GatedStep externals policy ir) node.id (gateId externals node.id)

/-- Nothing leads to an id that no node has. -/
theorem gateFits_of_fresh (accepted : ControlFlowValidation.apply externals ir = .ok ir)
    (member : node ∈ ir.nodes) (fresh : gateId externals node.id ∉ ir.nodes.map IRNode.id) :
    GateFits externals policy ir node := by
  obtain ⟨-, joined, -⟩ := (apply_ok_iff _ _ _).mp accepted
  refine ⟨fun _ => fresh, fun walk => ?_⟩
  rcases ReflTransGen.cases_tail walk with same | ⟨before, -, last⟩
  · rw [same] at fresh
    exact fresh (mem_map_of_mem member)
  · rcases last with old | ⟨other, inside, -, -, same⟩
    · obtain ⟨edge, known, -, -, same⟩ := joined_checkedEdges.mp old
      exact fresh (same ▸ (edgeError_eq_none_iff.mp (joined edge known)).2)
    · exact fresh (same ▸ mem_map_of_mem inside)

namespace PolicyCompiler.Adds

variable (adds : Adds externals policy ir out guarded)

include adds

theorem ids : out.nodes.map IRNode.id =
    ir.nodes.map IRNode.id ++ guarded.map (gateId externals ·.id) := by
  rw [adds.nodes, map_append, map_map]
  rfl

theorem joined_iff : Joined (checkedEdges out) left right ↔
    GatedStep externals policy ir left right := by
  rw [GatedStep, joined_checkedEdges, joined_checkedEdges, adds.edges]
  constructor
  · rintro ⟨edge, member, unmarked, rfl, rfl⟩
    rcases mem_append.mp member with old | new
    · exact Or.inl ⟨edge, old, unmarked, rfl, rfl⟩
    · obtain ⟨node, added, rfl⟩ := mem_map.mp new
      exact Or.inr ⟨node, adds.sublist.subset added, adds.needed node added, rfl, rfl⟩
  · rintro (⟨edge, old, rest⟩ | ⟨node, member, needs, rfl, rfl⟩)
    · exact ⟨edge, mem_append_left _ old, rest⟩
    · obtain ⟨other, added, same⟩ := adds.complete node member needs
      refine ⟨gateEdge externals node.id, mem_append_right _ (mem_map.mpr ⟨other, added, ?_⟩),
        by simp [gateEdge], rfl, rfl⟩
      rw [same]

/-- Ids and edges of the gates are in order; only a cycle can make the
validation refuse the workflow. -/
theorem accepted_iff (accepted : ControlFlowValidation.apply externals ir = .ok ir) :
    ControlFlowValidation.apply externals out = .ok out ↔
      Digraph.Acyclic (GatedStep externals policy ir) := by
  obtain ⟨-, joined, sound, -⟩ := (apply_ok_iff _ _ _).mp accepted
  have steps : Joined (checkedEdges out) = GatedStep externals policy ir := by
    funext left right
    exact propext adds.joined_iff
  have linked : ∀ edge ∈ out.edges, edgeError externals out edge = none := by
    intro edge member
    rw [edgeError_eq_none_iff, adds.ids]
    rw [adds.edges] at member
    rcases mem_append.mp member with old | new
    · exact (edgeError_eq_none_iff.mp (joined edge old)).imp (mem_append_left _) (mem_append_left _)
    · obtain ⟨node, added, rfl⟩ := mem_map.mp new
      exact ⟨mem_append_right _ (mem_map.mpr ⟨node, added, rfl⟩),
        mem_append_left _ (mem_map_of_mem (adds.sublist.subset added))⟩
  have fine : ∀ node ∈ out.nodes, nodeError out node = none := by
    intro node member
    rw [adds.nodes] at member
    rcases mem_append.mp member with old | new
    · exact nodeError_append adds.edges (sound node old)
    · obtain ⟨target, -, rfl⟩ := mem_map.mp new
      rfl
  rw [apply_ok_iff, steps]
  exact ⟨fun valid => valid.2.2.2, fun acyclic => ⟨rfl, linked, fine, acyclic⟩⟩

end PolicyCompiler.Adds

/-- The pass keeps a workflow valid and its ids distinct exactly if the gate of
every node that needs one fits. -/
theorem policy_keeps_valid (externals : Externals) (policy : PolicyIR) (ir next : WorkflowIR)
    (collisionFree : Function.Injective (gateId externals))
    (accepted : ControlFlowValidation.apply externals ir = .ok ir)
    (applied : PolicyCompiler.apply externals policy ir = .ok next) :
    (ControlFlowValidation.apply externals next = .ok next ∧
      ((ir.nodes.map IRNode.id).Nodup → (next.nodes.map IRNode.id).Nodup)) ↔
    ∀ node ∈ ir.nodes, NeedsGate externals policy ir.nodes ir.edges node →
      GateFits externals policy ir node := by
  obtain ⟨⟨guarded, adds⟩, -⟩ := PolicyCompiler.apply_ok applied
  have acyclic := ((apply_ok_iff _ _ _).mp accepted).2.2.2
  rw [adds.accepted_iff accepted, adds.ids]
  constructor
  · rintro ⟨uncycled, distinct⟩ node member needs
    refine ⟨fun once known => ?_, fun walk => ?_⟩
    · obtain ⟨other, added, same⟩ := adds.complete node member needs
      exact (List.disjoint_of_nodup_append (distinct once)) known
        (mem_map.mpr ⟨other, added, by rw [same]⟩)
    · exact uncycled _ (.tail' walk (Or.inr ⟨node, member, needs, rfl, rfl⟩))
  · intro fits
    refine ⟨acyclic.grown_iff.mpr ?_, fun once => ?_⟩
    · rintro left right (old | ⟨node, member, needs, rfl, rfl⟩) new
      · exact (new old).elim
      · exact (fits node member needs).ahead
    · refine List.Nodup.append once ?_ ?_
      · have kept := (once.sublist (adds.sublist.map IRNode.id)).map collisionFree
        rwa [map_map] at kept
      · intro id known derived
        obtain ⟨node, added, rfl⟩ := mem_map.mp derived
        exact (fits node (adds.sublist.subset added) (adds.needed node added)).fresh once known

namespace Sample

/-- The last node has the id that a gate in front of the second one would
get. -/
def chain : WorkflowIR :=
  workflow [plainNode 1 .generate, { plainNode 2 .generate with model := some "m" },
    { plainNode (Fin.rev 2) .transform with model := some "m" }] [⟨1, 2, none⟩, ⟨2, Fin.rev 2, none⟩]

def chainGated : WorkflowIR :=
  { chain with
    nodes := chain.nodes ++ [gateNode mirrored 1]
    edges := chain.edges ++ [gateEdge mirrored 1] }

end Sample

theorem gated_valid :
    ControlFlowValidation.apply mirrored chainGated = .ok chainGated ∧
      ((chain.nodes.map IRNode.id).Nodup → (chainGated.nodes.map IRNode.id).Nodup) := by
  refine (policy_keeps_valid mirrored approveGeneral chain chainGated gateId_mirrored
    rfl rfl).mpr ?_
  rintro node member ⟨⟨rule, wins, -⟩, -⟩
  refine gateFits_of_fresh rfl member ?_
  rcases mem_cons.mp member with rfl | named
  · decide
  · -- the rule is not about nodes with a model
    have unmatched : ∀ node ∈ chain.nodes.tail,
        winningRule mirrored approveGeneral node = none := by decide
    simp [unmatched node named] at wins

/-- The workflow has a node with the id of the gate in front of the first one,
and an edge into it. -/
theorem taken_id_closes_cycle :
    ¬ ∀ (externals : Externals) (policy : PolicyIR) (ir next : WorkflowIR),
      Function.Injective (gateId externals) → ControlFlowValidation.apply externals ir = .ok ir →
      PolicyCompiler.apply externals policy ir = .ok next →
        ControlFlowValidation.apply externals next = .ok next ∧
          ((ir.nodes.map IRNode.id).Nodup → (next.nodes.map IRNode.id).Nodup) := by
  intro keeps
  have valid := keeps mirrored approveGeneral
    (workflow [plainNode 1 .generate, plainNode (Fin.rev 1) .transform] [⟨1, Fin.rev 1, none⟩])
    _ gateId_mirrored rfl rfl
  have once := valid.2 (by decide)
  revert once
  decide

end FusionRouter

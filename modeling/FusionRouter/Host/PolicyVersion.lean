import FusionRouter.Compiler.Compiled
import FusionRouter.FusionIr.Adapter
import FusionRouter.Host.PolicyRegistry
import FusionRouter.Planner.IntentPlanner

/-!
# The policy version of a chat request

A request plans with one snapshot of the registry, whose version it records, and
compiles with the rules of another.  The registry may have changed in between.
-/

namespace FusionRouter

namespace PolicyRegistry

inductive Mutation where
  | apply (id name rule : String)
  | remove (id : String)
deriving Repr, DecidableEq

def mutate (registry : PolicyRegistry) : Mutation → PolicyRegistry
  | .apply id name rule => registry.applyPolicy id name rule
  | .remove id => registry.removePolicy id

def after (registry : PolicyRegistry) (mutations : List Mutation) :
    PolicyRegistry :=
  mutations.foldl mutate registry

def snapshotAt (registry : PolicyRegistry) (version : Nat) : Option PolicySnapshot :=
  registry.history.find? (fun snapshot => snapshot.version = version)

/-- The history holds nothing beyond the current version, and that one. -/
structure Recorded (registry : PolicyRegistry) : Prop where
  past : ∀ snapshot ∈ registry.history, snapshot.version ≤ registry.version
  current : registry.snapshotAt registry.version = some registry.currentSnapshot

variable {registry : PolicyRegistry}

theorem Recorded.commit (recorded : registry.Recorded) (policies : List PolicyDeclarationSnapshot) :
    (registry.commit policies).Recorded := by
  constructor
  · intro snapshot member
    rcases List.mem_append.mp member with old | new
    · exact Nat.le_succ_of_le (recorded.past snapshot old)
    · rw [List.mem_singleton.mp new]
      exact Nat.le_refl _
  · have missing : registry.history.find? (fun snapshot =>
        snapshot.version = registry.version + 1) = none := by
      rw [List.find?_eq_none]
      intro snapshot member
      have := recorded.past snapshot member
      simp only [decide_eq_true_eq]
      omega
    change List.find? (fun snapshot : PolicySnapshot =>
      snapshot.version = registry.version + 1) (registry.history ++ [_]) = _
    rw [List.find?_append, missing]
    simp [currentSnapshot, PolicyRegistry.commit]

theorem mutate_eq_commit (registry : PolicyRegistry) (mutation : Mutation) :
    ∃ policies, registry.mutate mutation = registry.commit policies := by
  cases mutation <;> exact ⟨_, rfl⟩

theorem Recorded.after (recorded : registry.Recorded)
    (mutations : List Mutation) : (registry.after mutations).Recorded := by
  induction mutations generalizing registry with
  | nil => exact recorded
  | cons mutation mutations induction =>
    obtain ⟨policies, same⟩ := registry.mutate_eq_commit mutation
    exact induction (same ▸ recorded.commit policies)

theorem snapshotAt_after (mutations : List Mutation) {version : Nat}
    (old : version ≤ registry.version) :
    (registry.after mutations).snapshotAt version = registry.snapshotAt version := by
  induction mutations generalizing registry with
  | nil => rfl
  | cons mutation mutations induction =>
    obtain ⟨policies, same⟩ := registry.mutate_eq_commit mutation
    have next : version ≤ (registry.mutate mutation).version := by
      rw [same]
      exact Nat.le_succ_of_le old
    have newer : registry.version + 1 ≠ version := by omega
    refine (induction next).trans ?_
    rw [same]
    simp [snapshotAt, commit, List.find?_append, newer]

theorem recorded_new : new.Recorded := by
  constructor <;> decide

/-- The version counts the mutations, no id is stored twice, and the history keeps what was
in force after each of them. -/
theorem history_complete (earlier later : List Mutation) :
    (new.after (earlier ++ later)).version = 1 + (earlier ++ later).length ∧
      ((new.after (earlier ++ later)).policies.map (·.id)).Nodup ∧
      (new.after (earlier ++ later)).snapshotAt (1 + earlier.length) =
        some (new.after earlier).currentSnapshot := by
  have counted : ∀ mutations, (new.after mutations).version = 1 + mutations.length ∧
      ((new.after mutations).policies.map (·.id)).Nodup := by
    intro mutations
    induction mutations using List.reverseRecOn with
    | nil => decide
    | append_singleton mutations mutation ih =>
      obtain ⟨version, distinct⟩ := ih
      have rest keep := ((List.filter_sublist (p := keep)).map _).nodup distinct
      rw [after, List.foldl_append, List.length_append]
      cases mutation with
      | remove id => exact ⟨congrArg (· + 1) version, rest _⟩
      | apply id name rule =>
        refine ⟨congrArg (· + 1) version, ?_⟩
        simp only [List.foldl, mutate, applyPolicy, commit, List.map_append]
        exact (rest _).append (List.nodup_singleton _) (by simp)
  refine ⟨(counted _).1, (counted _).2, ?_⟩
  rw [← (counted earlier).1, after, List.foldl_append]
  exact (snapshotAt_after later (Nat.le_refl _)).trans (recorded_new.after earlier).current

end PolicyRegistry

/-- A chat request, with what does not depend on the registry. -/
structure PolicedRequest where
  read : DeclarationReader
  catalog : IntentPlanner.ModelCatalog
  planning : IntentPlanner.PlanningRequest
  options : CompilerOptions

namespace PolicedRequest

variable (request : PolicedRequest)

/-- The planner is given the version and the names of what can be read. -/
def planFromCrates (snapshot : PolicySnapshot) : Except String WorkflowIR :=
  let planning :=
    { request.planning with
      policyVersion := snapshot.version
      policyNames := snapshot.policies.filterMap (fun stored =>
        (request.read stored.rule).toOption.map PolicyDeclaration.name) }
  match IntentPlanner.plan request.options.externals request.catalog planning with
  | .error error =>
    .error ("fusion_planner error: " ++ error.debug request.options.externals)
  | .ok contract =>
    match FusionIr.workflowToTypes request.options.externals contract with
    | .error error => .error ("adapter error: " ++ error)
    | .ok ir => .ok ir

/-- The rules for the policy pass and the graph, where the registry is read for
planning first and for compilation later. -/
def process (first later : PolicyRegistry) : Except String (Option PolicyIR × ExecutionGraph) :=
  match request.planFromCrates first.currentSnapshot with
  | .error error => .error error
  | .ok ir =>
    match later.policyIr request.read with
    | .error error => .error ("policy configuration rejected: " ++ error)
    | .ok policy =>
      match compile { request.options with policy := policy } ir with
      | .error error => .error error.text
      | .ok graph => .ok (policy, graph)

end PolicedRequest

theorem compile_policyVersion (compiled : compile options ir = .ok graph) :
    graph.metadata.policyVersion = ir.metadata.policyVersion := by
  obtain ⟨live, final, stages⟩ := compile_stages compiled
  have pruned : live.metadata = ir.metadata := by
    have kept := stages.pruned
    unfold DeadNodeElimination.apply at kept
    grind
  have guarded : final.metadata = live.metadata := by
    cases stages.policy <;> rfl
  rw [stages.lowered, ← pruned, ← guarded]
  rfl

namespace PolicedRequest

variable {request : PolicedRequest}

theorem planFromCrates_version (planned : request.planFromCrates snapshot = .ok ir) :
    ir.metadata.policyVersion = snapshot.version := by
  unfold planFromCrates at planned
  dsimp only at planned
  split at planned
  · cases planned
  next contract found =>
    obtain ⟨-, rfl⟩ := IntentPlanner.plan_eq_ok_iff.mp found
    split at planned
    · cases planned
    next types =>
      cases planned
      unfold FusionIr.workflowToTypes at types
      dsimp only at types
      split at types
      · cases types
      · cases types
        rfl

/-- The version is that of the first read, the rules are those of the later. -/
theorem process_ok (processed : request.process first later = .ok (policy, graph)) :
    graph.metadata.policyVersion = first.version ∧ later.policyIr request.read = .ok policy := by
  unfold process at processed
  split at processed
  · cases processed
  next ir planned =>
    split at processed
    · cases processed
    next given =>
      split at processed
      · cases processed
      next compiled =>
        cases processed
        exact ⟨(compile_policyVersion compiled).trans (planFromCrates_version planned), given⟩

end PolicedRequest

open PolicyRegistry

/-- Without a mutation between the two reads, the rules that were applied are
those that the history holds under the recorded version. -/
theorem recorded_version_enforced (request : PolicedRequest)
    (before between later : List Mutation) (policy : Option PolicyIR)
    (graph : ExecutionGraph) (quiet : between = [])
    (processed : request.process (new.after before)
      ((new.after before).after between) = .ok (policy, graph)) :
    ∃ snapshot, (((new.after before).after between).after later).snapshotAt
          graph.metadata.policyVersion = some snapshot ∧
        PolicyIR.fromPolicySnapshot request.read snapshot = .ok (policy.getD ⟨[]⟩) := by
  subst quiet
  obtain ⟨version, given⟩ := PolicedRequest.process_ok processed
  refine ⟨(new.after before).currentSnapshot, ?_, ?_⟩
  · rw [version]
    exact (snapshotAt_after later (Nat.le_refl _)).trans (recorded_new.after before).current
  · -- no pass is added for an empty registry, whose rule set is empty
    unfold policyIr at given
    split at given
    next empty =>
      cases given
      exact if_pos empty
    · split at given
      · cases given
      next found =>
        cases given
        exact found

namespace VersionSample

/-- Every stored text is an allowance for everything. -/
def request : PolicedRequest :=
  { read := fun rule => .ok ⟨rule, 0, "*", "allow", []⟩
    catalog := IntentPlanner.Sample.own
    planning := IntentPlanner.Sample.budgeted 0
    options :=
      { externals := .sample (fun _ text => .ofNat _ text.length)
        fastModel := "fast"
        canAfford := fun _ _ => true
        policy := none } }

def allowed : Mutation := .apply "open" "open" "open"

theorem exists_processed (fine : (request.process first later).isOk = true) :
    ∃ policy graph, request.process first later = .ok (policy, graph) := by
  cases processed : request.process first later with
  | error error =>
    rw [processed] at fine
    cases fine
  | ok result => exact ⟨_, _, rfl⟩

end VersionSample

open VersionSample in
theorem quiet_request_enforced :
    ∃ policy graph snapshot, request.process (new.after [allowed]) (new.after [allowed]) =
          .ok (policy, graph) ∧ (new.after [allowed]).snapshotAt graph.metadata.policyVersion =
          some snapshot ∧ PolicyIR.fromPolicySnapshot request.read snapshot =
          .ok (policy.getD ⟨[]⟩) := by
  obtain ⟨policy, graph, processed⟩ : ∃ policy graph, request.process (new.after [allowed])
        (new.after [allowed]) = .ok (policy, graph) := exists_processed (by decide)
  obtain ⟨snapshot, found, rules⟩ := recorded_version_enforced request
    [allowed] [] [] policy graph rfl processed
  exact ⟨policy, graph, snapshot, processed, found, rules⟩

open VersionSample in
/-- A policy that is created between the two reads. -/
theorem later_rules_applied :
    ∃ policy graph, request.process new (new.after [allowed]) = .ok (policy, graph) ∧
        ((new.after [allowed]).snapshotAt graph.metadata.policyVersion).map
            (PolicyIR.fromPolicySnapshot request.read) ≠ some (.ok (policy.getD ⟨[]⟩)) := by
  obtain ⟨policy, graph, processed⟩ : ∃ policy graph, request.process new (new.after [allowed]) =
        .ok (policy, graph) := exists_processed (by decide)
  obtain ⟨version, given⟩ := PolicedRequest.process_ok processed
  refine ⟨policy, graph, processed, ?_⟩
  have applied := Except.ok.inj (given.symm.trans rfl)
  rw [version, applied]
  intro same
  cases same

end FusionRouter

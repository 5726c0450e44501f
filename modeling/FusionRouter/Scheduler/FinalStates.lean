import FusionRouter.Scheduler.LoopBound
import FusionRouter.Scheduler.Sequence

/-!
# Final node states

Only nodes of the current batch whose results are still to be folded are
`Running`.  Of the exits of the scheduling loop, one can leave such nodes
behind: the stop of a loop head whose envelope has no iteration left.
-/

namespace FusionRouter

open RunState List

/-- Every result is `Succeeded`, `Failed` or `Skipped`. -/
def Definite (executor : Executor) : Prop :=
  ∀ number node context, (executor number node context).state.isTerminal = true

theorem ne_running_of_isTerminal {state : NodeState}
    (terminal : state.isTerminal = true) : state ≠ .running := by
  rintro rfl
  cases terminal

variable {envelope : Option BudgetEnvelope} {id other : Uuid}
  {states : Table Uuid NodeState}

theorem Reachable.result_terminal (definite : Definite setup.executor)
    (reached : Reachable setup envelope (.folding batchIds rest, state))
    (member : (id, result) ∈ rest) : result.state.isTerminal = true := by
  rcases reached.result_logged member with ⟨message, failed⟩ | logged
  · rw [failed]
    rfl
  · obtain ⟨_, -, -, rfl⟩ := reached.executed_of_returned logged
    exact definite _ _ _

theorem insert_eq_some (inserted : states.insert id value other = some target) :
    (other = id ∧ target = value) ∨ (other ≠ id ∧ states other = some target) := by
  rw [Table.insert_apply] at inserted
  split at inserted
  next same => exact Or.inl ⟨same, (Option.some.inj inserted).symm⟩
  next different => exact Or.inr ⟨different, inserted⟩

theorem insert_running (notRunning : value ≠ .running)
    (running : states.insert id value other = some .running) :
    other ≠ id ∧ states other = some .running := by
  rcases insert_eq_some running with ⟨-, same⟩ | old
  · exact (notRunning same.symm).elim
  · exact old

theorem rearmBody_eq_some (notPending : target ≠ .pending)
    (held : (rearmBody setup state loopId).nodeStates other = some target) :
    state.nodeStates other = some target := by
  simp only [rearmBody, Table.foldl_insert_apply] at held
  split at held
  · exact (notPending (Option.some.inj held).symm).elim
  · exact held

/-- Settling a result sets its own node to the state of the result; the other
nodes can only become `Pending` or `Failed`. -/
theorem RunState.Settles.kept (settles : Settles setup state id result flow)
    (notPending : target ≠ .pending) (notFailed : ∀ message, target ≠ .failed message)
    (held : flow.state.nodeStates other = some target) :
    (other = id ∧ target = result.state) ∨ (other ≠ id ∧ state.nodeStates other = some target) := by
  have recorded : result.state = .succeeded →
      (state.recordSuccess id (stored result)).nodeStates other = some target →
      (other = id ∧ target = result.state) ∨
        (other ≠ id ∧ state.nodeStates other = some target) := by
    intro success inserted
    rw [success]
    exact insert_eq_some inserted
  cases settles with
  | unknown success | conditional success | exhausted _ _ success
  | exits success | plain success | lost _ success | capped _ _ success =>
    exact recorded success held
  | continues _ success =>
    exact recorded success (rearmBody_eq_some notPending held)
  | iterates loopId _ success =>
    rcases insert_eq_some held with ⟨-, pending⟩ | ⟨-, rearmed⟩
    · exact (notPending pending).elim
    · exact recorded success (rearmBody_eq_some notPending rearmed)
  | failed message =>
    refine Or.inr ?_
    revert held
    refine cascade_induction (motive := fun acc => acc.2 other = some target →
        other ≠ id ∧ state.nodeStates other = some target) ?_ ?_ _ _ _
    · intro held
      rcases insert_eq_some held with ⟨-, failed⟩ | old
      · exact (notFailed _ failed).elim
      · exact old
    · intro queue nodeStates downstream holds _ held
      rcases insert_eq_some held with ⟨-, failed⟩ | old
      · exact (notFailed _ failed).elim
      · exact holds old.2
  | other => exact insert_eq_some held

theorem RunState.Settles.running (settles : Settles setup state id result flow)
    (terminal : result.state.isTerminal = true)
    (running : flow.state.nodeStates other = some .running) :
    other ≠ id ∧ state.nodeStates other = some .running := by
  rcases settles.kept (by simp) (by simp) running with ⟨-, same⟩ | old
  · exact (ne_running_of_isTerminal terminal same.symm).elim
  · exact old

/-- Every `Running` node belongs to the part of the batch that is still to be
folded. -/
theorem Reachable.running_pending (definite : Definite setup.executor)
    (reached : Reachable setup envelope config) (running : config.2.nodeStates id = some .running) :
    id ∈ config.1.pending := by
  induction reached with
  | refl => cases running
  | tail before step holds =>
    cases step with
    | spin | done => exact holds running
    | batch _ _ started =>
      obtain ⟨ids, -, rfl⟩ := dispatch_ok started
      simp only [Phase.pending, results_ids, ids]
      simp only [runCalls, markBatch, Table.foldl_insert_apply] at running
      split at running
      next member => exact member
      · cases holds running
    | @fold batchIds settled result rest state following processed =>
      have charged := charged_same setup state settled result
      have old := (processResult_next processed).running
        (Reachable.result_terminal definite before mem_cons_self) running
      rw [charged.nodeStates] at old
      rcases mem_cons.mp (holds old.2) with same | later
      · exact (old.1 same).elim
      · exact later

/-- A breach fails the unfolded members of the batch, so nothing stays
`Running`. -/
theorem breachStates_ne_running
    (inBatch : ∀ id, states id = some .running → id ∈ batchIds) (id : Uuid) :
    breachStates setup batchIds error states id ≠ some .running := by
  have failedBatch : ∀ (ids : List Uuid) (states : Table Uuid NodeState),
      ids.foldl (fun (states : Table Uuid NodeState) id =>
        if WorkQueue.settledIn states id then states
        else states.insert id (.failed ("Budget breached: " ++ error.text)))
        states id = some .running → id ∉ ids ∧ states id = some .running := by
    intro ids
    induction ids with
    | nil => exact fun states running => ⟨not_mem_nil, running⟩
    | cons first ids ih =>
      intro states running
      rw [foldl_cons] at running
      obtain ⟨outside, after⟩ := ih _ running
      split at after
      next settled =>
        refine ⟨?_, after⟩
        rw [mem_cons, not_or]
        refine ⟨?_, outside⟩
        rintro rfl
        simp [WorkQueue.settledIn, after, NodeState.isTerminal] at settled
      · obtain ⟨different, old⟩ := insert_running (by simp) after
        exact ⟨by simp [different, outside], old⟩
  unfold breachStates
  refine foldlRecOn (motive := fun (states : Table Uuid NodeState) =>
    states id ≠ some .running) _ _ ?_ ?_
  · intro running
    obtain ⟨outside, old⟩ := failedBatch batchIds states running
    exact outside (inBatch id old)
  · intro states holds node _ running
    have skipped : states.insert node.id .skipped id ≠ some .running :=
      fun inserted => holds (insert_running (by simp) inserted).2
    cases found : states node.id with
    | none =>
      rw [found] at running
      exact skipped running
    | some value =>
      rw [found] at running
      cases value with
      | pending | running => exact skipped running
      | succeeded | failed message | skipped => exact holds running

def OutOfIterations (envelope : Option BudgetEnvelope) : Prop :=
  ∃ limits, envelope = some limits ∧ limits.maxIterations ≤ limits.currentIterations

/-- The result of a loop head asks for one more iteration, its usage is within
the budget, and the envelope has no iteration left. -/
structure MeetsCap (setup : RunSetup) (state : RunState) (id : Uuid)
    (result : NodeExecutionResult) : Prop where
  success : result.state = .succeeded
  head : setup.graph.kindAt id = some .loop
  goesOn : (stored result).asBool.getD false = true
  affordable : state.violation setup id result = none
  spent : OutOfIterations state.envelope

/-- Some fold of the run meets the iteration cap while a node whose result
comes later in the batch is `Running`. -/
def StopsMidBatch (setup : RunSetup) (envelope : Option BudgetEnvelope) : Prop :=
  ∃ batchIds id result rest state,
    Reachable setup envelope (.folding batchIds ((id, result) :: rest), state) ∧
      MeetsCap setup state id result ∧
      ∃ sibling, sibling ∈ rest.map Prod.fst ∧ sibling ≠ id ∧
        state.nodeStates sibling = some .running

/-- Charging a result does not count iterations. -/
theorem outOfIterations_charged {state : RunState} :
    OutOfIterations (state.charged setup id result).envelope ↔ OutOfIterations state.envelope := by
  unfold charged
  split
  · rfl
  · unfold charge OutOfIterations
    cases present : state.envelope with
    | none => simp
    | some limits => simp [BudgetEnvelope.recordAndCheck, BudgetEnvelope.record]

theorem incrementIteration_error_iff {limits : BudgetEnvelope} :
    (∃ error, limits.incrementIteration = .error error) ↔
      limits.maxIterations ≤ limits.currentIterations := by
  unfold BudgetEnvelope.incrementIteration
  split
  next spent => exact ⟨fun _ => spent, fun _ => ⟨_, rfl⟩⟩
  next left => simp [left]

theorem meetsCap_of_leave (processed : processResult setup batchIds state id result = .leave last) :
    MeetsCap setup state id result := by
  cases processResult_leave processed with
  | exhausted envelope error success head goesOn present limit =>
    refine ⟨success, head, goesOn, ?_,
      outOfIterations_charged.mp ⟨envelope, present, incrementIteration_error_iff.mp ⟨error, limit⟩⟩⟩
    rw [processResult_eq] at processed
    split at processed
    · cases processed
    next affordable => exact affordable

/-- The fold that meets the cap stops the run and touches no other node. -/
theorem MeetsCap.leaves (meets : MeetsCap setup state id result) (batchIds : List Uuid) :
    ∃ last, processResult setup batchIds state id result = .leave last ∧
      last.nodeStates = state.nodeStates.insert id .succeeded := by
  obtain ⟨limits, present, spent⟩ : OutOfIterations (state.charged setup id result).envelope :=
    outOfIterations_charged.mpr meets.spent
  obtain ⟨error, limit⟩ := incrementIteration_error_iff.mpr spent
  have kind := meets.head
  unfold ExecutionGraph.kindAt ExecutionGraph.nodeAt at kind
  refine ⟨((state.charged setup id result).recordSuccess id (stored result)).complete setup id,
    ?_, ?_⟩
  · rw [processResult_eq, meets.affordable]
    cases found : setup.graph.nodeIndex id with
    | none => simp [found] at kind
    | some index =>
      rw [found, Option.bind_some] at kind
      have goesOn := meets.goesOn
      unfold stored at goesOn ⊢
      simp [settle, meets.success, succeeded, found, kind, loopSucceeded, goesOn,
        complete, recordSuccess, present, limit]
  · rw [← (charged_same setup state id result).nodeStates]
    rfl

/-- The nodes a finished run leaves `Running` are the siblings of a loop head
that was stopped by the iteration cap of the envelope. -/
theorem no_running_iff (setup : RunSetup) (envelope : Option BudgetEnvelope)
    (fuel : Nat) (outcome : ExecutionOutcome) (last : RunState) (definite : Definite setup.executor)
    (finished : runInner setup envelope fuel = some (.ok outcome, last)) :
    (∀ id, outcome.nodeStates id ≠ some .running) ↔ ¬ StopsMidBatch setup envelope := by
  obtain ⟨config, reached, ends⟩ := runInner_ends finished
  have same : outcome.nodeStates = last.nodeStates := by
    cases ends with
    | finished | stuck | left => rfl
    | breached processed =>
      obtain ⟨error, -, returned⟩ := processResult_finish processed
      cases returned
      rfl
  rw [same]
  constructor
  · rintro settled ⟨batchIds, id, result, rest, state, there, meets, sibling, -, different, running⟩
    obtain ⟨final, processed, states⟩ := meets.leaves batchIds
    -- the run ends in the configuration of this fold and in no other
    have place := ends.config_unique reached (.left processed) there
    subst place
    have final_eq : last = final := by
      cases ends with
      | left processed' | breached processed' => simpa [processed] using processed'.symm
    refine settled sibling ?_
    rw [final_eq, states, Table.insert_of_ne _ _ different]
    exact running
  · intro stopped id running
    cases ends with
    | finished | stuck => cases reached.running_pending definite running
    | @left batchIds stopId result rest state _ processed =>
      apply stopped
      have terminal := reached.result_terminal definite mem_cons_self
      obtain ⟨different, old⟩ := (processResult_leave processed).running terminal running
      rw [(charged_same setup state stopId result).nodeStates] at old
      refine ⟨batchIds, stopId, result, rest, state, reached, meetsCap_of_leave processed,
        id, ?_, different, old⟩
      rcases mem_cons.mp (reached.running_pending definite old) with same | later
      · exact (different same).elim
      · exact later
    | @breached batchIds breachId result rest state _ _ processed =>
      have terminal := reached.result_terminal definite mem_cons_self
      obtain ⟨error, -, returned⟩ := processResult_finish processed
      cases returned
      refine breachStates_ne_running ?_ id running
      intro other inserted
      obtain ⟨-, old⟩ := insert_running (ne_running_of_isTerminal terminal) inserted
      rw [(charged_same setup state breachId result).nodeStates] at old
      obtain ⟨⟨_, _⟩, member, rfl⟩ := mem_map.mp (reached.running_pending definite old)
      exact (reached.pending_result member).1

theorem not_stopsMidBatch (loopFree : setup.graph.loopNodeIds = ∅) :
    ¬ StopsMidBatch setup envelope := by
  rintro ⟨batchIds, id, result, rest, state, -, meets, -⟩
  have isHead := mem_loopNodeIds_of_kindAt meets.head
  simp [loopFree] at isHead

/-- Two nodes without edges, each of which uses 20 tokens. -/
def pairSetup : RunSetup :=
  sampleSetup (compiledGraph sampleOptions
    (workflow [plainNode 1 .generate, plainNode 2 .generate] [])) (fun _ _ _ =>
      { state := .succeeded
        usage := some ⟨10, 10, 20⟩
        output := none })

theorem pair_breach_settled :
    ∃ outcome last, runInner pairSetup (some (.new 1000000000 5 10)) 10 = some (.ok outcome, last) ∧
      outcome.success = false ∧ ∀ id, outcome.nodeStates id ≠ some .running := by
  have run : (runInner pairSetup (some (.new 1000000000 5 10)) 10).map
      (fun result => (result.1.toOption.map ExecutionOutcome.success)) = some (some false) := by
    decide
  obtain ⟨⟨result, last⟩, finished, failure⟩ := Option.map_eq_some_iff.mp run
  cases result with
  | error error => cases failure
  | ok outcome =>
    refine ⟨outcome, last, finished, Option.some.inj failure, ?_⟩
    exact (no_running_iff pairSetup _ 10 outcome last (fun _ _ _ => rfl)
      finished).mpr (not_stopsMidBatch (by decide))

/-- A loop head 1 and a node 2 that start together. -/
def cappedLoopSetup : RunSetup :=
  sampleSetup (compiledGraph sampleOptions
    (workflow [plainNode 1 .loop, plainNode 2 .generate, plainNode 3 .generate]
      [⟨1, 3, none⟩, ⟨2, 3, none⟩])) (fun _ _ _ =>
      { state := .succeeded
        usage := none
        output := some (.bool true) })

/-- The head meets an envelope without iterations and 2 stays `Running`. -/
theorem capped_loop_leaves_running :
    ¬ ∀ (setup : RunSetup) (envelope : Option BudgetEnvelope) (fuel : Nat)
        (outcome : ExecutionOutcome) (last : RunState), Definite setup.executor →
        runInner setup envelope fuel = some (.ok outcome, last) →
          ∀ id, outcome.nodeStates id ≠ some .running := by
  intro settled
  have run : (runInner cappedLoopSetup (some (.new 1000 1000 0)) 10).map
      (fun result => (result.1.toOption.bind
        (fun outcome => outcome.nodeStates 2))) = some (some .running) := by
    decide
  obtain ⟨⟨result, last⟩, finished, running⟩ := Option.map_eq_some_iff.mp run
  cases result with
  | error error => cases running
  | ok outcome =>
    exact settled cappedLoopSetup _ 10 outcome last (fun _ _ _ => rfl) finished 2 running

end FusionRouter

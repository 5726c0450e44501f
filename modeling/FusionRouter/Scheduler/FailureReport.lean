import FusionRouter.Lib.History
import FusionRouter.Scheduler.FinalStates

/-!
# Reported failures

A new iteration of a loop clears the failures of its body.  What a run cannot
hide is the last result of a node: while that is `Failed`, no step gives the
node a state that counts as a success.
-/

namespace FusionRouter

open RunState History List

/-- The result this event records for `id`. -/
def Event.resultOf (id : Uuid) : Event → Option NodeExecutionResult
  | .called _ _ => none
  | .returned other result => if other = id then some result else none

theorem Event.resultOf_eq_some {id : Uuid} {event : Event}
    (found : event.resultOf id = some result) : event = .returned id result := by
  cases event with
  | called position other => cases found
  | returned other otherResult =>
    by_cases same : other = id
    · rw [resultOf, if_pos same] at found
      rw [same, Option.some.inj found]
    · rw [resultOf, if_neg same] at found
      cases found

/-- What the last call for `id` that returned came to. -/
def lastResult (log : List Event) (id : Uuid) : Option NodeExecutionResult :=
  lastOf (Event.resultOf id) log

/-- The states that count as a success. -/
def Passed (states : Table Uuid NodeState) (id : Uuid) : Prop :=
  states id = some .succeeded ∨ states id = some .skipped

theorem lastResult_append (log events : List Event) (id : Uuid) :
    lastResult (log ++ events) id = (lastResult events id).or (lastResult log id) :=
  lastOf_append _ log events

theorem lastResult_cons (event : Event) (events : List Event) (id : Uuid) :
    lastResult (event :: events) id = (lastResult events id).or (event.resultOf id) :=
  lastOf_cons _ event events

theorem lastResult_eq_none {id : Uuid} (absent : ∀ result, .returned id result ∉ events) :
    lastResult events id = none := by
  refine lastOf_eq_none.mpr ?_
  intro event member
  cases event with
  | called position other => rfl
  | returned other result =>
    refine if_neg ?_
    rintro rfl
    exact absent result member

namespace LogsOf

variable (logs : LogsOf rest events)

include logs

theorem absent {id : Uuid} (outside : id ∉ rest.map Prod.fst)
    (result : NodeExecutionResult) : .returned id result ∉ events := by
  induction logs with
  | nil => exact not_mem_nil
  | returned other otherResult _ ih =>
    rw [map_cons, mem_cons, not_or] at outside
    rw [mem_cons, not_or]
    refine ⟨?_, ih outside.2⟩
    intro same
    cases same
    exact outside.1 rfl
  | cancelled other failure unused _ ih =>
    rw [map_cons, mem_cons, not_or] at outside
    exact ih outside.2

/-- A result that is alone in its batch is the last one of its node, unless
its call was cancelled. -/
theorem last {id : Uuid} (single : (rest.map Prod.fst).count id ≤ 1)
    (member : (id, result) ∈ rest) :
    (∃ message, result.state = .failed message) ∨ lastResult events id = some result := by
  induction logs with
  | nil => cases member
  | returned other otherResult later ih =>
    rw [lastResult_cons]
    rcases mem_cons.mp member with same | tail
    · cases same
      have outside := count_eq_zero.mp
        (Nat.le_zero.mp (Nat.le_of_succ_le_succ (by
          simpa only [map_cons, count_cons_self] using single)))
      rw [lastResult_eq_none (later.absent outside)]
      exact Or.inr (by simp [Event.resultOf])
    · have fewer := ((sublist_cons_self _ _).count_le id).trans single
      refine (ih fewer tail).imp_right ?_
      intro found
      rw [found]
      rfl
  | cancelled other failure unused later ih =>
    rcases mem_cons.mp member with same | tail
    · cases same
      exact Or.inl ⟨_, failure⟩
    · exact ih (((sublist_cons_self _ _).count_le id).trans single) tail

end LogsOf

theorem Reachable.count_pending_le {envelope : Option BudgetEnvelope}
    (reached : Reachable setup envelope config) (id : Uuid) :
    config.1.pending.count id ≤ (setup.graph.nodes.map ExecutionNode.id).count id := by
  induction reached with
  | refl => exact Nat.zero_le _
  | tail _ step holds =>
    cases step with
    | spin | done => exact holds
    | @batch state _ _ _ _ started =>
      obtain ⟨ids, -, -⟩ := dispatch_ok started
      simp only [Phase.pending, results_ids, ids]
      exact count_batch_le setup state id
    | fold => exact ((sublist_cons_self _ _).count_le id).trans holds

section

variable {setup : RunSetup} {envelope : Option BudgetEnvelope} {id : Uuid}
  {result : NodeExecutionResult}
  (lone : (setup.graph.nodes.map ExecutionNode.id).count id ≤ 1)
  (failure : result.state = .failed message)

include lone failure

theorem Reachable.settled_not_passed {settled : Uuid} {state : RunState}
    (reached : Reachable setup envelope (.folding batchIds ((settled, pending) :: rest), state))
    (settles : Settles setup (state.charged setup settled pending) settled
      pending flow) (latest : lastResult state.log id = some result)
    (standing : ¬ Passed state.nodeStates id) : ¬ Passed flow.state.nodeStates id := by
  have charged := (charged_same setup state settled pending).nodeStates
  have kept : ∀ target : NodeState, target ≠ .pending →
      (∀ text, target ≠ .failed text) → flow.state.nodeStates id = some target →
          state.nodeStates id = some target := by
    intro target notPending notFailed held
    rcases settles.kept notPending notFailed held with ⟨rfl, same⟩ | old
    · -- the result is still the last failure, or that of a cancelled call
      obtain ⟨before, events, log, logs⟩ := reached.batch_log
      rcases logs.last ((reached.count_pending_le _).trans lone)
        mem_cons_self with ⟨text, failed⟩ | found
      · exact (notFailed text (same.trans failed)).elim
      · rw [log, lastResult_append, found] at latest
        cases latest
        exact (notFailed message (same.trans failure)).elim
    · rw [← charged]
      exact old.2
  rintro (succeeded | skipped)
  · exact standing (Or.inl (kept _ (by simp) (by simp) succeeded))
  · exact standing (Or.inr (kept _ (by simp) (by simp) skipped))

theorem Reachable.not_passed {config : Phase × RunState} (reached : Reachable setup envelope config)
    (latest : lastResult config.2.log id = some result) : ¬ Passed config.2.nodeStates id := by
  induction reached with
  | refl => cases latest
  | tail before step holds =>
    cases step with
    | spin | done => exact holds latest
    | @batch state dispatched calls _ _ started =>
      obtain ⟨ids, -, rfl⟩ := dispatch_ok started
      by_cases member : id ∈ state.batch setup
      · -- the node has just been started
        simp [Passed, runCalls, markBatch, Table.foldl_insert_apply, member]
      · have outside : id ∉ (calls.map (Call.result setup)).map Prod.fst := by
          rwa [results_ids, ids]
        have starts : lastResult (calls.flatMap (Call.startEvents setup)) id =
            none := by
          apply lastResult_eq_none
          intro other event
          obtain ⟨call, -, event⟩ := mem_flatMap.mp event
          exact Call.not_returned_mem_startEvents event
        have ends : lastResult (calls.flatMap (Call.endEvents setup)) id =
            none :=
          lastResult_eq_none ((LogsOf.calls setup calls).absent outside)
        simp only [runCalls, lastResult_append, starts, ends, Option.none_or] at latest
        have same : (markBatch (state.batch setup) state.entered).nodeStates
            id = state.nodeStates id := by
          simp [markBatch, Table.foldl_insert_apply, member, entered]
        have standing := holds latest
        unfold Passed at standing ⊢
        simpa only [runCalls, same] using standing
    | fold processed =>
      rw [processResult_next_log processed] at latest
      exact Reachable.settled_not_passed lone failure before
        (processResult_next processed) latest (holds latest)

end

theorem outcome_success_iff (setup : RunSetup) (state : RunState) :
    (state.outcome setup).success = true ↔
      ∀ node ∈ setup.graph.nodes, Passed state.nodeStates node.id := by
  unfold outcome
  rw [all_eq_true]
  refine forall_congr' fun node => imp_congr_right fun _ => ?_
  unfold Passed
  cases found : state.nodeStates node.id with
  | none => simp
  | some value => cases value <;> simp

/-- A run in which the last result of a node is `Failed` reports no success. -/
theorem failure_reported (setup : RunSetup) (envelope : Option BudgetEnvelope) (fuel : Nat)
    (outcome : ExecutionOutcome) (last : RunState) (id : Uuid)
    (result : NodeExecutionResult) (message : String)
    (lone : (setup.graph.nodes.map ExecutionNode.id).count id ≤ 1)
    (finished : runInner setup envelope fuel = some (.ok outcome, last))
    (latest : lastResult last.log id = some result) (failure : result.state = .failed message) :
    outcome.success = false := by
  obtain ⟨config, reached, ends⟩ := runInner_ends finished
  rw [ends.log] at latest
  have standing := reached.not_passed lone failure latest
  -- the failed node is one of the nodes that `success` ranges over
  obtain ⟨node, inside, rfl⟩ : ∃ node ∈ setup.graph.nodes, node.id = id := by
    obtain ⟨event, member, found⟩ := exists_of_lastOf latest
    rw [Event.resultOf_eq_some found] at member
    obtain ⟨call, dispatches, same, -⟩ := reached.executed_of_returned member
    exact ⟨call.node, dispatches.mem_nodes, same⟩
  have unsuccessful : ∀ {state : RunState}, ¬ Passed state.nodeStates node.id →
        (state.outcome setup).success = false := by
    intro state standing
    apply Bool.eq_false_iff.mpr
    intro success
    exact standing ((outcome_success_iff setup state).mp success node inside)
  cases ends with
  | finished | stuck => exact unsuccessful standing
  | left processed =>
    exact unsuccessful (reached.settled_not_passed lone failure
      (processResult_leave processed) latest standing)
  | breached processed =>
    obtain ⟨error, -, returned⟩ := processResult_finish processed
    cases returned
    rfl

/-- Two nodes without edges, the second of which fails. -/
def failingPairSetup : RunSetup :=
  sampleSetup (compiledGraph sampleOptions
    (workflow [plainNode 1 .generate, plainNode 2 .generate] [])) (fun number _ _ =>
      { state := if number = 1 then .failed "no" else .succeeded
        usage := none
        output := none })

theorem failing_pair_reported :
    ∃ outcome last result, runInner failingPairSetup none 10 = some (.ok outcome, last) ∧
      lastResult last.log 2 = some result ∧ result.state = .failed "no" ∧
      outcome.success = false := by
  have run : (runInner failingPairSetup none 10).map (fun result =>
      (result.1.isOk, (lastResult result.2.log 2).map
        NodeExecutionResult.state)) = some (true, some (.failed "no")) := by
    decide
  obtain ⟨⟨returned, last⟩, finished, summary⟩ := Option.map_eq_some_iff.mp run
  obtain ⟨accepted, failed⟩ := Prod.mk.inj summary
  obtain ⟨result, latest, failure⟩ := Option.map_eq_some_iff.mp failed
  cases returned with
  | error error => cases accepted
  | ok outcome =>
    refine ⟨outcome, last, result, finished, latest, failure, ?_⟩
    exact failure_reported failingPairSetup none 10 outcome last 2 result "no"
      (by decide) finished latest failure

/-- A loop head 1 with the body 2 and 3, of which 3 closes the loop.  Node 2
fails in the first iteration only. -/
def forgivingLoopSetup : RunSetup :=
  sampleSetup (compiledGraph sampleOptions
    (workflow [plainNode 1 .loop, plainNode 2 .generate, plainNode 3 .generate]
      [⟨1, 2, none⟩, ⟨1, 3, none⟩, ⟨3, 1, some "loop"⟩])) (fun number _ _ =>
      { state := if number = 1 then .failed "no" else .succeeded
        usage := none
        output := some (.bool (number = 0)) })

/-- The next iteration clears the failure and runs 2 again. -/
theorem forgiving_loop_succeeds :
    ¬ ∀ (setup : RunSetup) (envelope : Option BudgetEnvelope) (fuel : Nat)
        (outcome : ExecutionOutcome) (last : RunState) (id : Uuid)
        (result : NodeExecutionResult) (message : String),
      runInner setup envelope fuel = some (.ok outcome, last) →
        .returned id result ∈ last.log → result.state = .failed message →
          outcome.success = false := by
  intro reported
  have run : (runInner forgivingLoopSetup none 20).map (fun result =>
      (result.1.toOption.map ExecutionOutcome.success,
        result.2.log.filterMap (Event.resultOf 2) |>.map
          NodeExecutionResult.state)) = some (some true,
          [.failed "no", .succeeded, .succeeded, .succeeded]) := by
    decide
  obtain ⟨⟨returned, last⟩, finished, summary⟩ := Option.map_eq_some_iff.mp run
  obtain ⟨success, results⟩ := Prod.mk.inj summary
  have among : NodeState.failed "no" ∈ (last.log.filterMap
      (Event.resultOf 2)).map NodeExecutionResult.state := by
    rw [results]
    exact mem_cons_self
  obtain ⟨result, member, failure⟩ := mem_map.mp among
  obtain ⟨event, logged, found⟩ := mem_filterMap.mp member
  rw [Event.resultOf_eq_some found] at logged
  cases returned with
  | error error => cases success
  | ok outcome =>
    have failed := reported forgivingLoopSetup none 20 outcome last 2 result
      "no" finished logged failure
    exact Bool.false_ne_true (failed.symm.trans (Option.some.inj success))

end FusionRouter

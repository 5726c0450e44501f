import FusionRouter.Host.ExecutionPlane
import FusionRouter.Scheduler.Arrival

/-!
# The terminal event of an execution

An execution that gets behind the scheduler's run ends with its only terminal
event.  The exits before that, for rejected policies, a workflow that does not
compile and a cancelled run, emit none.
-/

namespace FusionRouter

open Trace

def ExecutionEvent.isCompleted : ExecutionEvent → Bool
  | .workflowCompleted _ _ => true
  | _ => false

def ExecutionEvent.isTerminal : ExecutionEvent → Bool
  | .workflowCompleted _ _ => true
  | .workflowFailed _ _ => true
  | _ => false

/-- None of the events ends an execution. -/
def StillOpen (events : List ExecutionEventEnvelope) : Prop :=
  ∀ envelope, envelope ∈ events → envelope.payload.isTerminal = false

/-- The last event is the only terminal one, and it is a completion exactly
for a result. -/
def Concludes {α : Type} (returned : Except ExecutionError α)
    (events : List ExecutionEventEnvelope) : Prop :=
  ∃ before last, events = before ++ [last] ∧ StillOpen before ∧ last.payload.isTerminal = true ∧
    (last.payload.isCompleted = true ↔ ∃ value, returned = .ok value)

theorem stillOpen_nil : StillOpen [] := nofun

theorem StillOpen.append (left : StillOpen first) (right : StillOpen second) :
    StillOpen (first ++ second) := by
  intro envelope member
  rcases List.mem_append.mp member with early | late
  · exact left envelope early
  · exact right envelope late

section

variable {α : Type}

theorem Concludes.prepend {first : List ExecutionEventEnvelope}
    (left : StillOpen first) (concludes : Concludes returned events) :
    Concludes returned (first ++ events) := by
  obtain ⟨before, last, rfl, inner, terminal, completed⟩ := concludes
  refine ⟨first ++ before, last, ?_, left.append inner, terminal, completed⟩
  exact (List.append_assoc first before [last]).symm

theorem concludes_failed (payload : last.payload = .workflowFailed message node) :
    Concludes (.error error : Except ExecutionError α) [last] := by
  refine ⟨[], last, rfl, stillOpen_nil, ?_, ?_⟩ <;> rw [payload]
  · rfl
  · simp [ExecutionEvent.isCompleted]

theorem Concludes.not_stillOpen (concludes : Concludes returned events) : ¬ StillOpen events := by
  obtain ⟨before, last, rfl, -, terminal, -⟩ := concludes
  intro inner
  have quiet := inner last (List.mem_append_right _ (List.mem_singleton_self _))
  rw [terminal] at quiet
  cases quiet

end

/-- What the node events leave behind: an open execution, or its error. -/
def Replayed {α : Type} :
    Except ExecutionError α → List ExecutionEventEnvelope → Prop
  | .ok _, events => StillOpen events
  | .error error, events =>
    Concludes (.error error : Except ExecutionError α) events

theorem Replayed.prepend {α : Type} (returned : Except ExecutionError α)
    (before after : List ExecutionEventEnvelope) (quiet : StillOpen before)
    (replayed : Replayed returned after) : Replayed returned (before ++ after) := by
  cases returned with
  | ok value => exact quiet.append replayed
  | error error => exact Concludes.prepend quiet replayed

namespace ExecutionPlane

variable {externals : Externals}

theorem ensures_emit_then {α : Type} {program : Emission α}
    {post : α → List ExecutionEventEnvelope → Prop} (inner : event.isTerminal = false)
    (grows : ∀ value before after, StillOpen before → post value after → post
      value (before ++ after)) (rest : Ensures program post) :
    Ensures (emit workflowId executionId event >>= fun _ => program) post := by
  have quiet : Ensures (emit workflowId executionId event) (fun _ added => StillOpen added) := by
    refine .emitNumbered (fun _ => ?_)
    intro other member
    rw [List.mem_singleton.mp member]
    exact inner
  refine Ensures.bind quiet ?_
  intro _ before quiet
  refine rest.mono ?_
  intro value after holds
  exact grows value before after quiet holds

theorem ensures_last (event : ExecutionEvent) :
    Ensures (emit workflowId executionId event) (fun _ added =>
      ∃ last : ExecutionEventEnvelope, added = [last] ∧ last.payload = event) :=
  .emitNumbered (fun _ => ⟨_, rfl, rfl⟩)

theorem ensures_reportFailure :
    Ensures (reportFailure externals workflowId executionId graph finished)
      (fun error added => Concludes
        (.error error : Except ExecutionError ExecutionResponse) added) := by
  refine ensures_emit_then rfl ?_ ?_
  · intro error before after quiet concludes
    exact concludes.prepend quiet
  · refine Ensures.bind (ensures_last _) ?_
    rintro _ _ ⟨last, rfl, payload⟩
    exact Ensures.pure (concludes_failed payload)

/-- The node events leave the execution open, unless a node is in a state that
ends it. -/
theorem ensures_replay (nodes : List ExecutionNode) (outputs : Table String Json) :
    Ensures (replay externals workflowId executionId graph finished nodes outputs)
      Replayed := by
  induction nodes generalizing outputs with
  | nil =>
    apply Ensures.pure
    exact stillOpen_nil
  | cons node rest ih =>
    unfold replay
    refine ensures_emit_then rfl Replayed.prepend (ensures_emit_then rfl Replayed.prepend ?_)
    split
    · exact ensures_emit_then rfl Replayed.prepend (ih _)
    · refine Ensures.bind (ensures_last _) ?_
      rintro _ _ ⟨last, rfl, payload⟩
      exact Ensures.pure (concludes_failed payload)

/-- Behind the scheduler's run there is always a terminal event. -/
theorem ensures_report :
    Ensures (report externals context workflowId executionId sessionId graph
      result finished) Concludes := by
  unfold report
  split
  · refine Ensures.bind (ensures_replay _ _) ?_
    intro replayed before holds
    cases replayed with
    | error error =>
      apply Ensures.pure
      rw [List.append_nil]
      obtain ⟨inner, last, rfl, quiet, terminal, completed⟩ := holds
      refine ⟨inner, last, rfl, quiet, terminal, completed.trans ?_⟩
      simp
    | ok outputs =>
      refine Ensures.bind (ensures_last _) ?_
      rintro _ _ ⟨last, rfl, payload⟩
      refine Ensures.bind Ensures.read ?_
      rintro emitted _ rfl
      apply Ensures.pure
      refine ⟨before, last, by simp, holds, ?_, ?_⟩ <;> rw [payload]
      · rfl
      · exact iff_of_true rfl ⟨_, rfl⟩
  · refine Ensures.bind ensures_reportFailure ?_
    intro error before concludes
    apply Ensures.pure
    rwa [List.append_nil]

theorem numbered_emit_then {α : Type} {program : Emission α}
    (rest : Numbered ExecutionEventEnvelope.sequenceNumber program) :
    Numbered ExecutionEventEnvelope.sequenceNumber
      (emit workflowId executionId event >>= fun _ => program) :=
  .bind (.emitNumbered (fun _ => rfl)) (fun _ => rest)

theorem numbered_replay (nodes : List ExecutionNode) (outputs : Table String Json) :
    Numbered ExecutionEventEnvelope.sequenceNumber
      (replay externals workflowId executionId graph finished nodes outputs) := by
  induction nodes generalizing outputs with
  | nil => exact Numbered.pure _
  | cons node rest ih =>
    unfold replay
    refine numbered_emit_then ?_
    refine numbered_emit_then ?_
    split
    · exact numbered_emit_then (ih _)
    · exact numbered_emit_then (Numbered.pure _)

theorem numbered_report :
    Numbered ExecutionEventEnvelope.sequenceNumber
      (report externals context workflowId executionId sessionId graph result finished) := by
  unfold report
  split
  · refine Numbered.bind (numbered_replay _ _) ?_
    intro replayed
    cases replayed with
    | error error => exact Numbered.pure _
    | ok outputs =>
      refine numbered_emit_then ?_
      exact Numbered.bind Numbered.read (fun _ => Numbered.pure _)
  · refine Numbered.bind ?_ (fun _ => Numbered.pure _)
    refine numbered_emit_then ?_
    exact numbered_emit_then (Numbered.pure _)

section

variable (plane : ExecutionPlane) (request : ExecuteWorkflowRequest)
  (cancellation : CancelToken) (context : ExecutionContext)

theorem numbered_executeTyped (fuel : Nat) :
    Numbered ExecutionEventEnvelope.sequenceNumber
      (plane.executeTypedWithCancellation request cancellation context fuel) := by
  unfold executeTypedWithCancellation
  split
  · exact Numbered.pure _
  · refine numbered_emit_then ?_
    split
    · exact Numbered.pure _
    · split
      · exact Numbered.pure _
      · refine numbered_emit_then ?_
        split
        · exact Numbered.pure _
        · exact Numbered.pure _
        · exact Numbered.bind numbered_report (fun _ => Numbered.pure _)

def schedulerRun (graph : ExecutionGraph) : RunSetup :=
  plane.scheduler.setup graph plane.executor (some cancellation)

/-- The policies are readable, the workflow compiles under them, and no pass of
the scheduler's run starts with a cancelled token. -/
def GetsBehindRun : Prop :=
  ∃ policy graph, plane.policyRegistry.policyIr plane.readDeclaration = .ok policy ∧
    plane.compilerFactory policy request.workflow = .ok graph ∧
    StaysAlive (plane.schedulerRun cancellation graph)

variable {plane request cancellation context}

theorem runCrates_ok_iff (ran : plane.scheduler.runCrates
      (HostScheduler.schedule context.instanceId graph context.reservationId)
      plane.executor (some cancellation) context.timing fuel = some (returned, finished)) :
    (∃ result, returned = .ok result) ↔ StaysAlive (plane.schedulerRun cancellation graph) := by
  unfold HostScheduler.runCrates at ran
  split at ran
  · cases ran
  all_goals
    next inner =>
      cases ran
      have alive : _ ↔ StaysAlive (plane.schedulerRun cancellation graph) := runInner_ok_iff inner
      rw [← alive]
      simp

/-- What an execution with a session has emitted when it returns: everything
up to a terminal event, or nothing terminal at an early exit. -/
def EmittedBy (plane : ExecutionPlane) (request : ExecuteWorkflowRequest)
    (cancellation : CancelToken) (returned : Option (Except ExecutionError ExecutionResponse))
    (added : List ExecutionEventEnvelope) : Prop :=
  ∀ outcome, returned = some outcome →
    GetsBehindRun plane request cancellation ∧ Concludes outcome added ∨
    ¬ GetsBehindRun plane request cancellation ∧ StillOpen added

theorem EmittedBy.prepend (returned : Option (Except ExecutionError ExecutionResponse))
    (before after : List ExecutionEventEnvelope) (quiet : StillOpen before)
    (emitted : EmittedBy plane request cancellation returned after) :
    EmittedBy plane request cancellation returned (before ++ after) := by
  intro outcome same
  rcases emitted outcome same with ⟨behind, concludes⟩ | ⟨stopped, inner⟩
  · exact Or.inl ⟨behind, concludes.prepend quiet⟩
  · exact Or.inr ⟨stopped, quiet.append inner⟩

theorem ensures_exit (stopped : ¬ GetsBehindRun plane request cancellation) :
    Ensures (pure (some (.error error)) :
        Emission (Option (Except ExecutionError ExecutionResponse)))
      (EmittedBy plane request cancellation) :=
  Ensures.pure (fun _ _ => Or.inr ⟨stopped, stillOpen_nil⟩)

theorem ensures_executeTyped {session : Uuid} (fuel : Nat)
    (created : plane.createSession request.triggerName request.workflow.planId = .ok session) :
    Ensures (plane.executeTypedWithCancellation request cancellation context
        fuel) (EmittedBy plane request cancellation) := by
  unfold executeTypedWithCancellation
  simp only [created]
  refine ensures_emit_then rfl EmittedBy.prepend ?_
  cases rules : plane.policyRegistry.policyIr plane.readDeclaration with
  | error error =>
    apply ensures_exit
    rintro ⟨policy, graph, loaded, -⟩
    simp [rules] at loaded
  | ok policy =>
    dsimp only
    cases compiled : plane.compilerFactory policy request.workflow with
    | error error =>
      apply ensures_exit
      rintro ⟨other, graph, loaded, accepted, -⟩
      rw [rules] at loaded
      cases loaded
      simp [compiled] at accepted
    | ok graph =>
      refine ensures_emit_then rfl EmittedBy.prepend ?_
      -- Policies and graph are settled, so the run alone decides.
      have behind : GetsBehindRun plane request cancellation ↔
          StaysAlive (plane.schedulerRun cancellation graph) := by
        constructor
        · rintro ⟨other, lowered, loaded, accepted, alive⟩
          rw [rules] at loaded
          cases loaded
          rw [compiled] at accepted
          cases accepted
          exact alive
        · exact fun alive => ⟨policy, graph, rules, compiled, alive⟩
      split
      · exact Ensures.pure nofun
      next error finished ran =>
        apply ensures_exit
        rw [behind, ← runCrates_ok_iff ran]
        simp
      next result finished ran =>
        refine Ensures.bind ensures_report ?_
        intro returned added concludes
        apply Ensures.pure
        rintro outcome same
        cases same
        rw [List.append_nil]
        exact Or.inl ⟨behind.mpr ((runCrates_ok_iff ran).mp ⟨result, rfl⟩), concludes⟩

/-- The execution ends with its only terminal event, a completion exactly for a
result, and its events are numbered from one without gaps. -/
structure EndsProperly (returned : Except ExecutionError ExecutionResponse)
    (events : List ExecutionEventEnvelope) : Prop where
  concludes : Concludes returned events
  numbered : events.map ExecutionEventEnvelope.sequenceNumber = List.range' 1 events.length

end

/-- An execution that returns has ended properly exactly when it got behind the
run of its compiled workflow. -/
theorem endsProperly_iff (plane : ExecutionPlane)
    (request : ExecuteWorkflowRequest) (cancellation : CancelToken)
    (context : ExecutionContext) (fuel : Nat) (session : Uuid)
    (created : plane.createSession request.triggerName request.workflow.planId = .ok session)
    (returned : Except ExecutionError ExecutionResponse)
    (finished : (plane.execution request cancellation context fuel).1 = some returned) :
    EndsProperly returned (plane.execution request cancellation context fuel).2 ↔
      GetsBehindRun plane request cancellation := by
  have emitted : EmittedBy plane request cancellation
      (plane.execution request cancellation context fuel).1
      (plane.execution request cancellation context fuel).2 :=
    (ensures_executeTyped fuel created).run 0
  have numbered := (numbered_executeTyped plane request cancellation context fuel).run
  rcases emitted returned finished with ⟨behind, concludes⟩ | ⟨stopped, inner⟩
  · exact iff_of_true ⟨concludes, numbered⟩ behind
  · refine iff_of_false ?_ stopped
    intro proper
    exact proper.concludes.not_stillOpen inner

/-- The production plane without policies, over an executor that always
succeeds. -/
def samplePlane : ExecutionPlane :=
  buildExecutionPlane sampleOptions (fun text => .error text) .new succeeding 7 4

def sampleContext : ExecutionContext :=
  { executionId := 5
    instanceId := 6
    reservationId := 8
    elapsedMs := 12
    timing := .inOrder }

def sampleRequest (ir : WorkflowIR) : ExecuteWorkflowRequest :=
  { triggerName := "cron"
    intent := "Quality"
    workflow := ir }

def quietToken : CancelToken :=
  { isCancelled := fun _ => false
    fate := fun _ => .returns }

/-- Two nodes in a row. -/
def reviewChain : WorkflowIR :=
  workflow [plainNode 1 .generate, plainNode 2 .review] [⟨1, 2, none⟩]

/-- The chain runs to completion and says so. -/
theorem reviewChain_endsProperly :
    ∃ returned, (samplePlane.execution (sampleRequest reviewChain) quietToken
        sampleContext 10).1 = some returned ∧
      EndsProperly returned (samplePlane.execution (sampleRequest reviewChain)
        quietToken sampleContext 10).2 := by
  have done : (samplePlane.execution (sampleRequest reviewChain) quietToken
      sampleContext 10).1.isSome = true := by
    decide +kernel
  have compiled : compile sampleOptions reviewChain =
      .ok (compiledGraph sampleOptions reviewChain) := compile_eq_ok (by decide +kernel)
  obtain ⟨returned, finished⟩ := Option.isSome_iff_exists.mp done
  refine ⟨returned, finished, ?_⟩
  refine (endsProperly_iff samplePlane _ quietToken sampleContext 10 7 rfl returned finished).mpr ?_
  refine ⟨none, _, rfl, compiled, ?_⟩
  exact fun _ _ => rfl

/-- A workflow without nodes is started and rejected, and nothing ends it. -/
theorem rejected_workflow_stays_open :
    ¬ ∀ (plane : ExecutionPlane) (request : ExecuteWorkflowRequest)
      (cancellation : CancelToken) (context : ExecutionContext) (fuel : Nat) (session : Uuid),
      plane.createSession request.triggerName request.workflow.planId = .ok session →
      ∀ returned, (plane.execution request cancellation context fuel).1 = some returned →
        EndsProperly returned (plane.execution request cancellation context fuel).2 := by
  intro always
  have proper := always samplePlane (sampleRequest (workflow [] [])) quietToken
    sampleContext 10 7 rfl _ rfl
  have inner : ∀ envelope, envelope ∈ (samplePlane.execution
      (sampleRequest (workflow [] [])) quietToken sampleContext 10).2 →
        envelope.payload.isTerminal = false := by
    decide
  exact proper.concludes.not_stillOpen inner

end ExecutionPlane

end FusionRouter

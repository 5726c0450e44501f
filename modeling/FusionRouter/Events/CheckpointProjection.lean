import FusionRouter.Host.ExecutionPlane

/-!
# Checkpoints of the event stream

The projection skips the sequence numbers it has saved.  A node that was
counted without being saved is counted again when it is delivered again.
-/

namespace FusionRouter

inductive CheckpointPolicy where
  | everyNode
  | everyNthNode (n : Nat)
  | timed (interval : Nat)
  | manual
deriving Repr, DecidableEq

def CheckpointPolicy.shouldCheckpoint (nodeCount : Nat) :
    CheckpointPolicy → Bool
  | .everyNode => true
  | .everyNthNode n => n ∣ nodeCount
  | .timed _ | .manual => false

def ExecutionEvent.isNodeFinished : ExecutionEvent → Bool
  | .nodeFinished .. => true
  | _ => false

/-- The projection, with the files written under its storage directory. -/
structure CheckpointProjection where
  policy : CheckpointPolicy
  storageDir : String
  nodeCount : Nat
  savedSequenceNumbers : List Nat
  files : List (String × ExecutionEventEnvelope)
deriving Repr, DecidableEq

namespace CheckpointProjection

def new (policy : CheckpointPolicy) (storageDir : String) :
    CheckpointProjection :=
  ⟨policy, storageDir, 0, [], []⟩

def path (storageDir : String) (envelope : ExecutionEventEnvelope) : String :=
  storageDir ++ "/" ++ envelope.executionId ++ "-seq" ++ toString envelope.sequenceNumber ++ ".chk"

variable (projection : CheckpointProjection)

def handleEvent (envelope : ExecutionEventEnvelope) : CheckpointProjection :=
  if envelope.sequenceNumber ∈ projection.savedSequenceNumbers then projection
  else if envelope.payload.isNodeFinished then
    let counted := { projection with nodeCount := projection.nodeCount + 1 }
    if projection.policy.shouldCheckpoint counted.nodeCount then
      { counted with
        savedSequenceNumbers := envelope.sequenceNumber :: projection.savedSequenceNumbers
        files := projection.files ++ [(path projection.storageDir envelope, envelope)] }
    else counted
  else projection

def deliver (envelopes : List ExecutionEventEnvelope) : CheckpointProjection :=
  envelopes.foldl handleEvent projection

/-- An envelope arrives for the first time, or again. -/
inductive Delivery where
  | first (envelope : ExecutionEventEnvelope)
  | again (envelope : ExecutionEventEnvelope)
deriving Repr, DecidableEq

namespace Delivery

def envelope : Delivery → ExecutionEventEnvelope
  | first envelope | again envelope => envelope

def asFirst : Delivery → Option ExecutionEventEnvelope
  | first envelope => some envelope
  | again _ => none

end Delivery

/-- What each envelope delivered once amounts to. -/
def once (deliveries : List Delivery) : List ExecutionEventEnvelope :=
  deliveries.filterMap Delivery.asFirst

/-- The projection will do nothing more about the envelope: it tells of no
finished node, or its number is saved. -/
def Settled (envelope : ExecutionEventEnvelope) : Prop :=
  envelope.payload.isNodeFinished = true → envelope.sequenceNumber ∈ projection.savedSequenceNumbers

/-- Whenever an envelope comes again, it is settled in the state it meets. -/
def ComesBackSettled : CheckpointProjection → List Delivery → Prop
  | _, [] => True
  | projection, .first envelope :: rest => ComesBackSettled (projection.handleEvent envelope) rest
  | projection, .again envelope :: rest =>
    projection.Settled envelope ∧ ComesBackSettled (projection.handleEvent envelope) rest

variable {projection}

/-- An envelope leaves the projection alone exactly if it is settled; any other
one is counted. -/
theorem handleEvent_eq_self_iff :
    projection.handleEvent envelope = projection ↔ projection.Settled envelope := by
  unfold handleEvent Settled
  constructor
  · intro same finished
    by_contra unsaved
    have count := congrArg nodeCount same
    rw [if_neg unsaved, if_pos finished] at count
    dsimp only at count
    split at count <;> simp at count
  · intro settled
    split
    · rfl
    next unsaved => rw [if_neg (fun finished => unsaved (settled finished))]

theorem ComesBackSettled.deliver_eq (settled : projection.ComesBackSettled deliveries) :
    projection.deliver (deliveries.map Delivery.envelope) = projection.deliver (once deliveries) := by
  induction deliveries generalizing projection with
  | nil => rfl
  | cons delivery rest ih =>
    cases delivery with
    | first envelope => exact ih settled
    | again envelope =>
      have same := handleEvent_eq_self_iff.mpr settled.1
      calc projection.deliver (envelope :: rest.map Delivery.envelope)
        _ = (projection.handleEvent envelope).deliver (once rest) := ih settled.2
        _ = projection.deliver (once rest) := by rw [same]

/-- Whatever the policy, the same files are written in the same order when every
envelope that comes again is settled by then. -/
theorem redelivery_writes_same (settled : projection.ComesBackSettled deliveries) :
    (projection.deliver (deliveries.map Delivery.envelope)).files =
      (projection.deliver (once deliveries)).files := by
  rw [settled.deliver_eq]

namespace SavedSample

def finished (sequenceNumber : Nat) : ExecutionEventEnvelope :=
  ⟨"wf-1", "exec-1", sequenceNumber, .nodeFinished "node_1" 50 10 20⟩

end SavedSample

open SavedSample

/-- The second node is saved, and comes again. -/
theorem node_saved_once :
    ((new (.everyNthNode 2) "chk").deliver [finished 1, finished 2, finished 2]).files =
        [("chk/exec-1-seq2.chk", finished 2)] ∧
      ((new (.everyNthNode 2) "chk").deliver [finished 1, finished 2]).files =
        [("chk/exec-1-seq2.chk", finished 2)] := by
  have settled : (new (.everyNthNode 2) "chk").ComesBackSettled
      [.first (finished 1), .first (finished 2), .again (finished 2)] :=
    ⟨fun _ => by decide, trivial⟩
  have same := redelivery_writes_same settled
  refine ⟨same.trans ?_, ?_⟩ <;> decide

/-- The second delivery of one node is counted as the second node. -/
theorem counted_again :
    ((new (.everyNthNode 2) "chk").deliver [finished 1]).files = [] ∧
      ((new (.everyNthNode 2) "chk").deliver [finished 1, finished 1]).files =
        [("chk/exec-1-seq1.chk", finished 1)] :=
  ⟨by decide, by decide⟩

end CheckpointProjection

end FusionRouter

import FusionRouter.Resource.MeteredStream

/-!
# Streams finish once

The guard and the hook are taken where they are used, so over the life of a
stream each is used once.  A stream whose token is cancelled yields nothing
more; one that has met an error or the end of its inner stream goes on polling
it.
-/

namespace FusionRouter

open List

namespace StreamEffect

def isFinished : StreamEffect → Bool
  | .finished _ => true
  | _ => false

def isGaveUp : StreamEffect → Bool
  | .gaveUp _ => true
  | _ => false

def chunk : StreamEffect → Option ChatStreamChunk
  | .returned (.ready (some (.ok chunk))) => some chunk
  | _ => none

end StreamEffect

abbrev PollCall := StreamWorld × Poll (Option StreamItem)

namespace MeteredStream

open StreamEffect (isFinished isGaveUp)

def launch (guard : ResourceGuard) (cancelled : Bool) (pricing : Option ModelPricing) (now : Nat)
    (envelope : Option BudgetEnvelope) : MeteredStream :=
  match envelope with
  | none => new guard cancelled pricing now
  | some envelope => (new guard cancelled pricing now).withBudgetEnvelope envelope

def polled (polls : List PollCall) : List StreamEvent :=
  polls.map (fun call => .poll call.1 call.2)

def lifetime (polls : List PollCall) (world : StreamWorld) : List StreamEvent :=
  polled polls ++ [.drop world]

def hookLeft (stream : MeteredStream) : Nat :=
  stream.onFinish.toNat

def guardLeft (stream : MeteredStream) : Nat :=
  stream.guard.isSome.toNat

/-- An end of the inner stream: an error or no more items. -/
def Ends (inner : Poll (Option StreamItem)) : Prop :=
  ∃ item, inner = .ready item ∧ ∀ chunk, item ≠ some (.ok chunk)

/-! ## What an end does -/

section Finish

variable (stream : MeteredStream) (answers : ReleaseAnswers)

theorem givenUp_counts :
    (stream.givenUp answers).countP isFinished = 0 ∧
      (stream.givenUp answers).countP isGaveUp =
        stream.guardLeft := by
  unfold givenUp guardLeft
  cases stream.guard <;> exact ⟨rfl, rfl⟩

theorem finish_counts :
    (stream.finish answers).1.countP isFinished = stream.hookLeft ∧
      (stream.finish answers).1.countP isGaveUp =
        stream.guardLeft ∧ (stream.finish answers).2.hookLeft = 0 ∧
      (stream.finish answers).2.guardLeft = 0 := by
  obtain ⟨quiet, dropped⟩ := stream.givenUp_counts answers
  cases left : stream.onFinish with
  | false =>
    rw [finish_of_fired left]
    simp [quiet, dropped, hookLeft, guardLeft, left]
  | true =>
    rw [finish_of_left left]
    simp [countP_append, countP_cons, quiet, dropped, hookLeft,
      guardLeft, left, isFinished, isGaveUp]

end Finish

/-! ## One call -/

section Step

variable (stream : MeteredStream) (event : StreamEvent)

/-- What a call uses of the hook and the guard is gone. -/
theorem step_counts :
    (stream.step event).1.countP isFinished +
          (stream.step event).2.hookLeft = stream.hookLeft ∧
      (stream.step event).1.countP isGaveUp +
          (stream.step event).2.guardLeft = stream.guardLeft := by
  have ended : ∀ (other : MeteredStream) (answers : ReleaseAnswers)
      (last : List StreamEffect), other.hookLeft = stream.hookLeft →
      other.guardLeft = stream.guardLeft → last.countP isFinished = 0 →
      last.countP isGaveUp = 0 →
      ((other.finish answers).1 ++ last).countP isFinished +
            (other.finish answers).2.hookLeft = stream.hookLeft ∧
        ((other.finish answers).1 ++ last).countP isGaveUp +
            (other.finish answers).2.guardLeft = stream.guardLeft := by
    intro other answers last hook guard unfired undropped
    obtain ⟨fired, dropped, hookGone, guardGone⟩ := other.finish_counts answers
    rw [countP_append, countP_append, fired, dropped, hookGone, guardGone, unfired, undropped]
    exact ⟨hook, guard⟩
  have metered : ∀ world chunk, ((stream.meets world).meterChunk world.now chunk).2.hookLeft =
          stream.hookLeft ∧ ((stream.meets world).meterChunk world.now chunk).2.guardLeft =
          stream.guardLeft := by
    intro world chunk
    obtain ⟨hook, guard, -⟩ := (stream.meets world).meterChunk_frame world.now chunk
    exact ⟨congrArg Bool.toNat hook, congrArg (fun guard => guard.isSome.toNat) guard⟩
  have exit := stream.step_exit event
  generalize stream.step event = stepped at exit ⊢
  obtain ⟨effects, after⟩ := stepped
  cases exit with
  | cancelled | innerEnded | aborted => exact ended _ _ _ rfl rfl rfl rfl
  | pending => exact ⟨Nat.zero_add _, Nat.zero_add _⟩
  | @breached world chunk _ _ _ _ _ charge =>
    obtain ⟨hook, guard⟩ := metered world chunk
    rw [charge] at hook guard
    exact ended _ _ _ hook guard rfl rfl
  | @passed world chunk _ _ _ charge =>
    obtain ⟨hook, guard⟩ := metered world chunk
    rw [charge] at hook guard
    exact ⟨(Nat.zero_add _).trans hook, (Nat.zero_add _).trans guard⟩
  | @dropped world =>
    have counts := ended (stream.meets world).cancel world.release [] rfl rfl rfl rfl
    rwa [append_nil] at counts

variable (world : StreamWorld) (inner : Poll (Option StreamItem))

end Step

/-! ## Whole lives -/

variable (start : MeteredStream)

theorem run_counts (events : List StreamEvent) :
    (start.effects events).countP isFinished +
          (Runs.after step start events).hookLeft = start.hookLeft ∧
      (start.effects events).countP isGaveUp +
          (Runs.after step start events).guardLeft = start.guardLeft :=
  ⟨Runs.countP_replies_add step _ hookLeft
      (fun stream event => (stream.step_counts event).1) start events,
    Runs.countP_replies_add step _ guardLeft
      (fun stream event => (stream.step_counts event).2) start events⟩

end MeteredStream

namespace StreamSample

def world : StreamWorld :=
  { cancelled := false
    poisoned := false
    now := 0
    release := { accepts := true, first := .ok, second := .ok } }

def guard : ResourceGuard :=
  { requestId := 0
    estimatedTokens := 0
    estimatedCost := 0
    committed := false
    runtime := true }

def chunk (content : String) : ChatStreamChunk :=
  { content := some content, finishReason := none, usage := none }

def fails : PollCall :=
  (world, .ready (some (.error "boom")))

def yields (content : String) : PollCall :=
  (world, .ready (some (.ok (chunk content))))

end StreamSample

end FusionRouter

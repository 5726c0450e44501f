import FusionRouter.Resource.StreamMeter

/-!
# Metered streams

A `MeteredStream` polls an inner stream, meters its chunks and charges them to
a budget envelope.  It ends by cancellation, by the end or an error of the
inner stream, by a breach of the budget, by a poisoned meter or when it is
dropped; the first of these gives up the guard and fires the finish hook.
-/

namespace FusionRouter

/-! ## The guard -/

inductive ReleaseOutcome where
  | ok
  | error (message : String)
  | panicked
deriving DecidableEq

inductive ReleaseAttempt where
  | spawned
  | blocking (outcome : ReleaseOutcome)
deriving DecidableEq

/-- What the runtime and the resource manager do when a guard is dropped. -/
structure ReleaseAnswers where
  accepts : Bool
  first : ReleaseOutcome
  second : ReleaseOutcome

structure ResourceGuard where
  requestId : Uuid
  estimatedTokens : Nat
  estimatedCost : Nat
  committed : Bool
  runtime : Bool

def ResourceGuard.drop (guard : ResourceGuard) (answers : ReleaseAnswers) : List ReleaseAttempt :=
  if guard.committed then []
  else if guard.runtime && answers.accepts then [.spawned]
  else
    match answers.first with
    | .panicked => [.blocking .panicked, .blocking answers.second]
    | outcome => [.blocking outcome]

/-! ## The stream -/

inductive Poll (α : Type) where
  | ready (value : α)
  | pending
deriving DecidableEq

abbrev StreamItem := Except String ChatStreamChunk

inductive StreamEffect where
  | gaveUp (attempts : List ReleaseAttempt)
  | finished (report : StreamMeterReport)
  | returned (poll : Poll (Option StreamItem))

/-- What the stream meets at a call: whether the token has been cancelled and
the meter poisoned from outside by then, the time, and how a release goes. -/
structure StreamWorld where
  cancelled : Bool
  poisoned : Bool
  now : Nat
  release : ReleaseAnswers

inductive StreamEvent where
  | poll (world : StreamWorld) (inner : Poll (Option StreamItem))
  | drop (world : StreamWorld)

structure MeteredStream where
  cancelled : Bool
  meter : StreamMeter
  poisoned : Bool
  guard : Option ResourceGuard
  pricing : Option ModelPricing
  budgetEnvelope : Option BudgetEnvelope
  -- whether the finish hook is still to be fired
  onFinish : Bool
  prevCostNanos : Option Nat
  prevTokens : Option Nat

/-- The report where the meter cannot be locked. -/
def StreamMeterReport.unknown : StreamMeterReport :=
  { promptTokens := 0
    completionTokens := 0
    totalTokens := 0
    cost := 0
    ttfbMs := none
    totalDurationMs := none }

def StreamMeterReport.totals (report : StreamMeterReport) : Totals :=
  { cost := report.cost, tokens := report.totalTokens }

namespace BudgetEnvelope

/-- One chunk is charged: the change of the totals since the last one. -/
def chargeChunk (envelope : BudgetEnvelope) (told seen : Totals) :
    BudgetEnvelope × Option BudgetExceededError :=
  if told.cost < seen.cost ∨ told.tokens < seen.tokens then
    envelope.recordAndCheck (seen.cost - told.cost) (seen.tokens - told.tokens)
  else if seen.cost < told.cost ∨ seen.tokens < told.tokens then
    (envelope.reconcileRefund (told.cost - seen.cost) (told.tokens - seen.tokens), none)
  else (envelope, none)

def reconcile (envelope : BudgetEnvelope) (told final : Totals) :
    BudgetEnvelope :=
  if final.cost < told.cost ∨ final.tokens < told.tokens then
    envelope.reconcileRefund (told.cost - final.cost) (told.tokens - final.tokens)
  else
    (envelope.recordAndCheck (final.cost - told.cost) (final.tokens - told.tokens)).1

end BudgetEnvelope

namespace MeteredStream

/-- `metered_stream_with_finish`. -/
def new (guard : ResourceGuard) (cancelled : Bool)
    (pricing : Option ModelPricing) (now : Nat) : MeteredStream :=
  { cancelled := cancelled
    meter := StreamMeter.new now
    poisoned := false
    guard := some guard
    pricing := pricing
    budgetEnvelope := none
    onFinish := true
    prevCostNanos := none
    prevTokens := none }

section

variable (stream : MeteredStream)

def withBudgetEnvelope (envelope : BudgetEnvelope) : MeteredStream :=
  { stream with budgetEnvelope := some envelope }

/-- The totals that the envelope has been charged with. -/
def told : Totals :=
  { cost := stream.prevCostNanos.getD 0, tokens := stream.prevTokens.getD 0 }

/-- The token and the meter as the stream meets them. -/
def meets (world : StreamWorld) : MeteredStream :=
  { stream with
    cancelled := stream.cancelled || world.cancelled
    poisoned := stream.poisoned || world.poisoned }

def cancel : MeteredStream :=
  { stream with cancelled := true }

def releaseGuard (answers : ReleaseAnswers) : List StreamEffect × MeteredStream :=
  match stream.guard with
  | none => ([], stream)
  | some guard =>
    ([.gaveUp (guard.drop answers)], { stream with guard := none })

def finalReport : StreamMeterReport × StreamMeter :=
  if stream.poisoned then (.unknown, stream.meter)
  else stream.meter.finalize stream.pricing

def fireFinishHook : List StreamEffect × MeteredStream :=
  if stream.onFinish then
    ([.finished stream.finalReport.1],
      { stream with
        onFinish := false
        meter := stream.finalReport.2
        budgetEnvelope := stream.budgetEnvelope.map (fun envelope =>
          envelope.reconcile stream.told stream.finalReport.1.totals) })
  else ([], stream)

/-- The guard is given up and the hook is fired, as at every end. -/
def finish (answers : ReleaseAnswers) : List StreamEffect × MeteredStream :=
  let released := stream.releaseGuard answers
  let fired := released.2.fireFinishHook
  (released.1 ++ fired.1, fired.2)

/-- A chunk is metered and charged.  The totals told are not advanced where the
budget is breached. -/
def meterChunk (now : Nat) (chunk : ChatStreamChunk) : Option BudgetExceededError × MeteredStream :=
  let meter := stream.meter.recordChunk now chunk stream.pricing
  match stream.budgetEnvelope with
  | none => (none, { stream with meter := meter })
  | some envelope =>
    match envelope.chargeChunk stream.told meter.totals with
    | (charged, some error) =>
      (some error, { stream with
        meter := meter
        budgetEnvelope := some charged })
    | (charged, none) =>
      (none, { stream with
        meter := meter
        budgetEnvelope := some charged
        prevCostNanos := some meter.totals.cost
        prevTokens := some meter.totals.tokens })

def finishWith (answers : ReleaseAnswers) (item : Option StreamItem) :
    List StreamEffect × MeteredStream :=
  ((stream.finish answers).1 ++ [.returned (.ready item)], (stream.finish answers).2)

/-- `poll_next`; the inner stream is polled only where nobody has cancelled. -/
def pollNext (world : StreamWorld) (inner : Poll (Option StreamItem)) :
    List StreamEffect × MeteredStream :=
  let stream := stream.meets world
  if stream.cancelled then stream.finishWith world.release none
  else
    match inner with
    | .pending => ([.returned .pending], stream)
    | .ready none => stream.finishWith world.release none
    | .ready (some (.error message)) =>
      stream.finishWith world.release (some (.error message))
    | .ready (some (.ok chunk)) =>
      if stream.poisoned then
        stream.cancel.finishWith world.release (some (.error
          "stream metering state poisoned; aborting fail-closed"))
      else
        match stream.meterChunk world.now chunk with
        | (some error, metered) =>
          metered.cancel.finishWith world.release (some (.error
            ("Mid-stream budget exceeded: Some(" ++ error.debug ++ ")")))
        | (none, metered) =>
          ([.returned (.ready (some (.ok chunk)))], metered)

def step : StreamEvent → List StreamEffect × MeteredStream
  | .poll world inner => stream.pollNext world inner
  | .drop world => (stream.meets world).cancel.finish world.release

def effects (start : MeteredStream) (events : List StreamEvent) : List StreamEffect :=
  (Runs.replies step start events).flatten

/-! ## What an end does -/

/-- The guard is dropped, if it is still there. -/
def givenUp (answers : ReleaseAnswers) : List StreamEffect :=
  (stream.guard.map (fun guard => .gaveUp (guard.drop answers))).toList

theorem releaseGuard_eq (answers : ReleaseAnswers) :
    stream.releaseGuard answers = (stream.givenUp answers, { stream with guard := none }) := by
  obtain ⟨_, _, _, _ | _, _, _, _, _, _⟩ := stream <;> rfl

end

variable {stream : MeteredStream}

theorem finish_of_left (left : stream.onFinish = true) (answers : ReleaseAnswers) :
    stream.finish answers =
      (stream.givenUp answers ++ [.finished stream.finalReport.1],
        { stream with
          guard := none
          onFinish := false
          meter := stream.finalReport.2
          budgetEnvelope := stream.budgetEnvelope.map (fun envelope =>
            envelope.reconcile stream.told stream.finalReport.1.totals) }) := by
  unfold finish
  rw [releaseGuard_eq]
  unfold fireFinishHook
  simp only [left, if_true]
  rfl

theorem finish_of_fired (fired : stream.onFinish = false) (answers : ReleaseAnswers) :
    stream.finish answers = (stream.givenUp answers, { stream with guard := none }) := by
  unfold finish
  rw [releaseGuard_eq]
  simp only [fireFinishHook, fired, Bool.false_eq_true, if_false, List.append_nil]

theorem meterChunk_frame (stream : MeteredStream) (now : Nat) (chunk : ChatStreamChunk) :
    (stream.meterChunk now chunk).2.onFinish = stream.onFinish ∧
      (stream.meterChunk now chunk).2.guard = stream.guard ∧
      (stream.meterChunk now chunk).2.cancelled = stream.cancelled := by
  unfold meterChunk
  dsimp only
  split
  · exact ⟨rfl, rfl, rfl⟩
  · split <;> exact ⟨rfl, rfl, rfl⟩

/-! ## The ways in which a call ends -/

/-- A call either leaves the guard and the hook alone, or it ends the stream
from some state. -/
inductive Exit (stream : MeteredStream) :
    StreamEvent → List StreamEffect → MeteredStream → Prop where
  | cancelled {world : StreamWorld} {inner : Poll (Option StreamItem)}
      (stopped : (stream.meets world).cancelled = true) :
      Exit stream (.poll world inner)
        (((stream.meets world).finish world.release).1 ++ [.returned (.ready none)])
        ((stream.meets world).finish world.release).2
  | pending {world : StreamWorld} (running : (stream.meets world).cancelled = false) :
      Exit stream (.poll world .pending) [.returned .pending] (stream.meets world)
  | innerEnded {world : StreamWorld} {item : Option StreamItem}
      (running : (stream.meets world).cancelled = false) (ends : ∀ chunk, item ≠ some (.ok chunk)) :
      Exit stream (.poll world (.ready item))
        (((stream.meets world).finish world.release).1 ++ [.returned (.ready item)])
        ((stream.meets world).finish world.release).2
  | aborted {world : StreamWorld} {chunk : ChatStreamChunk} {message : String}
      (poisoned : (stream.meets world).poisoned = true) :
      Exit stream (.poll world (.ready (some (.ok chunk))))
        (((stream.meets world).cancel.finish world.release).1 ++
          [.returned (.ready (some (.error message)))])
        ((stream.meets world).cancel.finish world.release).2
  | breached {world : StreamWorld} {chunk : ChatStreamChunk}
      {error : BudgetExceededError} {metered : MeteredStream} {message : String}
      (running : (stream.meets world).cancelled = false)
      (sound : (stream.meets world).poisoned = false)
      (charge : (stream.meets world).meterChunk world.now chunk = (some error, metered)) :
      Exit stream (.poll world (.ready (some (.ok chunk))))
        ((metered.cancel.finish world.release).1 ++ [.returned (.ready (some (.error message)))])
        (metered.cancel.finish world.release).2
  | passed {world : StreamWorld} {chunk : ChatStreamChunk} {metered : MeteredStream}
      (running : (stream.meets world).cancelled = false)
      (sound : (stream.meets world).poisoned = false)
      (charge : (stream.meets world).meterChunk world.now chunk = (none, metered)) :
      Exit stream (.poll world (.ready (some (.ok chunk))))
        [.returned (.ready (some (.ok chunk)))] metered
  | dropped {world : StreamWorld} :
      Exit stream (.drop world) ((stream.meets world).cancel.finish world.release).1
        ((stream.meets world).cancel.finish world.release).2

theorem step_exit (stream : MeteredStream) (event : StreamEvent) :
    Exit stream event (stream.step event).1 (stream.step event).2 := by
  cases event with
  | drop world => exact .dropped
  | poll world inner =>
    change Exit stream _ (stream.pollNext world inner).1 (stream.pollNext world inner).2
    unfold pollNext
    dsimp only
    cases stopped : (stream.meets world).cancelled with
    | true => exact .cancelled stopped
    | false =>
      rcases inner with (_ | message | chunk) | _
      · refine .innerEnded stopped ?_
        intro chunk same
        cases same
      · refine .innerEnded stopped ?_
        intro chunk same
        cases same
      · cases poisoned : (stream.meets world).poisoned with
        | true => exact .aborted poisoned
        | false =>
          rcases charge : (stream.meets world).meterChunk world.now chunk with ⟨_ | error, metered⟩
          · simp only [Bool.false_eq_true, if_false, charge]
            exact .passed stopped poisoned charge
          · simp only [Bool.false_eq_true, if_false, charge]
            exact .breached stopped poisoned charge
      · exact .pending stopped

end MeteredStream

end FusionRouter

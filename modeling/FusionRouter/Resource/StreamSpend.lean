import FusionRouter.Types.BudgetThreads
import FusionRouter.Resource.StreamCompletion

/-!
# When the spend of a stream reconciles

As long as a stream runs, its envelope carries the totals that it has been
told, and the hook settles the rest.  A chunk keeps this where it moves cost
and tokens in one direction within the budget.  A chunk that breaches the
budget is charged at once and again by the hook, which only comes out even
where one of the totals falls.
-/

namespace FusionRouter

/-- Neither of the two goes down. -/
def Totals.Rises (before after : Totals) : Prop :=
  before.cost ≤ after.cost ∧ before.tokens ≤ after.tokens

namespace BudgetEnvelope

section

variable (envelope : BudgetEnvelope)

/-- The envelope has been charged with these totals since it stood at `base`. -/
def Carries (base totals : Totals) : Prop :=
  envelope.spentCost = base.cost + totals.cost ∧ envelope.spentTokens = base.tokens + totals.tokens

/-- The counters do not overflow by what goes up. -/
def Bears (told seen : Totals) : Prop :=
  envelope.spentCost + (seen.cost - told.cost) ≤ u64Max ∧
    envelope.spentTokens + (seen.tokens - told.tokens) ≤ u64Max

/-- What goes up stays below the ceilings. -/
def Affords (told seen : Totals) : Prop :=
  envelope.Bears told seen ∧ envelope.spentCost + (seen.cost - told.cost) ≤ envelope.maxCost ∧
    envelope.spentTokens + (seen.tokens - told.tokens) ≤ envelope.maxTokens

/-- A change of the totals that is charged exactly: nothing goes up, or nothing
goes down and the budget affords it, or one goes up beyond the budget while the
other goes down. -/
def Traces (told seen : Totals) : Prop :=
  seen.Rises told ∨ told.Rises seen ∧ envelope.Affords told seen ∨
    ¬ told.Rises seen ∧ ¬ envelope.Affords told seen ∧ envelope.Bears told seen

end

variable {envelope : BudgetEnvelope} {base told seen : Totals}

theorem recordAndCheck_eq_none_iff (envelope : BudgetEnvelope) (told seen : Totals) :
    (envelope.recordAndCheck (seen.cost - told.cost)
        (seen.tokens - told.tokens)).2 = none ↔ envelope.Affords told seen := by
  unfold recordAndCheck check record saturatingAdd Affords Bears
  dsimp only
  split_ifs <;> simp only [false_iff, true_iff] <;> omega

theorem record_of_bears (bears : envelope.Bears told seen) :
    (envelope.recordAndCheck (seen.cost - told.cost) (seen.tokens - told.tokens)).1.spentCost =
        envelope.spentCost + (seen.cost - told.cost) ∧
      (envelope.recordAndCheck (seen.cost - told.cost) (seen.tokens - told.tokens)).1.spentTokens =
        envelope.spentTokens + (seen.tokens - told.tokens) :=
  ⟨saturatingAdd_of_lt bears.1, saturatingAdd_of_lt bears.2⟩

theorem refund_carries (carries : envelope.Carries base charged)
    (cost : seen.cost + (told.cost - seen.cost) = charged.cost)
    (tokens : seen.tokens + (told.tokens - seen.tokens) = charged.tokens) :
    (envelope.reconcileRefund (told.cost - seen.cost)
      (told.tokens - seen.tokens)).Carries base seen := by
  unfold Carries at carries ⊢
  unfold reconcileRefund
  dsimp only
  omega

theorem chargeChunk_of_one_way (fits : envelope.Fits) (carries : envelope.Carries base told)
    (oneWay : seen.Rises told ∨ told.Rises seen ∧ envelope.Affords told seen) :
    (envelope.chargeChunk told seen).2 = none ∧ (envelope.chargeChunk told seen).1.Fits ∧
      (envelope.chargeChunk told seen).1.Carries base seen := by
  unfold chargeChunk
  split
  next up =>
    rcases oneWay with falls | ⟨rises, affords⟩
    · unfold Totals.Rises at falls
      omega
    · obtain ⟨cost, tokens⟩ := record_of_bears affords.1
      refine ⟨(recordAndCheck_eq_none_iff envelope told seen).mpr affords,
        ⟨saturatingAdd_le _ _, saturatingAdd_le _ _⟩, ?_⟩
      unfold Carries at carries ⊢
      unfold Totals.Rises at rises
      rw [cost, tokens]
      omega
  next level =>
    split
    · refine ⟨rfl, ?_, ?_⟩
      · exact ⟨(Nat.sub_le _ _).trans fits.1, (Nat.sub_le _ _).trans fits.2⟩
      · exact refund_carries carries (by omega) (by omega)
    next unmoved =>
      refine ⟨rfl, fits, ?_⟩
      unfold Carries at carries ⊢
      dsimp only
      omega

theorem chargeChunk_eq_none_iff :
    (envelope.chargeChunk told seen).2 = none ↔ seen.Rises told ∨ envelope.Affords told seen := by
  unfold chargeChunk
  by_cases up : told.cost < seen.cost ∨ told.tokens < seen.tokens
  · rw [if_pos up, recordAndCheck_eq_none_iff, or_iff_right]
    unfold Totals.Rises
    omega
  · have falls : seen.Rises told := by
      unfold Totals.Rises
      omega
    rw [if_neg up]
    refine iff_of_true ?_ (Or.inl falls)
    split <;> rfl

/-- An exact charge within the budget goes one way. -/
theorem Traces.one_way (traces : envelope.Traces told seen)
    (passing : (envelope.chargeChunk told seen).2 = none) :
    seen.Rises told ∨ told.Rises seen ∧ envelope.Affords told seen := by
  rcases traces with falls | rises | ⟨_, beyond, _⟩
  · exact Or.inl falls
  · exact Or.inr rises
  · exact Or.inl ((chargeChunk_eq_none_iff.mp passing).resolve_right beyond)

/-- An exact charge beyond the budget goes both ways. -/
theorem Traces.both_ways (traces : envelope.Traces told seen)
    (breach : (envelope.chargeChunk told seen).2 ≠ none) :
    ¬ seen.Rises told ∧ ¬ told.Rises seen ∧ envelope.Bears told seen := by
  rw [Ne, chargeChunk_eq_none_iff, not_or] at breach
  rcases traces with falls | ⟨_, affords⟩ | ⟨mixed, _, bears⟩
  · exact absurd falls breach.1
  · exact absurd affords breach.2
  · exact ⟨breach.1, mixed, bears⟩

/-- A chunk beyond the budget, and what the hook makes of it. -/
theorem reconcile_of_both_ways (carries : envelope.Carries base told)
    (notFalling : ¬ seen.Rises told) (notRising : ¬ told.Rises seen)
    (bears : envelope.Bears told seen) :
    ((envelope.chargeChunk told seen).1.reconcile told seen).Carries base
      seen := by
  unfold Totals.Rises at notFalling notRising
  have up : told.cost < seen.cost ∨ told.tokens < seen.tokens := by omega
  have falls : seen.cost < told.cost ∨ seen.tokens < told.tokens := by omega
  rw [chargeChunk, if_pos up, reconcile, if_pos falls]
  obtain ⟨cost, tokens⟩ := record_of_bears bears
  have charged : (envelope.recordAndCheck (seen.cost - told.cost)
      (seen.tokens - told.tokens)).1.Carries base ⟨told.cost + (seen.cost - told.cost),
          told.tokens + (seen.tokens - told.tokens)⟩ := by
    unfold Carries at carries ⊢
    rw [cost, tokens]
    dsimp only
    omega
  refine refund_carries charged ?_ ?_
  · dsimp only
    omega
  · dsimp only
    omega

/-- A final report of what has been told, or of nothing. -/
theorem reconcile_carries (fits : envelope.Fits) (carries : envelope.Carries base told)
    (final_eq : final = told ∨ final = ⟨0, 0⟩) :
    (envelope.reconcile told final).Carries base final := by
  unfold reconcile
  split
  · rcases final_eq with rfl | rfl
    · exact refund_carries carries (by omega) (by omega)
    · exact refund_carries carries (Nat.zero_add _) (Nat.zero_add _)
  next level =>
    have same : final = told := by
      rcases final_eq with rfl | rfl
      · rfl
      · obtain ⟨cost, tokens⟩ := told
        simp only [not_or, Nat.not_lt, Nat.le_zero] at level
        rw [level.1, level.2]
    subst same
    unfold Carries at carries ⊢
    unfold Fits at fits
    unfold recordAndCheck record saturatingAdd
    dsimp only
    omega

end BudgetEnvelope

def StreamEffect.report : StreamEffect → Option StreamMeterReport
  | .finished report => some report
  | _ => none

namespace MeteredStream

/-! ## The two phases of a stream -/

/-- The stream runs and its envelope carries the totals of the meter. -/
structure Charging (base : Totals) (stream : MeteredStream) (envelope : BudgetEnvelope) : Prop where
  pending : stream.onFinish = true
  held : stream.budgetEnvelope = some envelope
  fits : envelope.Fits
  carries : envelope.Carries base stream.told
  priced : stream.meter.Priced stream.pricing
  metered : stream.told = stream.meter.totals

/-- The hook has been fired with a report, and nothing is charged any more. -/
structure Settled (base report : Totals) (stream : MeteredStream)
    (envelope : BudgetEnvelope) : Prop where
  fired : stream.onFinish = false
  held : stream.budgetEnvelope = some envelope
  carries : envelope.Carries base report
  quiet : stream.cancelled = true ∨ stream.poisoned = true ∨
    stream.meter.finalized = true ∧ stream.told = stream.meter.totals

/-- A chunk that is metered is charged exactly. -/
def Reconcilable (stream : MeteredStream) : StreamEvent → Prop
  | .poll world inner => ∀ chunk envelope, inner = .ready (some (.ok chunk)) →
      (stream.meets world).cancelled = false → (stream.meets world).poisoned = false →
      stream.budgetEnvelope = some envelope → envelope.Traces stream.told
          (stream.meter.recordChunk world.now chunk stream.pricing).totals
  | .drop _ => True

def reports (effects : List StreamEffect) : List StreamMeterReport :=
  effects.filterMap StreamEffect.report

theorem reports_givenUp (stream : MeteredStream) (answers : ReleaseAnswers) :
    reports (stream.givenUp answers) = [] := by
  unfold givenUp
  cases stream.guard <;> rfl

theorem reports_concat_returned (effects : List StreamEffect) (poll : Poll (Option StreamItem)) :
    reports (effects ++ [.returned poll]) = reports effects := by
  unfold reports
  rw [List.filterMap_append]
  exact List.append_nil _

variable {stream : MeteredStream}

section Chunk

variable (held : stream.budgetEnvelope = some envelope) {meter : StreamMeter}
  (metered : stream.meter.recordChunk now chunk stream.pricing = meter)
include held metered

theorem meterChunk_of_passing
    (charge : envelope.chargeChunk stream.told meter.totals = (charged, none)) :
    stream.meterChunk now chunk =
      (none, { stream with
        meter := meter
        budgetEnvelope := some charged
        prevCostNanos := some meter.totals.cost
        prevTokens := some meter.totals.tokens }) := by
  unfold meterChunk
  rw [held]
  dsimp only
  rw [metered, charge]

theorem meterChunk_of_breaching
    (charge : envelope.chargeChunk stream.told meter.totals = (charged, some error)) :
    stream.meterChunk now chunk =
      (some error, { stream with
        meter := meter
        budgetEnvelope := some charged }) := by
  unfold meterChunk
  rw [held]
  dsimp only
  rw [metered, charge]

end Chunk

/-! ## The end -/

/-- The hook is fired once, and the stream settles with its report. -/
def Settles (base : Totals) (effects : List StreamEffect) (next : MeteredStream) : Prop :=
  ∃ report after, reports effects = [report] ∧ Settled base report.totals next after

theorem finish_settled (pending : stream.onFinish = true)
    (held : stream.budgetEnvelope = some envelope)
    (carries : (envelope.reconcile stream.told
      stream.finalReport.1.totals).Carries base stream.finalReport.1.totals)
    (quiet : stream.cancelled = true ∨ stream.poisoned = true ∨
      stream.finalReport.2.finalized = true ∧
        stream.told = stream.finalReport.2.totals) (answers : ReleaseAnswers) :
    Settles base (stream.finish answers).1 (stream.finish answers).2 := by
  rw [finish_of_left pending]
  refine ⟨stream.finalReport.1, envelope.reconcile stream.told stream.finalReport.1.totals, ?_, ?_⟩
  · unfold reports
    rw [List.filterMap_append]
    exact congrArg (· ++ [stream.finalReport.1]) (reports_givenUp stream answers)
  · exact ⟨rfl, congrArg (Option.map _) held, carries, quiet⟩

theorem finalReport_of_sound (stream : MeteredStream) (priced : stream.meter.Priced stream.pricing)
    (sound : stream.poisoned = false) :
    stream.finalReport.1.totals = stream.meter.totals ∧
      stream.finalReport.2.totals = stream.meter.totals ∧
      stream.finalReport.2.finalized = true := by
  unfold finalReport
  rw [sound, if_neg Bool.false_ne_true]
  obtain ⟨cost, tokens, totals, finalized⟩ := priced.finalize
  refine ⟨?_, totals, finalized⟩
  unfold StreamMeterReport.totals
  rw [cost, tokens]

theorem returning {effects : List StreamEffect}
    (ended : Settles base effects next) (poll : Poll (Option StreamItem)) :
    Settles base (effects ++ [.returned poll]) next := by
  rw [Settles, reports_concat_returned]
  exact ended

section

variable (charging : Charging base stream envelope)
include charging

theorem Charging.finish (answers : ReleaseAnswers) :
    Settles base (stream.finish answers).1 (stream.finish answers).2 := by
  cases poisoned : stream.poisoned with
  | true =>
    have unknown : stream.finalReport.1.totals = ⟨0, 0⟩ := by
      unfold finalReport
      rw [poisoned]
      rfl
    refine finish_settled charging.pending charging.held ?_ (Or.inr (Or.inl poisoned)) answers
    rw [unknown]
    exact BudgetEnvelope.reconcile_carries charging.fits charging.carries (Or.inr rfl)
  | false =>
    obtain ⟨report, totals, finalized⟩ := finalReport_of_sound stream charging.priced poisoned
    refine finish_settled charging.pending charging.held ?_
      (Or.inr (Or.inr ⟨finalized, charging.metered.trans totals.symm⟩)) answers
    rw [report, ← charging.metered]
    exact BudgetEnvelope.reconcile_carries charging.fits charging.carries (Or.inl rfl)

theorem Charging.meets (world : StreamWorld) : Charging base (stream.meets world) envelope :=
  ⟨charging.pending, charging.held, charging.fits, charging.carries,
    charging.priced, charging.metered⟩

theorem Charging.cancel : Charging base stream.cancel envelope :=
  ⟨charging.pending, charging.held, charging.fits, charging.carries,
    charging.priced, charging.metered⟩

theorem Charging.meterChunk (now : Nat) (chunk : ChatStreamChunk)
    (traces : envelope.Traces stream.told
      (stream.meter.recordChunk now chunk stream.pricing).totals)
    (sound : stream.poisoned = false) :
    (stream.meterChunk now chunk).1 = none ∧
        (∃ after, Charging base (stream.meterChunk now chunk).2 after) ∨
      (stream.meterChunk now chunk).1 ≠ none ∧ ∀ answers, Settles base
        ((stream.meterChunk now chunk).2.cancel.finish answers).1
        ((stream.meterChunk now chunk).2.cancel.finish answers).2 := by
  have priced := charging.priced.recordChunk now chunk
  generalize metered : stream.meter.recordChunk now chunk stream.pricing = meter at traces priced
  rcases charge : envelope.chargeChunk stream.told meter.totals with ⟨charged, _ | error⟩
  · obtain ⟨-, fits, carries⟩ := BudgetEnvelope.chargeChunk_of_one_way
      charging.fits charging.carries (traces.one_way (by rw [charge]))
    rw [charge] at fits carries
    rw [meterChunk_of_passing charging.held metered charge]
    exact Or.inl ⟨rfl, charged, charging.pending, rfl, fits, carries, priced, rfl⟩
  · obtain ⟨notFalling, notRising, bears⟩ := traces.both_ways (by simp [charge])
    have carries := BudgetEnvelope.reconcile_of_both_ways charging.carries
      notFalling notRising bears
    rw [charge] at carries
    rw [meterChunk_of_breaching charging.held metered charge]
    refine Or.inr ⟨Option.some_ne_none error, fun answers => ?_⟩
    refine finish_settled ?_ rfl ?_ (Or.inl rfl) answers
    · exact charging.pending
    · have report := (finalReport_of_sound (MeteredStream.cancel { stream with
        meter := meter
        budgetEnvelope := some charged }) priced sound).1
      rw [report]
      exact carries

theorem Charging.step (fine : Reconcilable stream event) :
    reports (stream.step event).1 = [] ∧ (∃ after, Charging base (stream.step event).2 after) ∨
      Settles base (stream.step event).1 (stream.step event).2 := by
  have exit := stream.step_exit event
  generalize stream.step event = stepped at exit ⊢
  obtain ⟨effects, after⟩ := stepped
  cases exit with
  | @cancelled world | @innerEnded world =>
    exact Or.inr (returning ((charging.meets world).finish world.release) _)
  | @pending world => exact Or.inl ⟨rfl, envelope, charging.meets world⟩
  | @aborted world =>
    exact Or.inr (returning ((charging.meets world).cancel.finish world.release) _)
  | @breached world chunk _ _ _ running sound charge =>
    have traces := fine chunk envelope rfl running sound charging.held
    have metered := (charging.meets world).meterChunk world.now chunk traces sound
    rw [charge] at metered
    rcases metered with ⟨none, -⟩ | ⟨-, settles⟩
    · cases none
    · exact Or.inr (returning (settles world.release) _)
  | @passed world chunk _ running sound charge =>
    have traces := fine chunk envelope rfl running sound charging.held
    have metered := (charging.meets world).meterChunk world.now chunk traces sound
    rw [charge] at metered
    rcases metered with ⟨-, charges⟩ | ⟨some, -⟩
    · exact Or.inl ⟨rfl, charges⟩
    · exact absurd rfl some
  | @dropped world =>
    exact Or.inr ((charging.meets world).cancel.finish world.release)

end

theorem reports_cons (start : MeteredStream) (event : StreamEvent) (events : List StreamEvent) :
    reports (start.effects (event :: events)) = reports (start.step event).1 ++
        reports ((start.step event).2.effects events) :=
  List.filterMap_append ..

section

variable (settled : Settled base report stream envelope)
include settled

theorem Settled.finish (answers : ReleaseAnswers) :
    reports (stream.finish answers).1 = [] ∧
      Settled base report (stream.finish answers).2 envelope := by
  rw [finish_of_fired settled.fired]
  exact ⟨reports_givenUp stream answers, settled.fired, settled.held,
    settled.carries, settled.quiet⟩

theorem Settled.meets (world : StreamWorld) :
    Settled base report (stream.meets world) envelope := by
  refine ⟨settled.fired, settled.held, settled.carries, ?_⟩
  rcases settled.quiet with cancelled | poisoned | final
  · exact Or.inl (by simp [MeteredStream.meets, cancelled])
  · exact Or.inr (Or.inl (by simp [MeteredStream.meets, poisoned]))
  · exact Or.inr (Or.inr final)

theorem Settled.cancel : Settled base report stream.cancel envelope :=
  ⟨settled.fired, settled.held, settled.carries, Or.inl rfl⟩

theorem Settled.meterChunk (now : Nat) (chunk : ChatStreamChunk)
    (running : stream.cancelled = false) (sound : stream.poisoned = false) :
    (stream.meterChunk now chunk).1 = none ∧
      Settled base report (stream.meterChunk now chunk).2 envelope := by
  obtain ⟨finalized, told⟩ : stream.meter.finalized = true ∧ stream.told = stream.meter.totals := by
    rcases settled.quiet with cancelled | poisoned | final
    · cases cancelled.symm.trans running
    · cases poisoned.symm.trans sound
    · exact final
  have same : stream.meter.recordChunk now chunk stream.pricing =
      stream.meter := if_pos finalized
  have unmoved : envelope.chargeChunk stream.told stream.meter.totals = (envelope, none) := by
    rw [told]
    simp [BudgetEnvelope.chargeChunk]
  rw [meterChunk_of_passing settled.held same unmoved]
  exact ⟨rfl, settled.fired, rfl, settled.carries, Or.inr (Or.inr ⟨finalized, rfl⟩)⟩

theorem Settled.step (event : StreamEvent) :
    reports (stream.step event).1 = [] ∧ Settled base report (stream.step event).2 envelope := by
  have exit := stream.step_exit event
  generalize stream.step event = stepped at exit ⊢
  obtain ⟨effects, after⟩ := stepped
  cases exit with
  | @cancelled world | @innerEnded world =>
    obtain ⟨none, stays⟩ := (settled.meets world).finish world.release
    exact ⟨(reports_concat_returned _ _).trans none, stays⟩
  | @pending world => exact ⟨rfl, settled.meets world⟩
  | @aborted world =>
    obtain ⟨none, stays⟩ := (settled.meets world).cancel.finish world.release
    exact ⟨(reports_concat_returned _ _).trans none, stays⟩
  | @breached world chunk _ _ _ running sound charge =>
    have metered := (settled.meets world).meterChunk world.now chunk running sound
    rw [charge] at metered
    cases metered.1
  | @passed world chunk _ running sound charge =>
    have metered := (settled.meets world).meterChunk world.now chunk running sound
    rw [charge] at metered
    exact ⟨rfl, metered.2⟩
  | @dropped world =>
    exact (settled.meets world).cancel.finish world.release

theorem Settled.run (events : List StreamEvent) :
    reports (stream.effects events) = [] ∧
      Settled base report (Runs.after MeteredStream.step stream events)
        envelope := by
  induction events generalizing stream with
  | nil => exact ⟨rfl, settled⟩
  | cons event events induction =>
    obtain ⟨none, next⟩ := settled.step event
    obtain ⟨rest, last⟩ := induction next
    rw [reports_cons, none, rest]
    exact ⟨rfl, last⟩

end

theorem Charging.run (charging : Charging base stream envelope)
    (fine : Runs.Along MeteredStream.step Reconcilable stream events) :
    reports (stream.effects events) = [] ∧ (∃ after, Charging base
          (Runs.after MeteredStream.step stream events) after) ∨
      Settles base (stream.effects events) (Runs.after MeteredStream.step stream events) := by
  induction events generalizing stream envelope with
  | nil => exact Or.inl ⟨rfl, envelope, charging⟩
  | cons event events induction =>
    obtain ⟨now, later⟩ := (Runs.along_cons_iff _).mp fine
    rw [Settles, reports_cons]
    rcases charging.step now with ⟨none, next, charges⟩ | ⟨report, next, fired, settled⟩
    · rw [none]
      exact induction charges later
    · obtain ⟨rest, last⟩ := settled.run events
      rw [fired, rest]
      exact Or.inr ⟨report, next, rfl, last⟩

/-- The stream has been dropped, or it has returned an error or its end. -/
def HasEnded (start : MeteredStream) (events : List StreamEvent) : Prop :=
  (∃ world, .drop world ∈ events) ∨ ∃ item, .returned (.ready item) ∈ start.effects events ∧
      ∀ chunk, item ≠ some (.ok chunk)

theorem step_ends (ends : (∃ world, event = .drop world) ∨
      ∃ item, .returned (.ready item) ∈ (stream.step event).1 ∧ ∀ chunk, item ≠ some (.ok chunk)) :
    (stream.step event).2.onFinish = false := by
  have finishes : ∀ (other : MeteredStream) (answers : ReleaseAnswers),
      (other.finish answers).2.onFinish = false := by
    intro other answers
    exact Bool.toNat_eq_zero.mp (other.finish_counts answers).2.2.1
  have exit := stream.step_exit event
  generalize stream.step event = stepped at exit ends ⊢
  obtain ⟨effects, after⟩ := stepped
  cases exit with
  | cancelled | innerEnded | aborted | breached | dropped => exact finishes _ _
  | pending =>
    rcases ends with ⟨_, other⟩ | ⟨item, member, -⟩
    · cases other
    · cases List.mem_singleton.mp member
  | passed =>
    rcases ends with ⟨_, other⟩ | ⟨item, member, ends⟩
    · cases other
    · cases List.mem_singleton.mp member
      exact absurd rfl (ends _)

theorem fired_after (start : MeteredStream) (fired : start.onFinish = false)
    (events : List StreamEvent) : (Runs.after step start events).onFinish = false := by
  have none : start.hookLeft = 0 := Bool.toNat_eq_zero.mpr fired
  have counts := (start.run_counts events).1
  refine Bool.toNat_eq_zero.mp ?_
  change hookLeft _ = 0
  omega

theorem HasEnded.fired (ended : start.HasEnded events) :
    (Runs.after step start events).onFinish = false := by
  induction events generalizing start with
  | nil =>
    rcases ended with ⟨_, member⟩ | ⟨_, member, _⟩
    · cases member
    · cases member
  | cons event events induction =>
    have later : (start.step event).2.HasEnded events →
        (Runs.after step start (event :: events)).onFinish = false := fun rest => induction rest
    rcases ended with ⟨world, member⟩ | ⟨item, member, ends⟩
    · rcases List.mem_cons.mp member with now | member
      · exact fired_after _ (step_ends (Or.inl ⟨world, now.symm⟩)) events
      · exact later (Or.inl ⟨world, member⟩)
    · rcases List.mem_append.mp member with now | member
      · exact fired_after _ (step_ends (Or.inr ⟨item, now, ends⟩)) events
      · exact later (Or.inr ⟨item, member, ends⟩)

/-- The hook has been fired with a report by which the envelope has grown. -/
def Reconciles (guard : ResourceGuard) (cancelled : Bool)
    (pricing : Option ModelPricing) (now : Nat) (envelope : BudgetEnvelope)
    (events : List StreamEvent) : Prop :=
  ∃ report after,
    reports ((launch guard cancelled pricing now (some envelope)).effects events) = [report] ∧
      (Runs.after step (launch guard cancelled pricing now (some envelope))
        events).budgetEnvelope = some after ∧ after.spentCost = envelope.spentCost + report.cost ∧
      after.spentTokens = envelope.spentTokens + report.totalTokens

/-- Where every chunk is charged exactly, a stream that has ended has charged
its final report. -/
theorem spend_reconciles (guard : ResourceGuard) (cancelled : Bool)
    (pricing : Option ModelPricing) (now : Nat) (envelope : BudgetEnvelope)
    (fits : envelope.Fits) (events : List StreamEvent)
    (reconcilable : Runs.Along step Reconcilable
      (launch guard cancelled pricing now (some envelope)) events)
    (ended : (launch guard cancelled pricing now (some envelope)).HasEnded events) :
    Reconciles guard cancelled pricing now envelope events := by
  have charging : Charging ⟨envelope.spentCost, envelope.spentTokens⟩
      (launch guard cancelled pricing now (some envelope)) envelope :=
    ⟨rfl, rfl, fits, ⟨rfl, rfl⟩, StreamMeter.priced_new now pricing, rfl⟩
  rcases charging.run reconcilable with ⟨-, after, charges⟩ | ⟨report, after, fired, settled⟩
  · cases charges.pending.symm.trans ended.fired
  · exact ⟨report, after, fired, settled.held, settled.carries⟩

end MeteredStream

namespace StreamSample

def events : List StreamEvent :=
  MeteredStream.lifetime [yields "hi"] world

/-- Completion tokens at a nano-USD each. -/
def pricing : ModelPricing :=
  { inputCostPer1k := 0, outputCostPer1k := 1000 }

/-- Two chunks that raise both totals within the budget. -/
theorem two_chunks_reconcile :
    MeteredStream.Reconciles guard false (some pricing) 0 (.new 9 9 1)
      (MeteredStream.lifetime [yields "hi", yields "hello"] world) := by
  refine MeteredStream.spend_reconciles guard false (some pricing) 0 (.new 9 9 1)
    ⟨by decide, by decide⟩ _ ?_ (Or.inl ⟨world, by simp [MeteredStream.lifetime]⟩)
  refine (Runs.along_cons_iff _).mpr ⟨?_, (Runs.along_cons_iff _).mpr
    ⟨?_, (Runs.along_cons_iff _).mpr ⟨trivial, by simp [Runs.Along]⟩⟩⟩
  all_goals
    intro chunk envelope same _ _ held
    cases same
    cases held
    exact Or.inr (Or.inl ⟨⟨by decide, by decide⟩, ⟨by decide, by decide⟩, by decide, by decide⟩)

/-- Two tokens are estimated, then two of the prompt are reported and one. -/
def corrected : List StreamEvent :=
  MeteredStream.lifetime [yields "hello", (world, .ready (some (.ok
    { content := none, finishReason := none, usage := some ⟨2, 1, 3⟩ })))]
    world

/-- One token beyond the budget is charged twice, and a cost that falls while
the tokens rise is never refunded. -/
theorem charged_beyond_report :
    ¬ MeteredStream.Reconciles guard false none 0 (.new 0 0 1) events ∧
      ¬ MeteredStream.Reconciles guard false (some pricing) 0 (.new 9 9 1)
        corrected := by
  refine ⟨?_, ?_⟩
  · rintro ⟨report, after, fired, held, -, tokens⟩
    cases fired
    cases held
    revert tokens
    decide
  · rintro ⟨report, after, fired, held, cost, -⟩
    cases fired
    cases held
    revert cost
    decide

end StreamSample

end FusionRouter

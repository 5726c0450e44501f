import FusionRouter.Lib.Count
import FusionRouter.Lib.Interleaving
import FusionRouter.Types.Budget

/-!
# The budget envelope under concurrency

The counters of an envelope are atomic cells that several threads update.
`fetch_update` reads its cell and then tries to exchange the value that it has
seen; the exchange is the weak one, which may fail although the cell has not
changed, and a failed exchange hands back the value that the cell has now.

A call stands for a thread of its own.  A thread that makes its calls one after
the other is the case in which these threads take turns.
-/

namespace FusionRouter

open Interleaving Nat

inductive BudgetCall where
  | record (cost tokens : Nat)
  | increment
deriving Repr, DecidableEq

namespace BudgetCall

def cost : BudgetCall → Nat
  | .record cost _ => cost
  | .increment => 0

def tokens : BudgetCall → Nat
  | .record _ tokens => tokens
  | .increment => 0

def isIncrement : BudgetCall → Bool
  | .record _ _ => false
  | .increment => true

end BudgetCall

/-- Where a call of `record_and_check` is, with what it has read. -/
inductive RecordStage where
  | begun
  | addingCost (seen : Nat)
  | costAdded (prevCost : Nat)
  | addingTokens (prevCost seen : Nat)
  | tokensAdded (prevCost prevTokens : Nat)
  | costLoaded (prevCost prevTokens newCost : Nat)
  | returned (prevCost prevTokens : Nat) (result : Option BudgetExceededError)
deriving Repr, DecidableEq

/-- Where a call of `increment_iteration` is. -/
inductive IncrementStage where
  | begun
  | counting (seen : Nat)
  | counted (iteration : Nat)
  | refused (error : BudgetExceededError)
deriving Repr, DecidableEq

inductive BudgetThread where
  | recording (cost tokens : Nat) (stage : RecordStage)
  | incrementing (stage : IncrementStage)
deriving Repr, DecidableEq

namespace BudgetThread

def start : BudgetCall → BudgetThread
  | .record cost tokens => .recording cost tokens .begun
  | .increment => .incrementing .begun

def call : BudgetThread → BudgetCall
  | .recording cost tokens _ => .record cost tokens
  | .incrementing _ => .increment

def Returned : BudgetThread → Prop
  | .recording _ _ (.returned _ _ _) => True
  | .incrementing (.counted _) => True
  | .incrementing (.refused _) => True
  | _ => False

/-- The call returned `Err`. -/
def Failed : BudgetThread → Prop
  | .recording _ _ (.returned _ _ (some _)) => True
  | .incrementing (.refused _) => True
  | _ => False

/-- The own updates of a record that has returned left a total above its
maximum. -/
def Exceeds (maxCost maxTokens : Nat) : BudgetThread → Prop
  | .recording cost tokens (.returned prevCost prevTokens _) =>
    maxCost < saturatingAdd prevCost cost ∨ maxTokens < saturatingAdd prevTokens tokens
  | _ => False

/-- An increment that returned `Ok`. -/
def isCounted : BudgetThread → Bool
  | .incrementing (.counted _) => true
  | _ => false

def addedCost : BudgetThread → Nat
  | .recording _ _ .begun => 0
  | .recording _ _ (.addingCost _) => 0
  | .recording cost _ _ => cost
  | .incrementing _ => 0

def addedTokens : BudgetThread → Nat
  | .recording _ tokens (.tokensAdded _ _) => tokens
  | .recording _ tokens (.costLoaded _ _ _) => tokens
  | .recording _ tokens (.returned _ _ _) => tokens
  | _ => 0

end BudgetThread

open BudgetThread (isCounted addedCost addedTokens recording)

/-- An atomic step of `record_and_check`. -/
inductive RecordStep (envelope : BudgetEnvelope) (cost tokens : Nat) :
    RecordStage → BudgetEnvelope → RecordStage → Prop
  | loadCost : RecordStep envelope cost tokens .begun envelope (.addingCost envelope.spentCost)
  | missCost {seen : Nat} : RecordStep envelope cost tokens
      (.addingCost seen) envelope (.addingCost envelope.spentCost)
  | addCost : RecordStep envelope cost tokens (.addingCost envelope.spentCost)
      { envelope with spentCost := saturatingAdd envelope.spentCost cost }
      (.costAdded envelope.spentCost)
  | loadTokens {prevCost : Nat} : RecordStep envelope cost tokens (.costAdded prevCost) envelope
      (.addingTokens prevCost envelope.spentTokens)
  | missTokens {prevCost seen : Nat} : RecordStep envelope cost tokens
      (.addingTokens prevCost seen) envelope (.addingTokens prevCost envelope.spentTokens)
  | addTokens {prevCost : Nat} : RecordStep envelope cost tokens
      (.addingTokens prevCost envelope.spentTokens)
      { envelope with
        spentTokens := saturatingAdd envelope.spentTokens tokens }
      (.tokensAdded prevCost envelope.spentTokens)
  | readCost {prevCost prevTokens : Nat} : RecordStep envelope cost tokens
      (.tokensAdded prevCost prevTokens) envelope
      (.costLoaded prevCost prevTokens envelope.spentCost)
  -- the last load; the checks read no cell
  | readTokens {prevCost prevTokens newCost : Nat} :
      RecordStep envelope cost tokens (.costLoaded prevCost prevTokens newCost) envelope
        (.returned prevCost prevTokens
          (BudgetEnvelope.check { envelope with spentCost := prevCost, spentTokens := prevTokens }
            { envelope with spentCost := newCost } cost tokens))

/-- An atomic step of `increment_iteration`. -/
inductive IncrementStep (envelope : BudgetEnvelope) :
    IncrementStage → BudgetEnvelope → IncrementStage → Prop
  | load : IncrementStep envelope .begun envelope (.counting envelope.currentIterations)
  | miss {seen : Nat} (below : seen < envelope.maxIterations) :
      IncrementStep envelope (.counting seen) envelope (.counting envelope.currentIterations)
  | add (below : envelope.currentIterations < envelope.maxIterations) :
      IncrementStep envelope (.counting envelope.currentIterations)
        { envelope with
          currentIterations := envelope.currentIterations + 1 }
        (.counted (envelope.currentIterations + 1))
  | refuse {seen : Nat} (reached : envelope.maxIterations ≤ seen) :
      IncrementStep envelope (.counting seen) envelope
        (.refused (.iterations (seen + 1) envelope.maxIterations))

inductive BudgetStep :
    BudgetEnvelope → BudgetThread → BudgetEnvelope → BudgetThread → Prop
  | record {envelope envelope' : BudgetEnvelope} {cost tokens : Nat} {stage stage' : RecordStage}
      (step : RecordStep envelope cost tokens stage envelope' stage') :
      BudgetStep envelope (.recording cost tokens stage) envelope' (.recording cost tokens stage')
  | increment {envelope envelope' : BudgetEnvelope} {stage stage' : IncrementStage}
      (step : IncrementStep envelope stage envelope' stage') :
      BudgetStep envelope (.incrementing stage) envelope' (.incrementing stage')

def budgetStart (maxCost maxTokens maxIterations : Nat)
    (calls : List BudgetCall) : System BudgetEnvelope BudgetThread :=
  { shared := BudgetEnvelope.new maxCost maxTokens maxIterations
    threads := calls.map BudgetThread.start }

/-! ## The counters only grow -/

theorem foldl_saturatingAdd (amounts : List Nat) (fits : first ≤ u64Max) :
    amounts.foldl saturatingAdd first = min (first + amounts.sum) u64Max := by
  induction amounts generalizing first with
  | nil => simpa using fits
  | cons amount amounts ih =>
    rw [List.foldl_cons, ih (saturatingAdd_le _ _), List.sum_cons]
    unfold saturatingAdd
    omega

namespace BudgetEnvelope

/-- The sums are `u64` values. -/
def Fits (envelope : BudgetEnvelope) : Prop :=
  envelope.spentCost ≤ u64Max ∧ envelope.spentTokens ≤ u64Max

/-- The ceilings stay and no counter goes down. -/
structure Grows (before after : BudgetEnvelope) : Prop where
  fits : after.Fits
  maxCost : after.maxCost = before.maxCost
  maxTokens : after.maxTokens = before.maxTokens
  maxIterations : after.maxIterations = before.maxIterations
  spentCost : before.spentCost ≤ after.spentCost
  spentTokens : before.spentTokens ≤ after.spentTokens
  currentIterations : before.currentIterations ≤ after.currentIterations

theorem Grows.refl (fits : envelope.Fits) : Grows envelope envelope :=
  ⟨fits, rfl, rfl, rfl, le_rfl, le_rfl, le_rfl⟩

end BudgetEnvelope

variable {thread thread' : BudgetThread}

theorem RecordStep.grows (step : RecordStep envelope cost tokens stage envelope' stage')
    (fits : envelope.Fits) : envelope.Grows envelope' := by
  cases step with
  | addCost =>
    refine ⟨⟨saturatingAdd_le _ _, fits.2⟩, rfl, rfl, rfl, ?_, le_rfl, le_rfl⟩
    exact le_min (le_add_right _ _) fits.1
  | addTokens =>
    refine ⟨⟨fits.1, saturatingAdd_le _ _⟩, rfl, rfl, rfl, le_rfl, ?_, le_rfl⟩
    exact le_min (le_add_right _ _) fits.2
  | _ => exact .refl fits

theorem IncrementStep.grows (step : IncrementStep envelope stage envelope' stage')
    (fits : envelope.Fits) : envelope.Grows envelope' := by
  cases step with
  | add below =>
    exact ⟨fits, rfl, rfl, rfl, le_rfl, le_rfl, le_succ _⟩
  | _ => exact .refl fits

theorem BudgetStep.grows (step : BudgetStep envelope thread envelope' thread')
    (fits : envelope.Fits) : envelope.Grows envelope' := by
  cases step with
  | record step | increment step => exact step.grows fits

/-! ## What a thread knows -/

namespace RecordStage

/-- The totals that the call's own updates left are not undone. -/
def Sound (envelope : BudgetEnvelope) (cost tokens : Nat) :
    RecordStage → Prop
  | .begun => True
  | .addingCost _ => True
  | .costAdded prevCost => saturatingAdd prevCost cost ≤ envelope.spentCost
  | .addingTokens prevCost _ =>
    saturatingAdd prevCost cost ≤ envelope.spentCost
  | .tokensAdded prevCost prevTokens =>
    saturatingAdd prevCost cost ≤ envelope.spentCost ∧
      saturatingAdd prevTokens tokens ≤ envelope.spentTokens
  | .costLoaded prevCost prevTokens newCost =>
    saturatingAdd prevCost cost ≤ newCost ∧ saturatingAdd prevTokens tokens ≤ envelope.spentTokens
  | .returned prevCost prevTokens result =>
    envelope.maxCost < saturatingAdd prevCost cost ∨
      envelope.maxTokens < saturatingAdd prevTokens tokens → result ≠ none

theorem Sound.mono {stage : RecordStage} (grows : before.Grows after)
    (sound : stage.Sound before cost tokens) : stage.Sound after cost tokens := by
  cases stage with
  | begun | addingCost seen => trivial
  | costAdded prevCost | addingTokens prevCost seen =>
    exact sound.trans grows.spentCost
  | tokensAdded prevCost prevTokens =>
    exact ⟨sound.1.trans grows.spentCost, sound.2.trans grows.spentTokens⟩
  | costLoaded prevCost prevTokens newCost =>
    exact ⟨sound.1, sound.2.trans grows.spentTokens⟩
  | returned prevCost prevTokens result =>
    unfold Sound
    rw [grows.maxCost, grows.maxTokens]
    exact sound

theorem Sound.step (step : RecordStep envelope cost tokens stage envelope' stage')
    (sound : stage.Sound envelope cost tokens) : stage'.Sound envelope' cost tokens := by
  cases step with
  | loadCost | missCost => trivial
  | addCost => exact le_rfl
  | loadTokens | missTokens | readCost => exact sound
  | addTokens => exact ⟨sound, le_rfl⟩
  | readTokens =>
    -- the checks see at least what the call's own updates left
    intro exceeds passed
    have costSeen := sound.1
    have tokensSeen := sound.2
    simp only [BudgetEnvelope.check] at passed
    split at passed
    · cases passed
    · split at passed
      · cases passed
      · split at passed
        · cases passed
        · split at passed
          · cases passed
          · omega

end RecordStage

namespace IncrementStage

/-- The counter has passed whatever the call has seen of it. -/
def Sound (envelope : BudgetEnvelope) : IncrementStage → Prop
  | .begun => True
  | .counting seen => seen ≤ envelope.currentIterations
  | .counted _ => True
  | .refused _ => envelope.maxIterations ≤ envelope.currentIterations

variable {stage stage' : IncrementStage}

theorem Sound.mono (grows : before.Grows after) (sound : stage.Sound before) :
    stage.Sound after := by
  cases stage with
  | begun | counted iteration => trivial
  | counting seen => exact sound.trans grows.currentIterations
  | refused error =>
    exact grows.maxIterations.trans_le (sound.trans grows.currentIterations)

theorem Sound.step (step : IncrementStep envelope stage envelope' stage')
    (sound : stage.Sound envelope) : stage'.Sound envelope' := by
  cases step with
  | load | miss below => exact le_rfl
  | add below => trivial
  | refuse reached => exact reached.trans sound

end IncrementStage

namespace BudgetThread

def Sound (envelope : BudgetEnvelope) : BudgetThread → Prop
  | .recording cost tokens stage => stage.Sound envelope cost tokens
  | .incrementing stage => stage.Sound envelope

theorem Sound.mono (grows : before.Grows after)
    (sound : thread.Sound before) : thread.Sound after := by
  cases thread with
  | recording cost tokens stage => exact RecordStage.Sound.mono grows sound
  | incrementing stage => exact IncrementStage.Sound.mono grows sound

theorem Sound.step (step : BudgetStep envelope thread envelope' thread')
    (sound : thread.Sound envelope) : thread'.Sound envelope' := by
  cases step with
  | record step => exact RecordStage.Sound.step step sound
  | increment step => exact IncrementStage.Sound.step step sound

/-- A record whose own update broke a ceiling reports it. -/
theorem Sound.failed (sound : thread.Sound envelope)
    (exceeds : thread.Exceeds envelope.maxCost envelope.maxTokens) :
    thread.Failed := by
  cases thread with
  | incrementing stage => exact exceeds.elim
  | recording cost tokens stage =>
    cases stage with
    | returned prevCost prevTokens result =>
      cases result with
      | none => exact sound exceeds rfl
      | some error => trivial
    | _ => exact exceeds.elim

end BudgetThread

/-! ## What the threads have added -/

namespace BudgetStep

section

variable (step : BudgetStep envelope thread envelope' thread')
include step

theorem call_eq : thread'.call = thread.call := by
  cases step with
  | record step | increment step => rfl

theorem adds_cost (others : Nat)
    (spent : envelope.spentCost = min (others + thread.addedCost) u64Max) :
    envelope'.spentCost = min (others + thread'.addedCost) u64Max := by
  cases step with
  | record step =>
    cases step with
    | addCost =>
      change saturatingAdd envelope.spentCost _ = _
      rw [spent]
      unfold saturatingAdd
      simp only [addedCost]
      omega
    | _ => exact spent
  | increment step => cases step <;> exact spent

theorem adds_tokens (others : Nat)
    (spent : envelope.spentTokens = min (others + thread.addedTokens) u64Max) :
    envelope'.spentTokens = min (others + thread'.addedTokens) u64Max := by
  cases step with
  | record step =>
    cases step with
    | addTokens =>
      change saturatingAdd envelope.spentTokens _ = _
      rw [spent]
      unfold saturatingAdd
      simp only [addedTokens]
      omega
    | _ => exact spent
  | increment step => cases step <;> exact spent

/-- The counter is the number of increments that were counted, and it stays
below the limit. -/
theorem counts (others : Nat)
    (counted : envelope.currentIterations = others + thread.isCounted.toNat ∧
      envelope.currentIterations ≤ envelope.maxIterations) :
    envelope'.currentIterations = others + thread'.isCounted.toNat ∧
      envelope'.currentIterations ≤ envelope'.maxIterations := by
  cases step with
  | record step => cases step <;> exact counted
  | increment step =>
    cases step with
    | add below =>
      refine ⟨?_, below⟩
      have before : envelope.currentIterations = others + 0 := counted.1
      change envelope.currentIterations + 1 = others + 1
      omega
    | _ => exact counted

end

end BudgetStep

namespace BudgetThread

theorem Returned.added_eq (returned : thread.Returned) :
    thread.addedCost = thread.call.cost ∧ thread.addedTokens = thread.call.tokens := by
  cases thread with
  | incrementing stage => exact ⟨rfl, rfl⟩
  | recording cost tokens stage =>
    cases stage with
    | returned prevCost prevTokens result => exact ⟨rfl, rfl⟩
    | _ => exact returned.elim

theorem isIncrement_of_isCounted (counted : thread.isCounted = true) :
    thread.call.isIncrement = true := by
  cases thread with
  | recording cost tokens stage => cases counted
  | incrementing stage => rfl

end BudgetThread

/-! ## Every call can return -/

/-- The thread returns if the others wait. -/
def BudgetThread.CanReturn (envelope : BudgetEnvelope) (thread : BudgetThread) : Prop :=
  ∃ envelope' thread', Alone BudgetStep (envelope, thread) (envelope', thread') ∧ thread'.Returned

theorem BudgetStep.canReturn (step : BudgetStep envelope thread envelope' thread')
    (later : thread'.CanReturn envelope') : thread.CanReturn envelope := by
  obtain ⟨last, ended, alone, returned⟩ := later
  exact ⟨last, ended, alone.head step, returned⟩

theorem RecordStage.canReturn (envelope : BudgetEnvelope)
    (cost tokens : Nat) (stage : RecordStage) :
    (recording cost tokens stage).CanReturn envelope := by
  have read : ∀ (envelope : BudgetEnvelope) (prevCost prevTokens newCost : Nat),
      (recording cost tokens
        (.costLoaded prevCost prevTokens newCost)).CanReturn envelope := by
    intro envelope prevCost prevTokens newCost
    exact BudgetStep.canReturn (.record .readTokens) ⟨_, _, .refl, trivial⟩
  have checked : ∀ (envelope : BudgetEnvelope) (prevCost prevTokens : Nat),
      (recording cost tokens
        (.tokensAdded prevCost prevTokens)).CanReturn envelope := by
    intro envelope prevCost prevTokens
    exact BudgetStep.canReturn (.record .readCost) (read _ _ _ _)
  have counted : ∀ (envelope : BudgetEnvelope) (prevCost : Nat),
      (recording cost tokens (.costAdded prevCost)).CanReturn envelope := by
    intro envelope prevCost
    apply BudgetStep.canReturn (.record .loadTokens)
    exact BudgetStep.canReturn (.record .addTokens) (checked _ _ _)
  cases stage with
  | begun =>
    apply BudgetStep.canReturn (.record .loadCost)
    exact BudgetStep.canReturn (.record .addCost) (counted _ _)
  | addingCost seen =>
    -- one failed exchange shows the value to exchange
    apply BudgetStep.canReturn (.record .missCost)
    exact BudgetStep.canReturn (.record .addCost) (counted _ _)
  | costAdded prevCost => exact counted _ _
  | addingTokens prevCost seen =>
    apply BudgetStep.canReturn (.record .missTokens)
    exact BudgetStep.canReturn (.record .addTokens) (checked _ _ _)
  | tokensAdded prevCost prevTokens => exact checked _ _ _
  | costLoaded prevCost prevTokens newCost => exact read _ _ _ _
  | returned prevCost prevTokens result => exact ⟨_, _, .refl, trivial⟩

theorem IncrementStage.canReturn (envelope : BudgetEnvelope) (stage : IncrementStage) :
    (BudgetThread.incrementing stage).CanReturn envelope := by
  have current : (BudgetThread.incrementing
      (.counting envelope.currentIterations)).CanReturn envelope := by
    by_cases reached : envelope.maxIterations ≤ envelope.currentIterations
    · exact BudgetStep.canReturn (.increment (.refuse reached)) ⟨_, _, .refl, trivial⟩
    · exact BudgetStep.canReturn (.increment (.add (Nat.lt_of_not_le reached)))
        ⟨_, _, .refl, trivial⟩
  cases stage with
  | begun => exact BudgetStep.canReturn (.increment .load) current
  | counting seen =>
    by_cases reached : envelope.maxIterations ≤ seen
    · exact BudgetStep.canReturn (.increment (.refuse reached)) ⟨_, _, .refl, trivial⟩
    · exact BudgetStep.canReturn (.increment (.miss (Nat.lt_of_not_le reached))) current
  | counted iteration | refused error => exact ⟨_, _, .refl, trivial⟩

theorem BudgetThread.canReturn (envelope : BudgetEnvelope)
    (thread : BudgetThread) : thread.CanReturn envelope := by
  cases thread with
  | recording cost tokens stage =>
    exact RecordStage.canReturn envelope cost tokens stage
  | incrementing stage => exact IncrementStage.canReturn envelope stage

/-! ## Whole runs -/

section Runs

variable (reached : Reaches BudgetStep
  (budgetStart maxCost maxTokens maxIterations calls) system)

include reached

theorem budget_calls : system.threads.map BudgetThread.call = calls := by
  rw [reached.map_eq BudgetThread.call BudgetStep.call_eq]
  have same : BudgetThread.call ∘ BudgetThread.start = id := by
    funext call
    cases call with
    | record cost tokens | increment => rfl
  simp [budgetStart, same]

theorem budget_sound (member : thread ∈ system.threads) : thread.Sound system.shared := by
  refine (reached.each (fun before after => before.Fits → before.Grows after)
    (fun envelope thread => envelope.Fits ∧ thread.Sound envelope)
    BudgetStep.grows ?_ ?_ ?_ thread member).2
  · intro before after here grows held
    exact ⟨(grows held.1).fits, held.2.mono (grows held.1)⟩
  · intro before here after here' step held
    exact ⟨(step.grows held.1).fits, held.2.step step⟩
  · intro here inside
    obtain ⟨call, -, rfl⟩ := List.mem_map.mp inside
    refine ⟨⟨zero_le _, zero_le _⟩, ?_⟩
    cases call with
    | record cost tokens | increment => trivial

theorem budget_limits : system.shared.maxCost = maxCost ∧ system.shared.maxTokens = maxTokens ∧
    system.shared.maxIterations = maxIterations := by
  apply reached.shared (fun envelope => envelope.maxCost = maxCost ∧
    envelope.maxTokens = maxTokens ∧ envelope.maxIterations = maxIterations)
  · intro before here after here' step limits
    cases step with
    | record step | increment step => cases step <;> exact limits
  · exact ⟨rfl, rfl, rfl⟩

omit reached in
theorem total_start (idle : ∀ call, weight (BudgetThread.start call) = 0) :
    total weight (budgetStart maxCost maxTokens maxIterations calls) = 0 := by
  simp [total, budgetStart, idle, Function.comp_def]

theorem total_calls (agree : ∀ thread ∈ system.threads, weight thread = amount thread.call) :
    total weight system = (calls.map amount).sum := by
  rw [← budget_calls reached, List.map_map]
  exact congrArg List.sum (List.map_congr_left agree)

theorem budget_spentCost : system.shared.spentCost =
    min (total addedCost system) u64Max := by
  apply reached.balance addedCost
    (fun envelope added => envelope.spentCost = min added u64Max)
  · intro before here after here' others step spent
    exact step.adds_cost others spent
  · rw [total_start (fun call => by cases call <;> rfl)]
    rfl

theorem budget_spentTokens : system.shared.spentTokens =
    min (total addedTokens system) u64Max := by
  apply reached.balance addedTokens
    (fun envelope added => envelope.spentTokens = min added u64Max)
  · intro before here after here' others step spent
    exact step.adds_tokens others spent
  · rw [total_start (fun call => by cases call <;> rfl)]
    rfl

theorem budget_counted : system.shared.currentIterations =
      system.threads.countP isCounted ∧
    system.shared.currentIterations ≤ system.shared.maxIterations := by
  rw [← Count.sum_map_toNat]
  apply reached.balance (fun thread => thread.isCounted.toNat)
    (fun envelope counted => envelope.currentIterations = counted ∧
      envelope.currentIterations ≤ envelope.maxIterations)
  · intro before here after here' others step counted
    exact step.counts others counted
  · rw [total_start (fun call => by cases call <;> rfl)]
    exact ⟨rfl, zero_le _⟩

/-- Once every increment has returned, the limit or all of them were
counted. -/
theorem budget_oks (returned : ∀ thread ∈ system.threads, thread.Returned) :
    system.threads.countP isCounted =
      min (calls.countP BudgetCall.isIncrement) maxIterations := by
  obtain ⟨counter, below⟩ := budget_counted reached
  rw [(budget_limits reached).2.2] at below
  rw [← budget_calls reached, List.countP_map]
  have atMost : system.threads.countP isCounted ≤
      system.threads.countP (BudgetCall.isIncrement ∘ BudgetThread.call) := List.countP_mono_left
      (fun thread _ => BudgetThread.isIncrement_of_isCounted)
  by_cases full : maxIterations ≤ system.shared.currentIterations
  · omega
  · have same : system.threads.countP isCounted =
        system.threads.countP (BudgetCall.isIncrement ∘ BudgetThread.call) := by
      apply List.countP_congr
      intro thread member
      have sound := budget_sound reached member
      have ended := returned thread member
      cases thread with
      | recording cost tokens stage => rfl
      | incrementing stage =>
        cases stage with
        | begun | counting seen => exact ended.elim
        | counted iteration => rfl
        | refused error =>
          -- an increment is refused only at the limit
          refine (full ?_).elim
          rw [← (budget_limits reached).2.2]
          exact sound
    omega

end Runs

/-- However the steps of the calls are interleaved: the iteration counter never
passes its limit, a record whose own update leaves a total above its maximum
fails, and once all calls have returned the totals are the saturating sums and
as many increments succeeded as the limit allows.  The calls can always all
return. -/
theorem budget_interleaving (maxCost maxTokens maxIterations : Nat)
    (calls : List BudgetCall) (system : System BudgetEnvelope BudgetThread)
    (reached : Reaches BudgetStep (budgetStart maxCost maxTokens maxIterations calls) system) :
    system.shared.currentIterations ≤ maxIterations ∧
    (∀ thread ∈ system.threads, thread.Exceeds maxCost maxTokens → thread.Failed) ∧
    ((∀ thread ∈ system.threads, thread.Returned) → system.shared.spentCost =
        (calls.map BudgetCall.cost).foldl saturatingAdd 0 ∧ system.shared.spentTokens =
        (calls.map BudgetCall.tokens).foldl saturatingAdd 0 ∧
      system.threads.countP isCounted =
        min (calls.countP BudgetCall.isIncrement) maxIterations) ∧
    ∃ final, Reaches BudgetStep system final ∧ ∀ thread ∈ final.threads, thread.Returned := by
  obtain ⟨costLimit, tokenLimit, iterationLimit⟩ := budget_limits reached
  refine ⟨?_, ?_, ?_, exists_finished BudgetThread.canReturn system⟩
  · rw [← iterationLimit]
    exact (budget_counted reached).2
  · intro thread member exceeds
    apply (budget_sound reached member).failed
    rw [costLimit, tokenLimit]
    exact exceeds
  · intro returned
    refine ⟨?_, ?_, budget_oks reached returned⟩
    · rw [budget_spentCost reached, foldl_saturatingAdd _ (zero_le _),
        zero_add, total_calls reached]
      intro thread member
      exact (returned thread member).added_eq.1
    · rw [budget_spentTokens reached, foldl_saturatingAdd _ (zero_le _),
        zero_add, total_calls reached]
      intro thread member
      exact (returned thread member).added_eq.2

namespace BudgetSample

/-- Two records and an increment, of which the second record reads the cost
before the first one exchanges it. -/
def begun : System BudgetEnvelope BudgetThread :=
  budgetStart 5 100 1 [.record 3 10, .record 4 20, .increment]

def raced : System BudgetEnvelope BudgetThread :=
  { shared := { BudgetEnvelope.new 5 100 1 with
      spentCost := 7
      spentTokens := 30
      currentIterations := 1 }
    threads :=
      [.recording 3 10 (.returned 0 0 (some (.cost 7 5))),
        .recording 4 20 (.returned 3 10 (some (.cost 7 5))), .incrementing (.counted 1)] }

theorem begun_reaches_raced : Reaches BudgetStep begun raced := by
  refine .head (.turn [] _ (.record .loadCost)) ?_
  refine .head (.turn [_] _ (.record .loadCost)) ?_
  refine .head (.turn [] _ (.record .addCost)) ?_
  -- the second record has seen an old cost
  refine .head (.turn [_] _ (.record .missCost)) ?_
  refine .head (.turn [_] _ (.record .addCost)) ?_
  refine .head (.turn [_, _] _ (.increment .load)) ?_
  refine .head (.turn [_, _] _ (.increment (.add (by decide)))) ?_
  refine .head (.turn [] _ (.record .loadTokens)) ?_
  refine .head (.turn [] _ (.record .addTokens)) ?_
  refine .head (.turn [_] _ (.record .loadTokens)) ?_
  refine .head (.turn [_] _ (.record .addTokens)) ?_
  refine .head (.turn [] _ (.record .readCost)) ?_
  refine .head (.turn [] _ (.record .readTokens)) ?_
  refine .head (.turn [_] _ (.record .readCost)) ?_
  refine .head (.turn [_] _ (.record .readTokens)) ?_
  exact .refl

/-- Both records fail on the cost although each alone would have passed. -/
theorem raced_budget :
    raced.shared.spentCost = [3, 4, 0].foldl saturatingAdd 0 ∧
      raced.threads.countP isCounted = min 1 1 := by
  have holds := (budget_interleaving 5 100 1
    [.record 3 10, .record 4 20, .increment] raced begun_reaches_raced).2.2.1
  have returned : ∀ thread ∈ raced.threads, thread.Returned := by
    intro thread member
    simp only [raced, List.mem_cons, List.not_mem_nil, or_false] at member
    rcases member with rfl | rfl | rfl
    · trivial
    · trivial
    · trivial
  obtain ⟨cost, -, oks⟩ := holds returned
  exact ⟨cost, oks⟩

end BudgetSample

end FusionRouter

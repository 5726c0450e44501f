import FusionRouter.Lib.Interleaving
import FusionRouter.Providers.CircuitBreaker

/-!
# Calls behind circuit breakers

The calls that `ProviderRegistry` and `CircuitBreakingProvider` make on their
breakers.  Calls overlap: between being admitted and recording its outcome a
call waits for its provider, and a stream lives on in the hands of its
consumer.  Each call is a thread; what it does between two awaits is a step.
-/

namespace FusionRouter

open Interleaving

/-- A provider target, or a `CircuitBreakingProvider`, with its own breaker. -/
abbrev TargetId := Nat

/-- The registered targets and the default one. -/
structure ProviderRegistry where
  targets : List TargetId
  prefixes : List (List String × TargetId)
  defaultTarget : TargetId
deriving Repr, DecidableEq

namespace ProviderRegistry

def matchesModel (model : String) (prefixes : List String) : Bool :=
  prefixes.any (fun start => start.toList.isPrefixOf model.toList)

/-- `get_matching_targets`. -/
def matchingTargets (registry : ProviderRegistry) (model : String) : List TargetId :=
  let matched := (registry.prefixes.filter (fun entry => matchesModel model entry.1)).map Prod.snd
  if matched.isEmpty && decide (registry.prefixes.length ≤ 1) then
    [registry.defaultTarget]
  else matched

end ProviderRegistry

/-- The breakers of all targets, and the time. -/
structure Providers where
  breakers : TargetId → CircuitBreaker
  now : Nat

namespace Providers

variable (providers : Providers)

def set (target : TargetId) (breaker : CircuitBreaker) : Providers :=
  { providers with
    breakers := Function.update providers.breakers target breaker }

/-- `can_execute` of the target's breaker. -/
def canExecute (target : TargetId) : Bool × Providers :=
  let asked := (providers.breakers target).canExecute providers.now
  (asked.1, providers.set target asked.2)

def recordSuccess (target : TargetId) : Providers :=
  providers.set target (providers.breakers target).recordSuccess

def recordFailure (target : TargetId) : Providers :=
  providers.set target ((providers.breakers target).recordFailure providers.now)

/-- The filter of `select_targets` asks every registered target. -/
def selectTargets (targets : List TargetId) : Providers :=
  targets.foldl (fun asked target => (asked.canExecute target).2) providers

end Providers

inductive CallKind where
  | completion
  | stream
deriving Repr, DecidableEq

inductive RegistryStage where
  | idle
  | trying (targets : List TargetId)
  /-- Admitted by the target; `get_or_init` cannot fail. -/
  | requesting (target : TargetId) (rest : List TargetId)
  /-- The monitored stream is with its consumer. -/
  | streaming (target : TargetId) (seenError : Bool)
deriving Repr, DecidableEq

/-- What a stream has yielded; `saw_success` is set once it is a chunk. -/
inductive Yielded where
  | nothing
  | onlyErrors
  | chunk
deriving Repr, DecidableEq

def Yielded.afterError : Yielded → Yielded
  | .chunk => .chunk
  | _ => .onlyErrors

/-- Where a call of a `CircuitBreakingProvider` is. -/
inductive BreakingStage where
  | idle
  | requesting
  | streaming (yielded : Yielded)
deriving Repr, DecidableEq

inductive ProviderCall where
  | select
  | registry (kind : CallKind) (model : String) (stage : RegistryStage)
  | breaking (kind : CallKind) (target : TargetId) (stage : BreakingStage)
  | finished
deriving Repr, DecidableEq

inductive CallEvent where
  /-- The caller starts the call. -/
  | begun
  /-- The loop of the registry turns to its next target. -/
  | turned
  /-- The provider answered, or its stream was connected. -/
  | replied
  | failed
  /-- The stream yielded a chunk or an error. -/
  | chunk
  | error
  /-- The stream ended, or its consumer dropped it. -/
  | closed
  /-- The caller dropped the future of the call. -/
  | dropped
deriving Repr, DecidableEq

namespace ProviderCall

/-- The loop over the matching targets. -/
def turn (kind : CallKind) (model : String) (providers : Providers) :
    List TargetId → Providers × ProviderCall
  | [] => (providers, .finished)
  | target :: rest =>
    let asked := providers.canExecute target
    (asked.2,
      if asked.1 then .registry kind model (.requesting target rest)
      else .registry kind model (.trying rest))

def advanceRegistry (registry : ProviderRegistry) (kind : CallKind)
    (model : String) (providers : Providers) :
    RegistryStage → CallEvent → Option (Providers × ProviderCall)
  | .idle, .begun => some (providers,
      .registry kind model (.trying (registry.matchingTargets model)))
  | .trying targets, .turned => some (turn kind model providers targets)
  | .trying _, .dropped => some (providers, .finished)
  | .requesting target _, .replied =>
    match kind with
    | .completion => some (providers.recordSuccess target, .finished)
    | .stream => some (providers.recordSuccess target,
        .registry kind model (.streaming target false))
  | .requesting target rest, .failed => some (providers.recordFailure target,
      .registry kind model (.trying rest))
  | .requesting _ _, .dropped => some (providers, .finished)
  | .streaming target seenError, .chunk => some (providers,
      .registry kind model (.streaming target seenError))
  | .streaming target seenError, .error =>
    if seenError then some (providers, .registry kind model (.streaming target seenError))
    else some (providers.recordFailure target, .registry kind model (.streaming target true))
  | .streaming _ _, .closed => some (providers, .finished)
  | _, _ => none

/-- The effect of an event on a call of a `CircuitBreakingProvider`. -/
def advanceBreaking (kind : CallKind) (target : TargetId) (providers : Providers) :
    BreakingStage → CallEvent → Option (Providers × ProviderCall)
  | .idle, .begun =>
    let asked := providers.canExecute target
    some (asked.2,
      if asked.1 then .breaking kind target .requesting else .finished)
  | .requesting, .replied =>
    match kind with
    | .completion => some (providers.recordSuccess target, .finished)
    | .stream => some (providers, .breaking kind target (.streaming .nothing))
  | .requesting, .failed => some (providers.recordFailure target, .finished)
  | .requesting, .dropped => some (providers, .finished)
  | .streaming yielded, .chunk =>
    some (if yielded = .chunk then providers
      else providers.recordSuccess target,
      .breaking kind target (.streaming .chunk))
  | .streaming yielded, .error => some (providers.recordFailure target,
      .breaking kind target (.streaming yielded.afterError))
  | .streaming _, .closed => some (providers, .finished)
  | _, _ => none

def advance (registry : ProviderRegistry) (providers : Providers) :
    ProviderCall → CallEvent → Option (Providers × ProviderCall)
  | .select, .begun =>
    some (providers.selectTargets registry.targets, .finished)
  | .registry kind model stage, event =>
    advanceRegistry registry kind model providers stage event
  | .breaking kind target stage, event =>
    advanceBreaking kind target providers stage event
  | _, _ => none

/-- The call or its stream is still to come to an end. -/
def Outstanding : ProviderCall → Prop
  | .registry _ _ .idle => False
  | .registry _ _ _ => True
  | .breaking _ _ .idle => False
  | .breaking _ _ _ => True
  | _ => False

/-- The call was admitted by the target and has not recorded an outcome. -/
def owes (target : TargetId) : ProviderCall → Bool
  | .registry _ _ (.requesting asked _) => asked = target
  | .breaking _ asked .requesting => asked = target
  | .breaking _ asked (.streaming .nothing) => asked = target
  | _ => false

end ProviderCall

/-- A step of a call: some time passes and the event happens. -/
def ProviderStep (registry : ProviderRegistry)
    (allowed : Providers → ProviderCall → CallEvent → Prop)
    (before : Providers) (call : ProviderCall) (after : Providers) (next : ProviderCall) : Prop :=
  ∃ now event, before.now ≤ now ∧ allowed { before with now := now } call event ∧
    call.advance registry { before with now := now } event = some (after, next)

/-- The calls that a caller can make. -/
inductive ProviderRequest where
  | selectTargets
  | registry (kind : CallKind) (model : String)
  | breaking (kind : CallKind) (target : TargetId)
deriving Repr, DecidableEq

def ProviderRequest.call : ProviderRequest → ProviderCall
  | .selectTargets => .select
  | .registry kind model => .registry kind model .idle
  | .breaking kind target => .breaking kind target .idle

/-- Fresh breakers and calls that are still to be made. -/
structure ProviderStart where
  registry : ProviderRegistry
  failureThreshold : TargetId → Nat
  successThreshold : TargetId → Nat
  cooldownSecs : TargetId → Nat
  now : Nat
  requests : List ProviderRequest

namespace ProviderStart

def system (start : ProviderStart) : System Providers ProviderCall :=
  { shared :=
      { breakers := fun target => .new (start.failureThreshold target)
          (start.successThreshold target) (start.cooldownSecs target)
        now := start.now }
    threads := start.requests.map ProviderRequest.call }

end ProviderStart

/-- What does not lose a probe: `select_targets` is not called while a breaker
would send its probe, and while a breaker waits for its probe no call that it
admitted is dropped and no stream that has yielded nothing is closed. -/
def KeepsProbes (registry : ProviderRegistry) (providers : Providers)
    (call : ProviderCall) (event : CallEvent) : Prop :=
  (call = .select → ∀ target ∈ registry.targets,
    ¬ (providers.breakers target).SendsProbe providers.now) ∧
  (event = .dropped ∨ event = .closed → ∀ target,
    call.owes target = true → ¬ (providers.breakers target).Probing)

/-! ## What a step does to one breaker -/

/-- What an event of a call does to the breaker of a target, where the call may
owe that target an outcome. -/
inductive TargetStep (now : Nat) (before : CircuitBreaker) (owed : Bool) :
    CircuitBreaker → Bool → Prop
  | unchanged {owes : Bool} (kept : owed = true → owes = true) :
      TargetStep now before owed before owes
  | admitted : TargetStep now before owed (before.canExecute now).2 true
  | succeeded {owes : Bool} : TargetStep now before owed before.recordSuccess owes
  | failed {owes : Bool} :
      TargetStep now before owed (before.recordFailure now) owes
  | released {owes : Bool} (free : ¬ before.Probing) :
      TargetStep now before owed before owes

theorem TargetStep.dated (step : TargetStep now before owed after owes)
    (dated : before.Dated) : after.Dated := by
  cases step with
  | unchanged kept | released free => exact dated
  | admitted => exact CircuitBreaker.dated_canExecute dated now
  | succeeded => exact CircuitBreaker.dated_recordSuccess dated
  | failed => exact CircuitBreaker.dated_recordFailure dated now

theorem TargetStep.probing (step : TargetStep now before owed after owes)
    (held : before.Probing → 0 < others + owed.toNat) :
    after.Probing → 0 < others + owes.toNat := by
  intro probing
  cases step with
  | unchanged kept =>
    have some := held probing
    cases owed with
    | false => exact some.trans_le (Nat.le_add_right _ _)
    | true =>
      rw [kept rfl]
      exact some
  | admitted => exact Nat.succ_pos _
  | succeeded =>
    exact (CircuitBreaker.not_probing_recordSuccess before probing).elim
  | failed =>
    exact (CircuitBreaker.not_probing_recordFailure before now probing).elim
  | released free => exact (free probing).elim

namespace Providers

variable {providers : Providers}

/-- Asking breakers that send no probe changes none of them. -/
theorem selectTargets_eq (idle : ∀ target ∈ targets,
      ¬ (providers.breakers target).SendsProbe providers.now) :
    providers.selectTargets targets = providers := by
  induction targets with
  | nil => rfl
  | cons asked rest ih =>
    have same : (providers.canExecute asked).2 = providers := by
      unfold canExecute set
      dsimp only
      rw [CircuitBreaker.canExecute_of_not_sendsProbe
        (idle asked List.mem_cons_self), Function.update_eq_self]
    unfold selectTargets at ih ⊢
    rw [List.foldl_cons, same]
    exact ih (fun target member => idle target (List.mem_cons_of_mem _ member))

end Providers

variable {providers : Providers} {call : ProviderCall}

theorem targetStep_set {next : ProviderCall}
    (other : target ≠ asked → call.owes target = true → next.owes target = true)
    (own : TargetStep providers.now (providers.breakers asked) (call.owes
      asked) breaker (next.owes asked)) :
    TargetStep providers.now (providers.breakers target) (call.owes target)
      ((providers.set asked breaker).breakers target) (next.owes target) := by
  by_cases same : target = asked
  · subst same
    simp only [Providers.set, Function.update_self]
    exact own
  · simp only [Providers.set, Function.update_of_ne same]
    exact .unchanged (other same)

theorem targetStep_canExecute {admitted refused : ProviderCall}
    (quiet : ∀ target, call.owes target = false)
    (taken : admitted.owes asked = true) (target : TargetId) :
    TargetStep providers.now (providers.breakers target) (call.owes target)
      ((providers.canExecute asked).2.breakers target)
      ((if (providers.canExecute asked).1 then admitted else
        refused).owes target) := by
  apply targetStep_set
  · intro _ owed
    rw [quiet] at owed
    cases owed
  · cases reply : (providers.canExecute asked).1 with
    | true =>
      rw [if_pos rfl, taken]
      exact .admitted
    | false =>
      rw [CircuitBreaker.canExecute_refused reply]
      refine .unchanged ?_
      intro owed
      rw [quiet] at owed
      cases owed

section

variable {next : ProviderCall}

theorem targetStep_abandoned (kept : KeepsProbes registry providers call event)
    (ended : event = .dropped ∨ event = .closed) (target : TargetId) :
    TargetStep providers.now (providers.breakers target) (call.owes target)
      (providers.breakers target) (next.owes target) := by
  by_cases owed : call.owes target = true
  · exact .released (kept.2 ended target owed)
  · exact .unchanged (fun taken => (owed taken).elim)

theorem targetStep_registry
    (kept : KeepsProbes registry providers (.registry kind model stage) event)
    (advanced : ProviderCall.advanceRegistry registry kind model providers stage
      event = some (after, next)) (target : TargetId) :
    TargetStep providers.now (providers.breakers target)
      ((ProviderCall.registry kind model stage).owes target)
      (after.breakers target) (next.owes target) := by
  have nothing : ∀ {owes : Bool}, false = true → owes = true := by
    intro owes absurd
    cases absurd
  cases stage with
  | idle =>
    cases event with
    | begun =>
      cases advanced
      exact .unchanged nothing
    | _ => cases advanced
  | trying targets =>
    cases event with
    | turned =>
      cases targets with
      | nil =>
        cases advanced
        exact .unchanged nothing
      | cons asked rest =>
        cases advanced
        apply targetStep_canExecute
        · intro target
          rfl
        · exact decide_eq_true rfl
    | dropped =>
      cases advanced
      exact .unchanged nothing
    | _ => cases advanced
  | requesting asked rest =>
    have elsewhere : target ≠ asked →
        (ProviderCall.registry kind model (.requesting asked rest)).owes
          target = true → next.owes target = true := by
      intro other owed
      exact (other (of_decide_eq_true owed).symm).elim
    cases event with
    | replied =>
      cases kind with
      | completion | stream =>
        cases advanced
        exact targetStep_set elsewhere .succeeded
    | failed =>
      cases advanced
      exact targetStep_set elsewhere .failed
    | dropped =>
      cases advanced
      exact targetStep_abandoned kept (Or.inl rfl) target
    | _ => cases advanced
  | streaming asked seenError =>
    cases event with
    | chunk | closed =>
      cases advanced
      exact .unchanged nothing
    | error =>
      cases seenError with
      | true =>
        cases advanced
        exact .unchanged nothing
      | false =>
        cases advanced
        exact targetStep_set (fun _ => nothing) .failed
    | _ => cases advanced

theorem targetStep_breaking
    (kept : KeepsProbes registry providers (.breaking kind asked stage) event)
    (advanced : ProviderCall.advanceBreaking kind asked providers stage event =
      some (after, next)) (target : TargetId) :
    TargetStep providers.now (providers.breakers target)
      ((ProviderCall.breaking kind asked stage).owes target)
      (after.breakers target) (next.owes target) := by
  have elsewhere : ∀ {stage : BreakingStage}, target ≠ asked →
      (ProviderCall.breaking kind asked stage).owes target = true → next.owes target = true := by
    intro stage other owed
    cases stage with
    | idle => cases owed
    | requesting => exact (other (of_decide_eq_true owed).symm).elim
    | streaming yielded =>
      cases yielded with
      | nothing => exact (other (of_decide_eq_true owed).symm).elim
      | onlyErrors | chunk => cases owed
  cases stage with
  | idle =>
    cases event with
    | begun =>
      cases advanced
      apply targetStep_canExecute
      · intro target
        rfl
      · exact decide_eq_true rfl
    | _ => cases advanced
  | requesting =>
    cases event with
    | replied =>
      cases kind with
      | completion =>
        cases advanced
        exact targetStep_set elsewhere .succeeded
      | stream =>
        cases advanced
        exact .unchanged id
    | failed =>
      cases advanced
      exact targetStep_set elsewhere .failed
    | dropped =>
      cases advanced
      exact targetStep_abandoned kept (Or.inl rfl) target
    | _ => cases advanced
  | streaming yielded =>
    cases event with
    | chunk =>
      cases advanced
      by_cases before : yielded = .chunk
      · rw [if_pos before, before]
        exact .unchanged id
      · rw [if_neg before]
        exact targetStep_set elsewhere .succeeded
    | error =>
      cases advanced
      exact targetStep_set elsewhere .failed
    | closed =>
      cases advanced
      exact targetStep_abandoned kept (Or.inr rfl) target
    | _ => cases advanced

theorem targetStep_of_step
    (step : ProviderStep registry (KeepsProbes registry) before call after next)
    (target : TargetId) :
    ∃ now, TargetStep now (before.breakers target) (call.owes target)
      (after.breakers target) (next.owes target) := by
  obtain ⟨now, event, -, kept, advanced⟩ := step
  refine ⟨now, ?_⟩
  cases call with
  | select =>
    cases event with
    | begun =>
      cases advanced
      rw [Providers.selectTargets_eq (kept.1 rfl)]
      exact .unchanged id
    | _ => cases advanced
  | registry kind model stage => exact targetStep_registry kept advanced target
  | breaking kind asked stage => exact targetStep_breaking kept advanced target
  | finished => cases advanced

end

/-! ## Whole runs -/

section Runs

variable {start : ProviderStart}
variable (reached : Reaches
  (ProviderStep start.registry (KeepsProbes start.registry)) start.system
  system) (target : TargetId)

include reached

theorem reached_dated : (system.shared.breakers target).Dated := by
  apply reached.shared (fun providers => (providers.breakers target).Dated)
  · intro before call after next step dated
    obtain ⟨now, moved⟩ := targetStep_of_step step target
    exact moved.dated dated
  · intro opened
    cases opened

theorem reached_probing :
    (system.shared.breakers target).Probing →
      0 < total (fun call => (call.owes target).toNat) system := by
  apply reached.balance (fun call => (call.owes target).toNat)
    (fun providers owed => (providers.breakers target).Probing → 0 < owed)
  · intro before call after next others step held
    obtain ⟨now, moved⟩ := targetStep_of_step step target
    exact moved.probing held
  · rintro ⟨halfOpen, -⟩
    cases halfOpen

end Runs

theorem owes_of_not_outstanding (quiet : ¬ call.Outstanding) : call.owes target = false := by
  cases call with
  | select | finished => rfl
  | registry kind model stage | breaking kind asked stage =>
    cases stage with
    | idle => rfl
    | _ => exact (quiet trivial).elim

/-- In a run that loses no probe, a breaker that has cooled down admits the next
call whenever nothing is outstanding. -/
theorem breaker_admits (start : ProviderStart) (system : System Providers ProviderCall)
    (reached : Reaches (ProviderStep start.registry (KeepsProbes start.registry)) start.system
      system) (quiet : ∀ call ∈ system.threads, ¬ call.Outstanding) (target : TargetId) (now : Nat)
    (cooled : (system.shared.breakers target).Cooled now) :
    ((system.shared.breakers target).canExecute now).1 = true := by
  apply CircuitBreaker.canExecute_of_cooled (reached_dated reached target) cooled
  intro probing
  have owed := reached_probing reached target probing
  have none : total (fun call => (call.owes target).toNat) system = 0 := by
    apply List.sum_eq_zero
    intro weight member
    obtain ⟨call, inside, rfl⟩ := List.mem_map.mp member
    rw [owes_of_not_outstanding (quiet call inside)]
    rfl
  omega

namespace BreakerSample

/-- One target with a cooldown of 30 seconds that opens at the first failure. -/
def start (requests : List ProviderRequest) : ProviderStart :=
  { registry :=
      { targets := [0]
        prefixes := []
        defaultTarget := 0 }
    failureThreshold := fun _ => 1
    successThreshold := fun _ => 1
    cooldownSecs := fun _ => 30
    now := 0
    requests := requests }

def fresh : Providers :=
  (start []).system.shared

/-- A call fails, and after the cooldown its probe is on its way. -/
def opened : Providers :=
  { (({ fresh with now := 1 }.canExecute 0).2) with now := 2 }.recordFailure 0

def probing : Providers :=
  ({ opened with now := 31000000000 }.canExecute 0).2

def recovered : Providers :=
  { probing with now := 32000000000 }.recordSuccess 0

/-- The first call has failed, and the stream of the second one was the probe. -/
def recoveredSystem : System Providers ProviderCall :=
  { shared := recovered
    threads := [.finished, .finished] }

def recovering : ProviderStart :=
  start [.breaking .completion 0, .breaking .stream 0]

theorem recovered_reached :
    Reaches (ProviderStep recovering.registry (KeepsProbes recovering.registry)) recovering.system
      recoveredSystem := by
  have fine : ∀ {providers kind target stage event}, event ≠ .dropped →
      event ≠ .closed → KeepsProbes recovering.registry providers
        (.breaking kind target stage) event := by
    intro providers kind target stage event kept running
    refine ⟨?_, ?_⟩
    · intro select
      cases select
    · rintro (dropped | closed)
      · exact (kept dropped).elim
      · exact (running closed).elim
  refine .head (.turn [] _ ⟨1, .begun, by decide, fine (by decide) (by decide), rfl⟩) ?_
  refine .head (.turn [] _ ⟨2, .failed, by decide, fine (by decide) (by decide), rfl⟩) ?_
  refine .head (.turn [_] _ ⟨31000000000, .begun, by decide, fine (by decide) (by decide), rfl⟩) ?_
  refine .head (.turn [_] _ ⟨31000000000, .replied, le_rfl, fine (by decide) (by decide), rfl⟩) ?_
  refine .head (.turn [_] _ ⟨32000000000, .chunk, by decide, fine (by decide) (by decide), rfl⟩) ?_
  refine .head (.turn [_] _ ⟨32000000000, .closed, le_rfl, ⟨?_, ?_⟩, rfl⟩) ?_
  · intro select
    cases select
  · intro _ target owed
    cases owed
  exact .refl

theorem finished_quiet : ∀ call ∈ [ProviderCall.finished, .finished], ¬ call.Outstanding := by
  intro call member outstanding
  simp only [List.mem_cons, List.not_mem_nil, or_false, or_self] at member
  subst member
  exact outstanding

theorem recovered_admits :
    ((recoveredSystem.shared.breakers 0).canExecute 40000000000).1 =
      true := by
  apply breaker_admits recovering recoveredSystem recovered_reached finished_quiet
  intro lastFailure since
  have opened : (recovered.breakers 0).lastFailureTime = some 2 := rfl
  rw [show recoveredSystem.shared = recovered from rfl, opened] at since
  cases since
  decide

/-- `select_targets` has asked the breaker of the only target. -/
def lockedSystem : System Providers ProviderCall :=
  { shared := { probing with now := 31000000000 }
    threads := [.finished, .finished] }

/-- The filter of `select_targets` takes the probe and never gives it back. -/
theorem selected_target_locked :
    ¬ ∀ (start : ProviderStart) (system : System Providers ProviderCall),
      Reaches (ProviderStep start.registry (fun _ _ _ => True)) start.system system →
      (∀ call ∈ system.threads, ¬ call.Outstanding) → ∀ (target : TargetId) (now : Nat),
        (system.shared.breakers target).Cooled now →
          ((system.shared.breakers target).canExecute now).1 = true := by
  intro admits
  have reached : Reaches (ProviderStep
      (start [.registry .completion "gpt-4o", .selectTargets]).registry (fun _ _ _ => True))
      (start [.registry .completion "gpt-4o", .selectTargets]).system
      lockedSystem := by
    refine .head (.turn [] _ ⟨1, .begun, by decide, trivial, rfl⟩) ?_
    refine .head (.turn [] _ ⟨1, .turned, le_rfl, trivial, rfl⟩) ?_
    refine .head (.turn [] _ ⟨2, .failed, by decide, trivial, rfl⟩) ?_
    refine .head (.turn [] _ ⟨2, .turned, le_rfl, trivial, rfl⟩) ?_
    refine .head (.turn [_] _ ⟨31000000000, .begun, by decide, trivial, rfl⟩) ?_
    exact .refl
  have admitted := admits _ lockedSystem reached finished_quiet 0 100000000000
    (by
    intro lastFailure since
    have opened : (lockedSystem.shared.breakers 0).lastFailureTime = some 2 := rfl
    rw [opened] at since
    cases since
    decide)
  have refused : ((lockedSystem.shared.breakers 0).canExecute 100000000000).1 = false := rfl
  rw [refused] at admitted
  cases admitted

end BreakerSample

end FusionRouter

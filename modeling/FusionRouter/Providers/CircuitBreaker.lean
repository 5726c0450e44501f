import FusionRouter.Types.Json

/-!
# The circuit breaker

A breaker opens after enough failures, lets a single probe through once its
cooldown has passed, and closes again after enough probes that succeed.  Times
are nanoseconds of a monotonic clock.  Here each operation is one step; the
steps of which it consists are taken apart in `BreakerThreads`.
-/

namespace FusionRouter

inductive CircuitState where
  | closed
  | opened
  | halfOpen
deriving Repr, DecidableEq

structure CircuitBreaker where
  failureThreshold : Nat
  successThreshold : Nat
  cooldownSecs : Nat
  state : CircuitState
  failureCount : Nat
  successCount : Nat
  lastFailureTime : Option Nat
  probeInFlight : Bool
deriving Repr, DecidableEq

namespace CircuitBreaker

def new (failureThreshold successThreshold cooldownSecs : Nat) :
    CircuitBreaker :=
  { failureThreshold := failureThreshold
    successThreshold := successThreshold
    cooldownSecs := cooldownSecs
    state := .closed
    failureCount := 0
    successCount := 0
    lastFailureTime := none
    probeInFlight := false }

section

variable (breaker : CircuitBreaker)

/-- `Duration::from_secs(cooldown_secs)`. -/
def cooldown : Nat :=
  breaker.cooldownSecs * 1000000000

/-- The next value of a `u32` counter. -/
def increment (count : Nat) : Nat :=
  (count + 1) % 2 ^ 32

def canExecute (now : Nat) : Bool × CircuitBreaker :=
  match breaker.state with
  | .closed => (true, breaker)
  | .opened =>
    match breaker.lastFailureTime with
    | none => (false, breaker)
    | some lastFailure =>
      if breaker.cooldown ≤ now - lastFailure then
        (true,
          { breaker with
            state := .halfOpen
            successCount := 0
            probeInFlight := true })
      else (false, breaker)
  | .halfOpen =>
    if breaker.probeInFlight then (false, breaker)
    else (true, { breaker with probeInFlight := true })

def recordSuccess : CircuitBreaker :=
  match breaker.state with
  | .halfOpen =>
    if breaker.successThreshold ≤ increment breaker.successCount then
      { breaker with
        state := .closed
        successCount := increment breaker.successCount
        failureCount := 0
        probeInFlight := false }
    else
      { breaker with
        successCount := increment breaker.successCount
        probeInFlight := false }
  | .closed => { breaker with failureCount := 0 }
  | .opened => breaker

def recordFailure (now : Nat) : CircuitBreaker :=
  match breaker.state with
  | .halfOpen =>
    { breaker with
      state := .opened
      lastFailureTime := some now
      probeInFlight := false }
  | .closed =>
    if breaker.failureThreshold ≤ increment breaker.failureCount then
      { breaker with
        state := .opened
        failureCount := increment breaker.failureCount
        lastFailureTime := some now }
    else { breaker with failureCount := increment breaker.failureCount }
  | .opened => breaker

/-- The cooldown since the failure that opened the breaker has passed. -/
def Cooled (now : Nat) : Prop :=
  ∀ lastFailure, breaker.lastFailureTime = some lastFailure → breaker.cooldown ≤ now - lastFailure

/-- Half-open with the probe on its way: nobody is admitted. -/
def Probing : Prop :=
  breaker.state = .halfOpen ∧ breaker.probeInFlight = true

/-- `can_execute` would send the probe. -/
def SendsProbe (now : Nat) : Prop :=
  (breaker.state = .opened ∧ ∃ lastFailure, breaker.lastFailureTime = some lastFailure ∧
        breaker.cooldown ≤ now - lastFailure) ∨
    (breaker.state = .halfOpen ∧ breaker.probeInFlight = false)

/-- An open breaker knows when it was opened. -/
def Dated : Prop :=
  breaker.state = .opened → breaker.lastFailureTime ≠ none

end

variable {breaker : CircuitBreaker}

theorem dated_of_ne (notOpen : breaker.state ≠ .opened) : breaker.Dated := by
  intro opened
  exact (notOpen opened).elim

theorem canExecute_of_not_sendsProbe (idle : ¬ breaker.SendsProbe now) :
    (breaker.canExecute now).2 = breaker := by
  unfold canExecute
  split
  · rfl
  next opened =>
    split
    · rfl
    next lastFailure dated =>
      split
      next cooled =>
        exact (idle (Or.inl ⟨opened, lastFailure, dated, cooled⟩)).elim
      · rfl
  next halfOpen =>
    split
    · rfl
    next free =>
      exact (idle (Or.inr ⟨halfOpen, by simpa using free⟩)).elim

theorem canExecute_refused (refused : (breaker.canExecute now).1 = false) :
    (breaker.canExecute now).2 = breaker := by
  unfold canExecute at refused ⊢
  split at refused
  · cases refused
  · split at refused
    · rfl
    · split at refused
      · cases refused
      next waiting =>
        rw [if_neg waiting]
  · split at refused
    next taken =>
      rw [if_pos taken]
    · cases refused

theorem dated_canExecute (dated : breaker.Dated) (now : Nat) :
    (breaker.canExecute now).2.Dated := by
  unfold canExecute
  split
  · exact dated
  · split
    · exact dated
    · split
      · exact dated_of_ne CircuitState.noConfusion
      · exact dated
  next halfOpen =>
    split
    · exact dated
    · apply dated_of_ne
      simp [halfOpen]

theorem dated_recordSuccess (dated : breaker.Dated) :
    breaker.recordSuccess.Dated := by
  unfold recordSuccess
  split
  next halfOpen =>
    split
    · exact dated_of_ne CircuitState.noConfusion
    · apply dated_of_ne
      simp [halfOpen]
  next closed =>
    apply dated_of_ne
    simp [closed]
  · exact dated

theorem dated_recordFailure (dated : breaker.Dated) (now : Nat) :
    (breaker.recordFailure now).Dated := by
  unfold recordFailure
  split
  · intro _ undated
    cases undated
  next closed =>
    split
    · intro _ undated
      cases undated
    · apply dated_of_ne
      simp [closed]
  · exact dated

theorem not_probing_recordSuccess (breaker : CircuitBreaker) : ¬ breaker.recordSuccess.Probing := by
  unfold recordSuccess
  rintro ⟨halfOpen, probe⟩
  split at halfOpen
  · split at halfOpen
    · cases halfOpen
    next below =>
      simp_all
  · simp_all
  · simp_all

theorem not_probing_recordFailure (breaker : CircuitBreaker) (now : Nat) :
    ¬ (breaker.recordFailure now).Probing := by
  unfold recordFailure
  rintro ⟨halfOpen, -⟩
  split at halfOpen
  · cases halfOpen
  next closed =>
    split at halfOpen
    · cases halfOpen
    · rw [show breaker.state = .halfOpen from halfOpen] at closed
      cases closed
  next opened =>
    rw [halfOpen] at opened
    cases opened

theorem canExecute_of_cooled (dated : breaker.Dated)
    (cooled : breaker.Cooled now) (free : ¬ breaker.Probing) :
    (breaker.canExecute now).1 = true := by
  unfold canExecute
  split
  · rfl
  next opened =>
    split
    next undated => exact (dated opened undated).elim
    next lastFailure since => rw [if_pos (cooled lastFailure since)]
  next halfOpen =>
    split
    next probe => exact (free ⟨halfOpen, probe⟩).elim
    · rfl

end CircuitBreaker

end FusionRouter

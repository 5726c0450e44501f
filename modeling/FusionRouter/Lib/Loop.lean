import Mathlib.Logic.Relation

/-!
# Loops with an early exit

A loop body either goes around again or stops with a result.  The loop runs
with a bound on its rounds; the rules below take what one round does to what
the whole loop does.
-/

namespace Loop

open Relation

variable {σ ρ : Type}

/-- How one round of a loop ends. -/
inductive Control (σ ρ : Type) where
  | again (state : σ)
  | stop (result : ρ)

def run (body : σ → Control σ ρ) : Nat → σ → Option ρ
  | 0, _ => none
  | fuel + 1, state =>
    match body state with
    | .again following => run body fuel following
    | .stop result => some result

/-- One round that goes on. -/
def Again (body : σ → Control σ ρ) (state following : σ) : Prop :=
  body state = .again following

/-- The state after a number of rounds that all go on. -/
def after (body : σ → Control σ ρ) : Nat → σ → Option σ
  | 0, state => some state
  | rounds + 1, state =>
    match body state with
    | .again following => after body rounds following
    | .stop _ => none

variable {body : σ → Control σ ρ} {state : σ}

theorem after_sound {rounds : Nat} {last : σ} (reached : after body rounds state = some last) :
    ReflTransGen (Again body) state last := by
  induction rounds generalizing state with
  | zero =>
    cases reached
    exact .refl
  | succ rounds ih =>
    unfold after at reached
    split at reached
    next following round => exact ReflTransGen.head round (ih reached)
    · cases reached

theorem run_sound :
    ∀ {fuel : Nat} {state : σ} {result : ρ}, run body fuel state = some result →
        ∃ last, ReflTransGen (Again body) state last ∧ body last = .stop result := by
  intro fuel
  induction fuel with
  | zero =>
    intro state result finished
    cases finished
  | succ fuel ih =>
    intro state result finished
    unfold run at finished
    split at finished
    next following round =>
      obtain ⟨last, rounds, stopped⟩ := ih finished
      exact ⟨last, ReflTransGen.head round rounds, stopped⟩
    next value round =>
      cases finished
      exact ⟨state, .refl, round⟩

/-- A loop ends when a measure goes down in every round that goes on, as long
as the rounds keep an invariant. -/
theorem run_terminates (invariant : σ → Prop) (measure : σ → Nat)
    (preserved : ∀ state following, invariant state → body state = .again
      following → invariant following)
    (decreases : ∀ state following, invariant state → body state = .again
      following → measure following < measure state) (holds : invariant state) :
    ∃ result, run body (measure state + 1) state = some result := by
  suffices general : ∀ fuel state, invariant state → measure state < fuel →
      ∃ result, run body fuel state = some result from general _ state holds (Nat.lt_succ_self _)
  intro fuel
  induction fuel with
  | zero =>
    intro state holds small
    cases small
  | succ fuel ih =>
    intro state holds small
    cases round : body state with
    | stop result => exact ⟨result, by simp [run, round]⟩
    | again following =>
      have smaller := decreases state following holds round
      obtain ⟨result, finished⟩ := ih following (preserved state following holds round) (by omega)
      exact ⟨result, by simpa [run, round] using finished⟩

/-- The state a number of steps later. -/
def walk (next : σ → Option σ) : Nat → σ → Option σ
  | 0, state => some state
  | steps + 1, state => (next state).bind (walk next steps)

theorem walk_sound {step : σ → σ → Prop} {next : σ → Option σ}
    (sound : ∀ state following, next state = some following → step state
      following) {steps : Nat} {start : σ} (walked : walk next steps start = some state) :
    ReflTransGen step start state := by
  induction steps generalizing start with
  | zero =>
    cases walked
    exact .refl
  | succ steps ih =>
    obtain ⟨following, first, rest⟩ := Option.bind_eq_some_iff.mp walked
    exact .head (sound start following first) (ih rest)

/-- Do all states of a run pass a check, up to an end within `fuel` steps? -/
def checks (next : σ → Option σ) (check : σ → Bool) : Nat → σ → Bool
  | 0, _ => false
  | fuel + 1, state =>
    check state &&
      match next state with
      | some following => checks next check fuel following
      | none => true

/-- A checked run passes its check in every state that steps lead to, when
`next` computes the steps. -/
theorem checks_sound {step : σ → σ → Prop} {next : σ → Option σ}
    (computes : ∀ state following, step state following → next state = some
      following) {check : σ → Bool} {fuel : Nat} {start : σ}
    (checked : checks next check fuel start = true)
    (steps : ReflTransGen step start state) : check state = true := by
  induction fuel generalizing start with
  | zero => cases checked
  | succ fuel ih =>
    unfold checks at checked
    rw [Bool.and_eq_true] at checked
    obtain ⟨here, later⟩ := checked
    rcases ReflTransGen.cases_head steps with rfl | ⟨following, step, rest⟩
    · exact here
    · rw [computes _ _ step] at later
      exact ih later rest

end Loop

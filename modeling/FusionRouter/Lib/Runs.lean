import Mathlib.Algebra.Ring.Nat
import Mathlib.Data.List.Induction

/-!
# Runs of a machine

A machine answers inputs one after another and keeps a state.  `Always` speaks
of every state of a run, `Along` of every input and the state it meets, and
`visits` lists these.  Three
rules go from one step to whole runs: an invariant that a step keeps exactly
under a condition, two conditions that agree as long as an invariant holds, and
a run in which the inputs of others can be left out.
-/

namespace Runs

open List

variable {σ τ ι ρ : Type}

section

variable (step : σ → ι → ρ × σ)

/-- The state after some inputs. -/
def after (start : σ) (inputs : List ι) : σ :=
  inputs.foldl (fun state input => (step state input).2) start

/-- The answers to the inputs. -/
def replies : σ → List ι → List ρ
  | _, [] => []
  | state, input :: inputs =>
    (step state input).1 :: replies (step state input).2 inputs

/-- The answers to the inputs that are somebody's own. -/
def observed (own : ι → Bool) : σ → List ι → List ρ
  | _, [] => []
  | state, input :: inputs =>
    if own input then
      (step state input).1 :: observed own (step state input).2 inputs
    else observed own (step state input).2 inputs

/-- Every state of the run, the first and the last one included. -/
def Always (Holds : σ → Prop) (start : σ) (inputs : List ι) : Prop :=
  ∀ done, done <+: inputs → Holds (after step start done)

/-- Every input of the run, at the state that it meets. -/
def Along (Holds : σ → ι → Prop) (start : σ) (inputs : List ι) : Prop :=
  ∀ done input, done ++ [input] <+: inputs → Holds (after step start done) input

end

/-- Two machines that are given the same inputs. -/
def both {υ : Type} (left : σ → ι → ρ × σ) (right : τ → ι → υ × τ) :
    σ × τ → ι → (ρ × υ) × (σ × τ) := fun state input =>
  (((left state.1 input).1, (right state.2 input).1),
    ((left state.1 input).2, (right state.2 input).2))

theorem after_both {υ : Type} (left : σ → ι → ρ × σ) (right : τ → ι → υ × τ)
    (start : σ × τ) (inputs : List ι) :
    after (both left right) start inputs =
      (after left start.1 inputs, after right start.2 inputs) := by
  induction inputs generalizing start with
  | nil => rfl
  | cons input inputs induction => exact induction _

/-- A condition on the first of two machines. -/
theorem along_both_iff {υ : Type} (left : σ → ι → ρ × σ)
    (right : τ → ι → υ × τ) {Holds : σ → ι → Prop} {start : σ × τ} {inputs : List ι} :
    Along (both left right) (fun states input => Holds states.1 input) start
        inputs ↔ Along left Holds start.1 inputs := by
  unfold Along
  simp only [after_both]

section

variable (step : σ → ι → ρ × σ)

theorem after_concat (start : σ) (inputs : List ι) (input : ι) :
    after step start (inputs ++ [input]) = (step (after step start inputs) input).2 := by
  simp [after]

theorem replies_append (start : σ) (first second : List ι) :
    replies step start (first ++ second) = replies step start first ++
        replies step (after step start first) second := by
  induction first generalizing start with
  | nil => rfl
  | cons input first induction =>
    exact congrArg (cons _) (induction _)

variable {inputs : List ι} {Holds First Second : σ → ι → Prop} {start : σ}

theorem concat_prefix_concat_iff {done : List ι} {input last : ι} :
    done ++ [input] <+: inputs ++ [last] ↔
      done ++ [input] <+: inputs ∨ done = inputs ∧ input = last := by
  rw [prefix_concat_iff, or_comm]
  refine or_congr_right ?_
  constructor
  · intro same
    obtain ⟨front, lasts⟩ := append_inj' same rfl
    exact ⟨front, singleton_inj.mp lasts⟩
  · rintro ⟨rfl, rfl⟩
    rfl

theorem along_concat_iff {last : ι} :
    Along step Holds start (inputs ++ [last]) ↔ Along step Holds start inputs ∧
        Holds (after step start inputs) last := by
  unfold Along
  simp only [concat_prefix_concat_iff, or_imp, forall_and]
  refine and_congr_right (fun _ => ?_)
  constructor
  · intro holds
    exact holds inputs last ⟨rfl, rfl⟩
  · rintro holds done input ⟨rfl, rfl⟩
    exact holds

theorem along_cons_iff {first : ι} :
    Along step Holds start (first :: inputs) ↔
      Holds start first ∧ Along step Holds (step start first).2 inputs := by
  constructor
  · intro along
    refine ⟨along [] first (by simp), ?_⟩
    intro done input earlier
    exact along (first :: done) input (cons_prefix_cons.mpr ⟨rfl, earlier⟩)
  · rintro ⟨now, along⟩ done input earlier
    cases done with
    | nil =>
      obtain ⟨rfl, -⟩ := cons_prefix_cons.mp earlier
      exact now
    | cons other done =>
      obtain ⟨rfl, rest⟩ := cons_prefix_cons.mp earlier
      exact along done input rest

theorem Along.imp {step : σ → ι → ρ × σ} {Weaker : σ → ι → Prop}
    (along : Along step Holds start inputs)
    (implies : ∀ state input, input ∈ inputs → Holds state input → Weaker state
      input) : Along step Weaker start inputs := by
  intro done input earlier
  exact implies _ _ (earlier.subset (by simp)) (along done input earlier)

theorem along_and_iff :
    Along step (fun state input => First state input ∧ Second state input) start inputs ↔
      Along step First start inputs ∧ Along step Second start inputs := by
  unfold Along
  simp only [forall_and]

/-- An invariant that a step keeps exactly under a condition. -/
theorem always_iff {Holds : σ → Prop} {Kept : σ → ι → Prop}
    (kept_iff : ∀ state input, Holds state → (Holds (step state input).2 ↔ Kept state input)) :
    Always step Holds start inputs ↔ Holds start ∧ Along step Kept start inputs := by
  induction inputs using reverseRecOn with
  | nil => simp [Always, Along, after]
  | append_singleton inputs last induction =>
    have split : Always step Holds start (inputs ++ [last]) ↔ Always step Holds start inputs ∧
          Holds (step (after step start inputs) last).2 := by
      simp only [Always, prefix_concat_iff, or_imp, forall_and, forall_eq, after_concat]
      exact And.comm
    have one : Always step Holds start inputs →
        (Holds (step (after step start inputs) last).2 ↔ Kept (after step start inputs) last) := by
      intro always
      exact kept_iff _ _ (always inputs prefix_rfl)
    rw [split, and_congr_right one, induction, along_concat_iff, and_assoc]

theorem always_of_step {Holds : σ → Prop}
    (kept : ∀ state input, Holds state → Holds (step state input).2)
    (initially : Holds start) : Always step Holds start inputs := by
  have kept_iff : ∀ state input, Holds state → (Holds (step state input).2 ↔ True) :=
    fun state input holds => iff_of_true (kept state input holds) trivial
  exact (always_iff step kept_iff).mpr ⟨initially, fun _ _ _ => trivial⟩

theorem always_and_iff {First Second : σ → Prop} :
    Always step (fun state => First state ∧ Second state) start inputs ↔
      Always step First start inputs ∧ Always step Second start inputs := by
  unfold Always
  simp only [forall_and]

/-- Two conditions that agree as long as an invariant holds, which one of them
keeps. -/
theorem along_congr (Holds : σ → Prop)
    (same : ∀ state input, Holds state → (First state input ↔ Second state input))
    (kept : ∀ state input, Holds state → Second state input → Holds (step state
      input).2) (initially : Holds start) :
    Along step First start inputs ↔ Along step Second start inputs := by
  induction inputs generalizing start with
  | nil => simp [Along]
  | cons input inputs induction =>
    rw [along_cons_iff, along_cons_iff, same start input initially]
    refine and_congr_right (fun fine => ?_)
    exact induction (kept start input initially fine)

/-- What a step counts, it uses up. -/
theorem countP_replies_add {ε : Type} (step : σ → ι → List ε × σ)
    (counted : ε → Bool) (left : σ → Nat) (spends : ∀ state input,
      (step state input).1.countP counted + left (step state input).2 =
        left state) (start : σ) (inputs : List ι) :
    (replies step start inputs).flatten.countP counted +
        left (after step start inputs) = left start := by
  induction inputs generalizing start with
  | nil => exact Nat.zero_add _
  | cons input inputs induction =>
    have now := spends start input
    have rest := induction (step start input).2
    change _ + left (after step (step start input).2 inputs) = _
    rw [replies, flatten_cons, countP_append]
    omega

/-- The inputs of others can be left out where they keep what relates the state
to that of the run without them. -/
theorem observed_eq_replies {own : ι → Bool} (Related : σ → σ → Prop) {Fine : σ → ι → Prop}
    (mine : ∀ state alone input, Related state alone → own input = true → Fine
      state input → (step state input).1 = (step alone input).1 ∧ Related (step
      state input).2 (step alone input).2)
    (others : ∀ state alone input, Related state alone → own input = false →
      Fine state input → Related (step state input).2 alone) {alone : σ}
    (related : Related start alone) (fine : Along step Fine start inputs) :
    observed step own start inputs = replies step alone (inputs.filter own) := by
  induction inputs generalizing start alone with
  | nil => rfl
  | cons input inputs induction =>
    obtain ⟨now, later⟩ := (along_cons_iff step).mp fine
    cases whose : own input with
    | true =>
      obtain ⟨same, kept⟩ := mine start alone input related whose now
      simp [observed, replies, whose, same, induction kept later]
    | false =>
      have kept := others start alone input related whose now
      simp [observed, whose, induction kept later]

end

end Runs

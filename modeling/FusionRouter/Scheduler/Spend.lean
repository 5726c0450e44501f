import FusionRouter.Scheduler.FinalStates

/-!
# Accounting of tokens

The usage of a result is added to the totals of the run and to the envelope
when the result is folded.  A run that stops inside a batch has not folded the
results behind the one that stopped it.
-/

namespace FusionRouter

open RunState

def resultTokens (result : NodeExecutionResult) : Nat :=
  (result.usage.map Usage.totalTokens).getD 0

def Event.tokens : Event → Nat
  | .called _ _ => 0
  | .returned _ result => resultTokens result

/-- The tokens of all results `execute_node` returned. -/
def spentTokens (log : List Event) : Nat :=
  (log.map Event.tokens).sum

theorem spentTokens_append (left right : List Event) :
    spentTokens (left ++ right) = spentTokens left + spentTokens right := by
  simp [spentTokens]

def recordedTokens (envelope : Option BudgetEnvelope) : Nat :=
  (envelope.map BudgetEnvelope.spentTokens).getD 0

/-- The totals of a state account for these events. -/
structure Accounts (envelope : Option BudgetEnvelope) (counted : List Event)
    (state : RunState) : Prop where
  total : state.totalTokens = spentTokens counted
  present : state.envelope.isSome = envelope.isSome
  recorded : envelope.isSome = true → recordedTokens state.envelope =
    recordedTokens envelope + spentTokens counted

variable {envelope : Option BudgetEnvelope} {id : Uuid}

theorem Accounts.charged (accounts : Accounts envelope counted state)
    (small : recordedTokens envelope + spentTokens counted + resultTokens result ≤ u64Max) :
    Accounts envelope (counted ++ [.returned id result]) (state.charged setup id result) := by
  obtain ⟨total, present, recorded⟩ := accounts
  have tokens : spentTokens (counted ++ [.returned id result]) =
      spentTokens counted + resultTokens result := by
    simp [spentTokens, Event.tokens]
  unfold RunState.charged
  cases usage : result.usage with
  | none =>
    have none : resultTokens result = 0 := by simp [resultTokens, usage]
    exact ⟨by rw [tokens, none, total, Nat.add_zero], present,
      fun some => by rw [tokens, none, recorded some, Nat.add_zero]⟩
  | some used =>
    have used_eq : resultTokens result = used.totalTokens := by
      simp [resultTokens, usage]
    rw [used_eq] at small tokens
    have sum : (state.totalTokens + used.totalTokens) % 2 ^ 64 =
        spentTokens counted + used.totalTokens := by
      have fits : spentTokens counted + used.totalTokens ≤ u64Max := by omega
      rw [total]
      exact Nat.mod_eq_of_lt (fits.trans_lt (by decide))
    unfold charge
    cases held : state.envelope with
    | none =>
      refine ⟨by rw [tokens]; exact sum, by simpa [held] using present, ?_⟩
      intro some
      rw [← present, held] at some
      cases some
    | some current =>
      have isSome : envelope.isSome = true := by
        rw [← present, held]
        rfl
      have before := recorded isSome
      rw [held] at before
      refine ⟨by rw [tokens]; exact sum, by simp [isSome], fun _ => ?_⟩
      rw [tokens, ← Nat.add_assoc, ← before]
      refine saturatingAdd_of_lt ?_
      change recordedTokens (Option.some current) + used.totalTokens ≤ _
      omega

theorem Accounts.settles (accounts : Accounts envelope counted state)
    (settles : Settles setup state id result flow) : Accounts envelope counted flow.state := by
  obtain ⟨total, present, recorded⟩ := accounts
  have same : flow.state.envelope = state.envelope → Accounts envelope counted flow.state := by
    intro same
    exact ⟨settles.frame.2.trans total, same ▸ present, same ▸ recorded⟩
  cases settles with
  | continues after _ _ _ counts =>
    rcases counts with ⟨none, rfl⟩ | ⟨held, counted, some, step, rfl⟩
    · exact ⟨total, none ▸ present, none ▸ recorded⟩
    · rw [some] at present recorded
      unfold BudgetEnvelope.incrementIteration at step
      split at step
      · cases step
      · cases step
        exact ⟨total, present, recorded⟩
  | unknown | conditional | exhausted | exits | plain | lost | iterates
  | capped | failed | other => exact same rfl

/-- The log splits into what the totals account for and the results that are
still to be folded. -/
def Accounted (envelope : Option BudgetEnvelope) : Phase × RunState → Prop
  | (.idle, state) => Accounts envelope state.log state
  | (.folding _ rest, state) => ∃ counted uncounted,
      state.log = counted ++ uncounted ∧ LogsOf rest uncounted ∧ Accounts envelope counted state

theorem Accounts.fold (setup : RunSetup) {uncounted : List Event}
    (accounts : Accounts envelope counted state) (logs : LogsOf ((id, result) :: rest) uncounted)
    (small : recordedTokens envelope + spentTokens (counted ++ uncounted) ≤ u64Max) :
    ∃ more left, counted ++ uncounted = more ++ left ∧ LogsOf rest left ∧
      Accounts envelope more (state.charged setup id result) := by
  rw [spentTokens_append] at small
  cases logs with
  | @returned _ events _ _ logs =>
    refine ⟨counted ++ [.returned id result], events, by simp, logs, accounts.charged ?_⟩
    have tokens : spentTokens (.returned id result :: events) =
        resultTokens result + spentTokens events := by
      simp [spentTokens, Event.tokens]
    omega
  | cancelled _ failure unused logs =>
    have same : state.charged setup id result = state := by
      simp [RunState.charged, unused]
    refine ⟨counted, uncounted, rfl, logs, ?_⟩
    rw [same]
    exact accounts

theorem Accounted.fold (setup : RunSetup) {batchIds : List Uuid}
    (accounted : Accounted envelope (.folding batchIds ((id, result) :: rest),
      state)) (small : recordedTokens envelope + spentTokens state.log ≤ u64Max) :
    ∃ more left, state.log = more ++ left ∧ LogsOf rest left ∧
      Accounts envelope more (state.charged setup id result) := by
  obtain ⟨counted, uncounted, split, logs, accounts⟩ := accounted
  rw [split] at small ⊢
  exact accounts.fold setup logs small

/-- The accounts are kept along a run whose tokens fit a `u64`. -/
theorem Reachable.accounted (reached : Reachable setup envelope config) :
    recordedTokens envelope + spentTokens config.2.log ≤ u64Max → Accounted envelope config := by
  induction reached with
  | refl =>
    intro _
    exact ⟨rfl, rfl, fun _ => rfl⟩
  | tail _ step holds =>
    intro small
    cases step with
    | spin =>
      obtain ⟨total, present, recorded⟩ := holds small
      exact ⟨total, present, recorded⟩
    | @done batchIds state =>
      obtain ⟨counted, uncounted, log, logs, accounts⟩ := holds small
      cases logs
      rw [List.append_nil] at log
      change Accounts envelope state.log state
      rw [log]
      exact accounts
    | @batch state dispatched calls _ _ started =>
      obtain ⟨-, -, rfl⟩ := dispatch_ok started
      have starts : spentTokens (calls.flatMap (Call.startEvents setup)) = 0 := by
        refine List.sum_eq_zero ?_
        intro tokens member
        obtain ⟨event, inside, rfl⟩ := List.mem_map.mp member
        obtain ⟨call, -, start⟩ := List.mem_flatMap.mp inside
        cases event with
        | called => rfl
        | returned => exact (Call.not_returned_mem_startEvents start).elim
      simp only [runCalls, markBatch, entered, spentTokens_append] at small
      obtain ⟨total, present, recorded⟩ := holds
        (show recordedTokens envelope + spentTokens state.log ≤ u64Max by
          omega)
      have same : spentTokens (state.log ++
          calls.flatMap (Call.startEvents setup)) = spentTokens state.log := by
        rw [spentTokens_append, starts, Nat.add_zero]
      exact ⟨_, _, rfl, LogsOf.calls setup calls, same ▸ total, present, same ▸ recorded⟩
    | @fold batchIds id result rest state following processed =>
      have log := processResult_next_log processed
      simp only [log] at small
      obtain ⟨more, left, moved, logs, charged⟩ := (holds small).fold setup small
      exact ⟨more, left, by rw [log, moved], logs, charged.settles (processResult_next processed)⟩

/-- The run stopped inside a batch, by a breach of the envelope or at an
exhausted iteration cap, with these results still to be folded. -/
def StopsBefore (setup : RunSetup) (envelope : Option BudgetEnvelope)
    (last : RunState) (rest : List (Uuid × NodeExecutionResult)) : Prop :=
  ∃ batchIds id result state,
    Reachable setup envelope (.folding batchIds ((id, result) :: rest), state) ∧
      (processResult setup batchIds state id result = .leave last ∨
        ∃ outcome, processResult setup batchIds state id result = .finish outcome last)

/-- The totals of a returned outcome and of the envelope account for every
result of the run, except for those a stop inside a batch left unfolded. -/
theorem tokens_accounted (setup : RunSetup) (envelope : Option BudgetEnvelope)
    (fuel : Nat) (outcome : ExecutionOutcome) (last : RunState)
    (finished : runInner setup envelope fuel = some (.ok outcome, last))
    (small : recordedTokens envelope + spentTokens last.log ≤ u64Max) :
    ∃ counted uncounted, last.log = counted ++ uncounted ∧
      outcome.totalTokens = spentTokens counted ∧
      (envelope.isSome = true → recordedTokens last.envelope =
        recordedTokens envelope + spentTokens counted) ∧
      (uncounted = [] ∨ ∃ rest, StopsBefore setup envelope last rest ∧ LogsOf rest uncounted) := by
  obtain ⟨config, reached, ends⟩ := runInner_ends finished
  have log := ends.log
  simp only at log
  rw [log] at small ⊢
  have accounted := reached.accounted small
  cases ends with
  | finished | stuck =>
    obtain ⟨total, -, recorded⟩ := accounted
    exact ⟨_, [], (List.append_nil _).symm, total, recorded, Or.inl rfl⟩
  | @left batchIds id result rest state _ processed =>
    obtain ⟨more, left, moved, logs, charged⟩ := accounted.fold setup small
    obtain ⟨total, -, recorded⟩ := charged.settles (processResult_leave processed)
    exact ⟨more, left, moved, total, recorded, Or.inr ⟨rest,
      ⟨batchIds, id, result, state, reached, Or.inl processed⟩, logs⟩⟩
  | @breached batchIds id result rest state _ _ processed =>
    obtain ⟨more, left, moved, logs, charged⟩ := accounted.fold setup small
    obtain ⟨error, -, returned⟩ := processResult_finish processed
    have stop : StopsBefore setup envelope last rest :=
      ⟨batchIds, id, result, state, reached, Or.inr ⟨_, processed⟩⟩
    cases returned
    exact ⟨more, left, moved, charged.total, charged.recorded, Or.inr ⟨rest, stop, logs⟩⟩

def smallEnvelope : BudgetEnvelope :=
  .new 1000000000 5 10

theorem pair_breach_accounted :
    ∃ outcome last, runInner pairSetup (some smallEnvelope) 10 = some (.ok outcome, last) ∧
      ∃ counted uncounted, last.log = counted ++ uncounted ∧
        outcome.totalTokens = spentTokens counted ∧
        ((some smallEnvelope).isSome = true → recordedTokens last.envelope =
          recordedTokens (some smallEnvelope) + spentTokens counted) ∧ (uncounted = [] ∨ ∃ rest,
          StopsBefore pairSetup (some smallEnvelope) last rest ∧ LogsOf rest uncounted) := by
  have run : (runInner pairSetup (some smallEnvelope) 10).map
      (fun result => (result.1.isOk, spentTokens result.2.log)) = some (true, 40) := by
    decide
  obtain ⟨⟨result, last⟩, finished, facts⟩ := Option.map_eq_some_iff.mp run
  obtain ⟨ok, tokens⟩ := Prod.mk.inj facts
  cases result with
  | error error => cases ok
  | ok outcome =>
    refine ⟨outcome, last, finished, tokens_accounted pairSetup _ 10 outcome last finished ?_⟩
    rw [tokens]
    decide

/-- The first result breaches the envelope; the second one has returned too and
is not counted. -/
theorem pair_breach_understates :
    ¬ ∀ (setup : RunSetup) (envelope : Option BudgetEnvelope) (fuel : Nat)
        (outcome : ExecutionOutcome) (last : RunState),
      runInner setup envelope fuel = some (.ok outcome, last) →
        recordedTokens envelope + spentTokens last.log ≤ u64Max →
          outcome.totalTokens = spentTokens last.log ∧
            (envelope.isSome = true → recordedTokens last.envelope =
              recordedTokens envelope + spentTokens last.log) := by
  intro accounted
  have run : (runInner pairSetup (some smallEnvelope) 10).map
      (fun result => (result.1.toOption.map ExecutionOutcome.totalTokens,
        spentTokens result.2.log)) = some (some 20, 40) := by
    decide
  obtain ⟨⟨result, last⟩, finished, facts⟩ := Option.map_eq_some_iff.mp run
  obtain ⟨total, tokens⟩ := Prod.mk.inj facts
  cases result with
  | error error => cases total
  | ok outcome =>
    have twenty : outcome.totalTokens = 20 := Option.some.inj total
    have equal := (accounted pairSetup _ 10 outcome last finished (by rw [tokens]; decide)).1
    rw [twenty, tokens] at equal
    cases equal

end FusionRouter

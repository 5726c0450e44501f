import FusionRouter.AgentState.Interchange
import FusionRouter.AgentState.Runner

/-!
# What the event log explains

The log explains the state when its patches, applied to the initial state, give
what the store loads.  A step that commits and is left before its log entry is
written breaks this, unless its patch changes nothing.
-/

namespace FusionRouter

namespace AgentState

def replay (initial : JsonValue) (patches : List JsonValue) : Except StateError JsonValue :=
  patches.foldlM mergeValues initial

namespace HostedRunner

variable {σ : Type}

def loggedPatches (hosted : HostedRunner σ) : List JsonValue :=
  hosted.runner.log.entries.map EventLogEntry.patch

/-- The store loads the initial state with the logged patches applied. -/
def Explained (store : StateStore σ) (initial : ExecutionState) (hosted : HostedRunner σ) : Prop :=
  ∃ state, store.load hosted.runner.store = some state ∧
    replay initial.value hosted.loggedPatches = .ok state.value

section

variable (host : Host) (store : StateStore σ) (hosted : HostedRunner σ)
  (input : StepInput)

/-- A commit of this proposal gets into the log: the store returns a state,
and the tool has been cancelled or is affordable, succeeds and stays within the
budget. -/
def Logs (request : ChatRequest) (step : AgentStep) : Prop :=
  (store.commit hosted.runner.store step.patch).1.isOk = true ∧
    (isCancelled input.cancellation 2 = true ∨
      hosted.runner.config.exceeded (hosted.runner.predicted request) = none ∧
        (host.tools hosted.actions step.action).isOk = true ∧ hosted.runner.config.exceeded
          (hosted.runner.charged request step.usage) = none)

/-- A proposal that merges into a valid state can be read back, and gets into
the log or changes nothing. -/
def Accounts (fits : JsonValue → Bool) : Prop :=
  ∀ request step prev merged, Proposes host store hosted input request step prev →
    mergeValid (store.skill hosted.runner.store) prev step.patch = .ok merged → fits merged = true ∧
      (Logs host store hosted input request step ∨ merged = prev.value)

end

end HostedRunner

/-- The store returns the state that it has merged. -/
structure StateStore.Persists {σ : Type} (store : StateStore σ)
    (fits : JsonValue → Bool) : Prop extends store.Refines fits where
  commit_ok : ∀ state patch nextState, (store.commit state patch).1 = .ok nextState →
      ∃ current, store.load state = some current ∧
        mergeValid (store.skill state) current patch = .ok nextState.value

theorem InMemoryStateStore.persists :
    InMemoryStateStore.asStore.Persists (fun _ => true) where
  toRefines := refines
  commit_ok store patch nextState committed := by
    refine ⟨store.state, rfl, ?_⟩
    change (commit store patch).1 = _ at committed
    unfold commit at committed
    split at committed
    · cases committed
    next merged merging =>
      cases committed
      exact merging

theorem ExecutionState.new_ok {value : JsonValue}
    (made : ExecutionState.new value = .ok state) : state.value = value := by
  unfold ExecutionState.new at made
  split at made
  · cases made
    rfl
  · cases made

theorem SqliteStateStore.persists :
    SqliteStateStore.asStore.Persists readable where
  toRefines := refines
  commit_ok store patch nextState committed := by
    change (commit store patch).1 = _ at committed
    unfold commit at committed
    split at committed
    · cases committed
    next current loaded =>
      refine ⟨current, ?_, ?_⟩
      · change (loadInner store).toOption = _
        rw [loaded]
        rfl
      · split at committed
        · cases committed
        next merged merging =>
          rw [ExecutionState.new_ok committed]
          exact merging

namespace HostedRunner

variable {σ : Type} {store : StateStore σ} {hosted after : HostedRunner σ}
  {step : AgentStep}

theorem Proposes.accounts_iff (proposes : Proposes host store hosted input request step prev) :
    Accounts host store hosted input fits ↔
      ∀ merged, mergeValid (store.skill hosted.runner.store) prev step.patch =
        .ok merged → fits merged = true ∧
          (Logs host store hosted input request step ∨ merged = prev.value) := by
  constructor
  · intro accounts merged
    exact accounts request step prev merged proposes
  · intro each request' step' prev' merged other
    cases proposes.admitted.symm.trans other.admitted
    cases proposes.replied.symm.trans other.replied
    cases proposes.loaded.symm.trans other.loaded
    exact each merged

theorem accounts_of_not_proposes (none : ∀ request step prev,
      ¬ Proposes host store hosted input request step prev) :
    Accounts host store hosted input fits := by
  intro request step prev merged proposes
  exact (none request step prev proposes).elim

/-- The log of a runner keeps all of its entries. -/
def Unbounded (hosted : HostedRunner σ) : Prop :=
  hosted.runner.log.maxEntries = none

theorem loggedPatches_logged (unbounded : hosted.Unbounded) (entry : EventLogEntry) :
    (hosted.logged entry).loggedPatches = hosted.loggedPatches ++ [entry.patch] := by
  unfold Unbounded at unbounded
  simp [loggedPatches, logged, EventLog.push, unbounded]

theorem Commits.isOk
    (commits : Commits host store hosted input request step prev nextState
      next) : (store.commit hosted.runner.store step.patch).1.isOk = true := by
  rw [commits.commit]
  rfl

section

variable (persists : store.Persists fits)
  (explained : Explained store initial hosted)
include persists explained

theorem explained_iff_of_unlogged (proposes : Proposes host store hosted input request step prev)
    (unlogged : ¬ Logs host store hosted input request step)
    (stored : after.runner.store = (store.commit hosted.runner.store step.patch).2)
    (log : after.loggedPatches = hosted.loggedPatches) :
    Explained store initial after ↔ Accounts host store hosted input fits := by
  obtain ⟨state, held, replayed⟩ := explained
  cases proposes.loaded.symm.trans held
  have next := persists.load_commit hosted.runner.store step.patch
  rw [proposes.loaded, Option.bind_some, StateStore.advance] at next
  rw [proposes.accounts_iff]
  unfold Explained
  rw [stored, next, log, replayed]
  cases mergeValid (store.skill hosted.runner.store) prev step.patch with
  | error error =>
    refine iff_of_true ⟨prev, rfl, rfl⟩ ?_
    intro merged impossible
    cases impossible
  | ok merged =>
    simp only [unlogged, false_or, Except.ok.injEq, forall_eq']
    by_cases readable : fits merged = true
    · simp [readable, eq_comm]
    · simp [readable]

theorem explained_iff_of_logged
    (commits : Commits host store hosted input request step prev nextState next)
    (logs : Logs host store hosted input request step) (stored : after.runner.store = next)
    (log : after.loggedPatches = hosted.loggedPatches ++ [step.patch.value]) :
    Explained store initial after ↔ Accounts host store hosted input fits := by
  obtain ⟨state, held, replayed⟩ := explained
  cases commits.loaded.symm.trans held
  have committed : (store.commit hosted.runner.store step.patch).1 =
      .ok nextState := by rw [commits.commit]
  obtain ⟨current, found, merging⟩ := persists.commit_ok _ _ _ committed
  cases commits.loaded.symm.trans found
  have loads := persists.load_commit hosted.runner.store step.patch
  rw [commits.loaded, Option.bind_some, StateStore.advance, merging, commits.commit] at loads
  have extended : replay initial.value (hosted.loggedPatches ++ [step.patch.value]) =
        mergeValues prev.value step.patch.value := by
    unfold replay at replayed ⊢
    rw [List.foldlM_append, replayed]
    change (mergeValues _ step.patch.value >>= pure) = _
    rw [bind_pure]
  rw [commits.toProposes.accounts_iff]
  unfold Explained
  rw [stored, loads, log, extended,
    mergeValues_ok_iff.mpr (mergeValid_ok_iff.mp merging).1, merging]
  simp only [logs, true_or, and_true, Except.ok.injEq, forall_eq']
  by_cases readable : fits nextState.value = true
  · simp [readable]
  · simp [readable]

/-- One step keeps the log in accord with the state exactly when it accounts
for its commit. -/
theorem explained_step_iff (unbounded : hosted.Unbounded) :
    Explained store initial (HostedRunner.step host store hosted input).2 ↔
      Accounts host store hosted input fits := by
  have exit := step_exit host store hosted input
  generalize HostedRunner.step host store hosted input = stepped at exit
  obtain ⟨report, after⟩ := stepped
  cases exit with
  | refused stopped =>
    refine iff_of_true explained (accounts_of_not_proposes ?_)
    intro request step prev proposes
    cases stopped.symm.trans proposes.admitted
  | unanswered admitted failed =>
    refine iff_of_true explained (accounts_of_not_proposes ?_)
    intro request step prev proposes
    cases admitted.symm.trans proposes.admitted
    cases failed.symm.trans proposes.replied
  | withdrawn admitted replied cancelled =>
    refine iff_of_true explained (accounts_of_not_proposes ?_)
    intro request step prev proposes
    cases cancelled.symm.trans proposes.continues
  | rejected proposes commit =>
    refine explained_iff_of_unlogged persists explained proposes ?_ ?_ rfl
    · rintro ⟨isOk, -⟩
      rw [commit] at isOk
      cases isOk
    · rw [commit]
  | interrupted commits cancelled =>
    exact explained_iff_of_logged persists explained commits
      ⟨commits.isOk, Or.inl cancelled⟩ rfl (loggedPatches_logged unbounded _)
  | overdrawn commits proceeds beyond =>
    refine explained_iff_of_unlogged persists explained commits.toProposes ?_ ?_ rfl
    · rintro ⟨-, cancelled | ⟨affordable, -⟩⟩
      · cases cancelled.symm.trans proceeds
      · cases beyond.symm.trans affordable
    · rw [commits.commit]
  | toolFailed acts failed =>
    refine explained_iff_of_unlogged persists explained acts.toProposes ?_ ?_ rfl
    · rintro ⟨-, cancelled | ⟨-, executed, -⟩⟩
      · cases cancelled.symm.trans acts.proceeds
      · rw [failed] at executed
        cases executed
    · rw [acts.commit]
      rfl
  | exceeded acts executed beyond =>
    refine explained_iff_of_unlogged persists explained acts.toProposes ?_ ?_ rfl
    · rintro ⟨-, cancelled | ⟨-, -, within⟩⟩
      · cases cancelled.symm.trans acts.proceeds
      · cases beyond.symm.trans within
    · rw [acts.commit]
      rfl
  | completed acts executed within =>
    refine explained_iff_of_logged persists explained acts.toCommits
      ⟨acts.toCommits.isOk, Or.inr ⟨acts.affordable, ?_, within⟩⟩ rfl
      (loggedPatches_logged unbounded _)
    rw [executed]
    rfl

end

theorem unbounded_step (unbounded : hosted.Unbounded) (input : StepInput) :
    (HostedRunner.step host store hosted input).2.Unbounded := by
  have exit := step_exit host store hosted input
  generalize HostedRunner.step host store hosted input = stepped at exit
  obtain ⟨report, after⟩ := stepped
  have pushed : ∀ entry, (hosted.runner.log.push entry).maxEntries = none := by
    intro entry
    unfold Unbounded at unbounded
    simp [EventLog.push, unbounded]
  cases exit with
  | interrupted | completed => exact pushed _
  | _ => exact unbounded

theorem always_explained_iff (persists : store.Persists fits)
    (unbounded : start.Unbounded) (explained : Explained store initial start) :
    Runs.Always (HostedRunner.step host store) (Explained store initial) start
        inputs ↔ Runs.Along (HostedRunner.step host store)
        (fun hosted input => Accounts host store hosted input fits) start
        inputs := by
  have keeps : Runs.Always (HostedRunner.step host store) Unbounded start
      inputs := by
    refine Runs.always_of_step _ ?_ unbounded
    intro hosted input kept
    exact unbounded_step kept input
  have step_iff : ∀ hosted input, hosted.Unbounded ∧ Explained store initial hosted →
        ((HostedRunner.step host store hosted input).2.Unbounded ∧ Explained store initial
              (HostedRunner.step host store hosted input).2 ↔
          Accounts host store hosted input fits) := by
    rintro hosted input ⟨kept, explained⟩
    rw [explained_step_iff persists explained kept]
    exact and_iff_right (unbounded_step kept input)
  refine (and_iff_right keeps).symm.trans ?_
  rw [← Runs.always_and_iff, Runs.always_iff _ step_iff]
  exact and_iff_right ⟨unbounded, explained⟩

theorem explained_new (skill : SkillSpec) (config : RunnerConfig)
    (loaded : store.load state = some initial) :
    Explained store initial (HostedRunner.new (AgentRunner.new skill state config)) :=
  ⟨initial, loaded, rfl⟩

theorem unbounded_new (skill : SkillSpec) (state : σ) (config : RunnerConfig) :
    (HostedRunner.new (AgentRunner.new skill state config)).Unbounded := rfl

/-- In which runs the log explains the state of either store after every
step. -/
theorem log_explains_state_iff (host : Host) (skill : SkillSpec)
    (config : RunnerConfig) (inputs : List StepInput) :
    (∀ memory : InMemoryStateStore, Runs.Always (HostedRunner.step host InMemoryStateStore.asStore)
          (Explained InMemoryStateStore.asStore memory.state)
          (.new (.new skill memory config)) inputs ↔
        Runs.Along (HostedRunner.step host InMemoryStateStore.asStore)
          (fun hosted input => Accounts host InMemoryStateStore.asStore hosted
            input (fun _ => true)) (.new (.new skill memory config)) inputs) ∧
      ∀ (database : SqliteStateStore) (initial : ExecutionState),
        SqliteStateStore.asStore.load database = some initial →
        (Runs.Always (HostedRunner.step host SqliteStateStore.asStore)
            (Explained SqliteStateStore.asStore initial)
            (.new (.new skill database config)) inputs ↔
          Runs.Along (HostedRunner.step host SqliteStateStore.asStore)
            (fun hosted input => Accounts host SqliteStateStore.asStore hosted
              input SqliteStateStore.readable) (.new (.new skill database config)) inputs) := by
  refine ⟨?_, ?_⟩
  · intro memory
    exact always_explained_iff InMemoryStateStore.persists
      (unbounded_new skill memory config) (explained_new skill config rfl)
  · intro database initial loaded
    exact always_explained_iff SqliteStateStore.persists
      (unbounded_new skill database config) (explained_new skill config loaded)

end HostedRunner

namespace LogSample

open RunnerSample StoreSample

def works : Host :=
  host (.ok observation)

def breaks : Host :=
  host (.error "tool failed")

/-- A tool that works lets the runner log what it has committed. -/
theorem works_explained :
    Runs.Always (HostedRunner.step works SqliteStateStore.asStore)
      (HostedRunner.Explained SqliteStateStore.asStore initial)
      (start database) [input] := by
  refine ((HostedRunner.log_explains_state_iff works skill config [input]).2
    database initial ExchangeSample.loads).mpr ?_
  refine (Runs.along_cons_iff _).mpr ⟨?_, by simp [Runs.Along]⟩
  intro request step prev merged proposes merging
  have replied : Except.ok proposal = Except.ok step := proposes.replied
  cases replied
  cases ExchangeSample.loads.symm.trans proposes.loaded
  have counts : mergeValid skill initial counted = .ok counted.value := rfl
  cases counts.symm.trans merging
  refine ⟨SqliteStateStore.readable_iff.mpr ⟨by decide, rfl⟩, Or.inl ?_⟩
  refine ⟨?_, Or.inr ⟨rfl, rfl, rfl⟩⟩
  have same : SameState (ExchangeSample.memory, database) :=
    ⟨rfl, SqliteStateStore.loadInner_of_load ExchangeSample.loads⟩
  change (SqliteStateStore.commit database counted).1.isOk = true
  rw [(same.commit_ok counts).2]
  rfl

/-- A tool that fails leaves a committed patch out of the log. -/
theorem breaks_not_explained :
    ¬ Runs.Always (HostedRunner.step breaks InMemoryStateStore.asStore)
      (HostedRunner.Explained InMemoryStateStore.asStore initial)
      (start ExchangeSample.memory) [input] := by
  intro always
  obtain ⟨state, loaded, replayed⟩ := always [input] List.prefix_rfl
  have counts : some ⟨counted.value⟩ = some state := loaded
  have empty : Except.ok initial.value = Except.ok state.value := replayed
  cases counts
  cases empty

end LogSample

end AgentState

end FusionRouter

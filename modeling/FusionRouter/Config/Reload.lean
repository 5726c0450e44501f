import FusionRouter.Config.Subscribers

/-!
# Reloading the configuration

A reload lets every subscriber stage its part of the new configuration, and
then lets every subscriber apply what it has staged.  Each access is a step of
its own, and the steps of the callers come in any order; a caller that does not
hold the lock waits for it.
-/

namespace FusionRouter.Reload

open List
open Subscriber (prepare_applied prepare_staged commit_staged commit_applied)

variable {Id Config Error : Type} {subs : Id → Subscriber Config Error}

structure ConfigSnapshot (Config : Type) where
  generation : Nat
  config : Config

/-- The manager, with the cells of its subscribers. -/
structure ConfigManager (subs : Id → Subscriber Config Error) where
  inner : ConfigSnapshot Config
  generation : Nat
  subscribers : List Id
  cells : (id : Id) → (subs id).Cells

/-- A reload that has returned: the manager before and after it, and the file as
it was read, parsed and validated. -/
structure ReloadRecord (subs : Id → Subscriber Config Error) where
  before : ConfigManager subs
  after : ConfigManager subs
  loaded : Except Error Config
  result : Except Error Nat

/-- Where a reload is behind the lock, by its next access. -/
inductive ReloadStage (Id Config : Type) where
  | reading
  | numbering (config : Config)
  | preparing (snapshot : ConfigSnapshot Config) (rest : List Id)
  | committing (snapshot : ConfigSnapshot Config) (rest : List Id)
  | publishing (snapshot : ConfigSnapshot Config)
  | counting (snapshot : ConfigSnapshot Config)

inductive ReloadPhase (Id Config Error : Type) where
  | running (stage : ReloadStage Id Config)
  | leaving (loaded : Except Error Config) (result : Except Error Nat)

/-- The manager, the holder of the lock, the manager that the last reload has
left, and the reloads that have returned. -/
structure ReloadCells (subs : Id → Subscriber Config Error) where
  manager : ConfigManager subs
  holder : Option (Nat × ReloadPhase Id Config Error)
  found : ConfigManager subs
  history : List (ReloadRecord subs)

namespace ConfigManager

/-- `ordered.sort_by_key(|s| s.priority())`. -/
def ordered (manager : ConfigManager subs) : List Id :=
  manager.subscribers.insertionSort fun left right =>
    (subs left).priority ≤ (subs right).priority

def setCells [DecidableEq Id] (manager : ConfigManager subs) (id : Id)
    (cells : (subs id).Cells) : ConfigManager subs :=
  { manager with cells := Function.update manager.cells id cells }

end ConfigManager

/-- The next access behind the lock. -/
def ReloadStage.advance [DecidableEq Id] (loaded : Except Error Config)
    (manager : ConfigManager subs) :
    ReloadStage Id Config → ConfigManager subs × ReloadPhase Id Config Error
  | reading =>
    match loaded with
    | .error error => (manager, .leaving loaded (.error error))
    | .ok config => (manager, .running (.numbering config))
  | numbering config =>
    ({ manager with generation := manager.generation + 1 },
      .running (.preparing ⟨manager.generation + 1, config⟩ manager.ordered))
  | preparing snapshot [] => (manager, .running (.committing snapshot manager.ordered))
  | preparing snapshot (id :: rest) =>
    let prepared := (subs id).prepare snapshot.config (manager.cells id)
    (manager.setCells id prepared.2,
      match prepared.1 with
      | .error error => .leaving (.ok snapshot.config) (.error error)
      | .ok () => .running (.preparing snapshot rest))
  | committing snapshot [] => (manager, .running (.publishing snapshot))
  | committing snapshot (id :: rest) =>
    (manager.setCells id ((subs id).commit (manager.cells id)),
      .running (.committing snapshot rest))
  | publishing snapshot => ({ manager with inner := snapshot }, .running (.counting snapshot))
  | counting snapshot =>
    ({ manager with generation := snapshot.generation },
      .leaving (.ok snapshot.config) (.ok snapshot.generation))

/-- One step of a caller; what the file holds is open. -/
def ReloadCells.step [DecidableEq Id] (cells : ReloadCells subs)
    (turn : Nat × Except Error Config) : ReloadCells subs :=
  match cells.holder with
  | none => { cells with holder := some (turn.1, .running .reading) }
  | some (holder, phase) =>
    if turn.1 = holder then
      match phase with
      | .running stage =>
        { cells with
          manager := (stage.advance turn.2 cells.manager).1
          holder := some (holder, (stage.advance turn.2 cells.manager).2) }
      | .leaving loaded result =>
        { cells with
          holder := none
          found := cells.manager
          history := cells.history ++ [⟨cells.found, cells.manager, loaded, result⟩] }
    else cells

/-- What these steps of the callers make of a manager whose lock is free. -/
def ReloadCells.reached [DecidableEq Id] (first : ConfigManager subs)
    (turns : List (Nat × Except Error Config)) : ReloadCells subs :=
  turns.foldl ReloadCells.step ⟨first, none, first, []⟩

/-- What requests see of the subscriber is as it was. -/
def Same (before manager : ConfigManager subs) (id : Id) : Prop :=
  (subs id).applied (manager.cells id) = (subs id).applied (before.cells id)

/-- The subscriber has staged its part of the configuration. -/
def Stages (config : Config) (manager : ConfigManager subs) (id : Id) : Prop :=
  ∃ value, (subs id).read config = .ok value ∧ (subs id).staged (manager.cells id) = some value

/-- The subscriber has applied its part of the configuration. -/
def Installs (config : Config) (before manager : ConfigManager subs) (id : Id) : Prop :=
  ∃ value, (subs id).read config = .ok value ∧ (subs id).applied (manager.cells id) =
    (subs id).install value ((subs id).applied (before.cells id))

def InstallsAll (config : Config) (before manager : ConfigManager subs) : Prop :=
  ∀ id, (id ∈ before.subscribers → Installs config before manager id) ∧
    (id ∉ before.subscribers → Same before manager id)

/-- A reload fails where the file cannot be used or a subscriber refuses it, and
then it applies and publishes nothing.  A successful one applies to every
subscriber what that one has read from its own configuration, and publishes the
configuration under a new generation. -/
def ReloadRecord.TwoPhase (record : ReloadRecord subs) : Prop :=
  record.after.subscribers = record.before.subscribers ∧
    match record.result with
    | .error error =>
      (∀ id, Same record.before record.after id) ∧ record.after.inner = record.before.inner ∧
        record.before.generation ≤ record.after.generation ∧
        (record.loaded = .error error ∨ ∃ config id, record.loaded = .ok config ∧
          id ∈ record.before.subscribers ∧ (subs id).read config = .error error)
    | .ok generation =>
      ∃ config, record.loaded = .ok config ∧ InstallsAll config record.before record.after ∧
        record.after.inner = ⟨generation, config⟩ ∧ record.after.generation = generation ∧
        record.before.generation < generation

/-- Every reload finds the manager as the one before it has left it. -/
def Linked (first last : ConfigManager subs) : List (ReloadRecord subs) → Prop
  | [] => last = first
  | record :: rest => record.before = first ∧ Linked record.after last rest

/-- What a reload has left as it was since it got its generation. -/
structure Quiet (manager before : ConfigManager subs) (generation : Nat) : Prop where
  subscribers : manager.subscribers = before.subscribers
  inner : manager.inner = before.inner
  numbered : manager.generation = generation
  newer : before.generation < generation

def ReloadStage.Knows (manager before : ConfigManager subs) : ReloadStage Id Config → Prop
  | reading | numbering _ => manager = before
  | preparing snapshot rest =>
    Quiet manager before snapshot.generation ∧ ∃ done, done ++ rest = before.ordered ∧ ∀ id,
      Same before manager id ∧ (id ∈ done → Stages snapshot.config manager id)
  | committing snapshot rest =>
    Quiet manager before snapshot.generation ∧ ∃ done, done ++ rest = before.ordered ∧ ∀ id,
      (id ∈ done → Installs snapshot.config before manager id ∧
        (subs id).staged (manager.cells id) = none) ∧
      (id ∉ done → Same before manager id ∧ (id ∈ rest → Stages snapshot.config manager id))
  | publishing snapshot =>
    Quiet manager before snapshot.generation ∧ InstallsAll snapshot.config before manager
  | counting snapshot =>
    manager.subscribers = before.subscribers ∧ InstallsAll snapshot.config before manager ∧
      manager.inner = snapshot ∧ before.generation < snapshot.generation

def ReloadPhase.Knows (manager before : ConfigManager subs) : ReloadPhase Id Config Error → Prop
  | running stage => stage.Knows manager before
  | leaving loaded result => ReloadRecord.TwoPhase ⟨before, manager, loaded, result⟩

section Invariant

variable {manager before first last : ConfigManager subs} {id : Id}

theorem ConfigManager.mem_ordered_iff : id ∈ manager.ordered ↔ id ∈ manager.subscribers :=
  mem_insertionSort _

open ConfigManager (mem_ordered_iff setCells ordered)

namespace ReloadStage

variable {snapshot : ConfigSnapshot Config}

theorem Knows.prepared (knows : (preparing snapshot []).Knows manager before) :
    (committing snapshot manager.ordered).Knows manager before := by
  obtain ⟨quiet, done, split, told⟩ := knows
  rw [append_nil] at split
  subst split
  have same : manager.ordered = before.ordered := by
    rw [ordered, ordered, quiet.subscribers]
  rw [same]
  exact ⟨quiet, [], rfl, fun id => ⟨by simp, fun _ => told id⟩⟩

theorem Knows.committed (knows : (committing snapshot []).Knows manager before) :
    (publishing snapshot).Knows manager before := by
  obtain ⟨quiet, done, split, told⟩ := knows
  rw [append_nil] at split
  subst split
  refine ⟨quiet, fun id => ?_⟩
  rw [← mem_ordered_iff]
  exact ⟨fun member => ((told id).1 member).1, fun other => ((told id).2 other).1⟩

variable [DecidableEq Id]

theorem same_prepare (same : ∀ id, Same before manager id) (config : Config) (id other : Id) :
    Same before (manager.setCells id ((subs id).prepare config (manager.cells id)).2) other := by
  by_cases here : other = id
  · subst here
    simpa [Same, setCells, prepare_applied] using same other
  · simpa [Same, setCells, here] using same other

/-- What is staged already is overwritten. -/
theorem Knows.prepare (knows : (preparing snapshot (id :: rest)).Knows manager before)
    (read : (subs id).read snapshot.config = .ok value) :
    (preparing snapshot rest).Knows (manager.setCells id
      ((subs id).prepare snapshot.config (manager.cells id)).2) before := by
  obtain ⟨⟨subscribers, inner, numbered, newer⟩, done, split, told⟩ := knows
  refine ⟨⟨subscribers, inner, numbered, newer⟩, done ++ [id], by simpa using split, fun other =>
    ⟨same_prepare (fun id => (told id).1) _ id other, ?_⟩⟩
  by_cases here : other = id
  · subst here
    refine fun _ => ⟨value, read, ?_⟩
    simp [setCells, prepare_staged _ _ _ _ read]
  · simpa [Stages, setCells, here] using (told other).2

/-- What is taken is what this reload has staged; a subscriber that is listed
twice has nothing staged the second time. -/
theorem Knows.commit (knows : (committing snapshot (id :: rest)).Knows manager before) :
    (committing snapshot rest).Knows
      (manager.setCells id ((subs id).commit (manager.cells id))) before := by
  obtain ⟨⟨subscribers, inner, numbered, newer⟩, done, split, told⟩ := knows
  refine ⟨⟨subscribers, inner, numbered, newer⟩, done ++ [id], by simpa using split, fun other => ?_⟩
  by_cases here : other = id
  · subst here
    simp only [Installs, setCells, Function.update_self, commit_staged,
      commit_applied, and_true]
    refine ⟨fun _ => ?_, by simp⟩
    by_cases again : other ∈ done
    · obtain ⟨⟨value, read, applied⟩, none⟩ := (told other).1 again
      exact ⟨value, read, by rw [none, Option.elim_none, applied]⟩
    · obtain ⟨same, stages⟩ := (told other).2 again
      obtain ⟨value, read, staged⟩ := stages mem_cons_self
      exact ⟨value, read, by rw [staged, Option.elim_some, same]⟩
  · simpa [Same, Stages, Installs, setCells, here] using told other

theorem Knows.refuse (knows : (preparing snapshot (id :: rest)).Knows manager before)
    (read : (subs id).read snapshot.config = .error error) :
    ReloadRecord.TwoPhase ⟨before, manager.setCells id
      ((subs id).prepare snapshot.config (manager.cells id)).2, .ok snapshot.config,
        .error error⟩ := by
  obtain ⟨quiet, done, split, told⟩ := knows
  refine ⟨quiet.subscribers, same_prepare (fun id => (told id).1) _ id, quiet.inner,
    quiet.newer.le.trans_eq quiet.numbered.symm, Or.inr ⟨_, id, rfl, ?_, read⟩⟩
  rw [← mem_ordered_iff, ← split]
  simp

theorem Knows.advance {stage : ReloadStage Id Config} (knows : stage.Knows manager before)
    (loaded : Except Error Config) :
    (stage.advance loaded manager).2.Knows (stage.advance loaded manager).1 before := by
  cases stage with
  | reading =>
    obtain rfl := knows
    cases loaded with
    | error error => exact ⟨rfl, fun _ => rfl, rfl, le_rfl, Or.inl rfl⟩
    | ok config => exact rfl
  | numbering config =>
    obtain rfl := knows
    exact ⟨⟨rfl, rfl, rfl, Nat.lt_succ_self _⟩, [], rfl, fun _ => ⟨rfl, by simp⟩⟩
  | preparing snapshot rest =>
    cases rest with
    | nil => exact knows.prepared
    | cons id rest =>
      have result := (subs id).prepare_result snapshot.config (manager.cells id)
      cases read : (subs id).read snapshot.config with
      | error error =>
        rw [read] at result
        simp only [ReloadStage.advance, result, Except.map]
        exact knows.refuse read
      | ok value =>
        rw [read] at result
        simp only [ReloadStage.advance, result, Except.map]
        exact knows.prepare read
  | committing snapshot rest =>
    cases rest with
    | nil => exact knows.committed
    | cons id rest => exact knows.commit
  | publishing snapshot =>
    obtain ⟨quiet, installs⟩ := knows
    exact ⟨quiet.subscribers, installs, rfl, quiet.newer⟩
  | counting snapshot =>
    obtain ⟨same, installs, rfl, newer⟩ := knows
    exact ⟨same, _, rfl, installs, rfl, rfl, newer⟩

end ReloadStage

/-! ### Runs -/

variable {history : List (ReloadRecord subs)}

theorem Linked.concat (record : ReloadRecord subs) (linked : Linked first record.before history) :
    Linked first record.after (history ++ [record]) := by
  induction history generalizing first with
  | nil => exact ⟨linked, rfl⟩
  | cons earlier history ih => exact ⟨linked.1, ih linked.2⟩

/-- Nobody but the holder of the lock has changed the manager. -/
structure Serial (first : ConfigManager subs) (cells : ReloadCells subs) : Prop where
  twoPhase : ∀ record ∈ cells.history, record.TwoPhase
  linked : Linked first cells.found cells.history
  free : cells.holder = none → cells.manager = cells.found
  held : ∀ holder phase, cells.holder = some (holder, phase) →
    phase.Knows cells.manager cells.found

variable [DecidableEq Id]

theorem Serial.step (serial : Serial first cells) (turn : Nat × Except Error Config) :
    Serial first (cells.step turn) := by
  unfold ReloadCells.step
  split
  next unlocked =>
    refine ⟨serial.twoPhase, serial.linked, by simp, ?_⟩
    rintro holder phase ⟨⟩
    exact serial.free unlocked
  next holder phase locked =>
    have knows := serial.held holder phase locked
    split
    · cases phase with
      | running stage =>
        refine ⟨serial.twoPhase, serial.linked, by simp, ?_⟩
        rintro holder phase ⟨⟩
        exact ReloadStage.Knows.advance knows turn.2
      | leaving loaded result =>
        refine ⟨?_, Linked.concat ⟨_, _, loaded, result⟩ serial.linked, fun _ => rfl, by simp⟩
        intro record member
        rcases mem_append.mp member with earlier | new
        · exact serial.twoPhase record earlier
        · cases mem_singleton.mp new
          exact knows
    · exact serial

theorem Serial.run (serial : Serial first cells) (turns : List (Nat × Except Error Config)) :
    Serial first (turns.foldl ReloadCells.step cells) := by
  induction turns generalizing cells with
  | nil => exact serial
  | cons turn turns ih => exact ih (serial.step turn)

end Invariant

namespace ReloadSample

inductive Member where
  | auth
  | rateLimit
  | providers
deriving DecidableEq

def subscribers : Member → Subscriber (AppConfig Unit) ReloadError
  | .auth => authReloader id
  | .rateLimit => rateLimitReloader
  | .providers => ProviderRegistry.asSubscriber (κ := Unit) (μ := Unit)

/-- One provider with this key. -/
def config (requestsPerMinute : Nat) (apiKey : Except String String) : AppConfig Unit where
  providers := [("zen", ())]
  auth := ⟨true, ["secret"]⟩
  rateLimiting := ⟨true, requestsPerMinute, 10, 60⟩
  resolveApiKey _ _ := apiKey

def manager : ConfigManager subscribers where
  inner := ⟨1, config 5 (.ok "old")⟩
  generation := 1
  subscribers := [.providers, .auth, .rateLimit]
  cells
    | .auth => ⟨⟨false, []⟩, none⟩
    | .rateLimit => ⟨(config 5 (.ok "old")).rateLimiting, none⟩
    | .providers => ⟨[], [], [], [], ⟨"zen", (), "old"⟩, none, 0, none⟩

/-- The providers refuse the first file when the rate limit is staged already. -/
def turns : List (Nat × Except ReloadError (AppConfig Unit)) :=
  replicate 7 (0, .ok (config 7 (.error "no key"))) ++ replicate 14 (1, .ok (config 9 (.ok "new")))

end ReloadSample

end FusionRouter.Reload

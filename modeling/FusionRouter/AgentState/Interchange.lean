import FusionRouter.AgentState.Store

/-!
# Exchanging one state store for the other

The two stores answer the same calls from the same state.  They differ where a
patch that is no object is merged: the database has then stored a state which
it refuses to return.
-/

namespace FusionRouter

namespace AgentState

/-- A call of one of the methods that return a state. -/
inductive StoreCall where
  | load
  | commit (patch : StatePatch)

namespace StateStore

variable {σ : Type} (store : StateStore σ)

/-- The reply to a call; a load that panics has none. -/
def answer (state : σ) :
    StoreCall → Option (Except StateError ExecutionState) × σ
  | .load => ((store.load state).map .ok, state)
  | .commit patch =>
    (some (store.commit state patch).1, (store.commit state patch).2)

def FailsUnchanged (state : σ) (call : StoreCall) : Prop :=
  ∀ error, (store.answer state call).1 = some (.error error) →
    store.load (store.answer state call).2 = store.load state

end StateStore

/-- Ok with the same state, or an error both times. -/
def SameReply (left right : Option (Except StateError ExecutionState)) : Prop :=
  left.map Except.toOption = right.map Except.toOption

/-- The stores reply alike to every call, and no failed call has an effect. -/
def StoresInterchangeable (memory : InMemoryStateStore)
    (database : SqliteStateStore) (calls : List StoreCall) : Prop :=
  Runs.Along (Runs.both InMemoryStateStore.asStore.answer SqliteStateStore.asStore.answer)
    (fun states call => SameReply (InMemoryStateStore.asStore.answer states.1 call).1
          (SqliteStateStore.asStore.answer states.2 call).1 ∧
        InMemoryStateStore.asStore.FailsUnchanged states.1 call ∧
        SqliteStateStore.asStore.FailsUnchanged states.2 call) (memory, database) calls

structure SameState (states : InMemoryStateStore × SqliteStateStore) :
    Prop where
  skill : states.2.skill = states.1.skill
  loads : SqliteStateStore.loadInner states.2 = .ok states.1.state

def MergesObjects (memory : InMemoryStateStore) (call : StoreCall) : Prop :=
  ∀ patch merged, call = .commit patch → InMemoryStateStore.asStore.Accepts memory patch merged →
      patch.value.json.isObject = true

/-- The text of an accepted state can be read back. -/
def RoundTrips (memory : InMemoryStateStore) (call : StoreCall) : Prop :=
  ∀ patch merged, call = .commit patch → InMemoryStateStore.asStore.Accepts memory patch merged →
      merged.json.depth ≤ JsonValue.maxDepth

theorem InMemoryStateStore.accepts_iff :
    asStore.Accepts memory patch merged ↔
      mergeValid memory.skill memory.state patch = .ok merged := by
  simp [StateStore.Accepts, asStore]

namespace SameState

section

variable (same : SameState (memory, database))
include same

theorem skill_eq : database.skill = memory.skill := same.skill

theorem isObject : memory.state.value.json.isObject = true :=
  SqliteStateStore.loadInner_isObject same.loads

theorem load_eq : SqliteStateStore.asStore.load database = some memory.state := by
  change (SqliteStateStore.loadInner database).toOption = _
  rw [same.loads]
  rfl

theorem commit_error (failed : mergeValid memory.skill memory.state patch = .error error) :
    InMemoryStateStore.commit memory patch = (.error error, memory) ∧
      SqliteStateStore.commit database patch = (.error error, database) := by
  refine ⟨?_, ?_⟩
  · simp only [InMemoryStateStore.commit, failed]
  · simp only [SqliteStateStore.commit, same.loads, same.skill_eq, failed]

end

/-- A state that passes is stored by both before the database looks whether it
is an object. -/
theorem commit_ok (same : SameState (memory, database))
    (merging : mergeValid memory.skill memory.state patch = .ok merged) :
    InMemoryStateStore.commit memory patch = (.ok ⟨merged⟩, { memory with state := ⟨merged⟩ }) ∧
      SqliteStateStore.commit database patch = (ExecutionState.new merged,
          { database with row := some merged.toText }) := by
  refine ⟨?_, ?_⟩
  · simp only [InMemoryStateStore.commit, merging]
  · simp only [SqliteStateStore.commit, same.loads, same.skill_eq, merging]

theorem isObject_merged (same : SameState (memory, database))
    (merging : mergeValid memory.skill memory.state patch = .ok merged) :
    merged.json.isObject = patch.value.json.isObject :=
  (mergeValid_ok_iff.mp merging).1.isObject_eq same.isObject

/-- One call: the replies agree exactly when no patch but an object is
merged. -/
theorem answer_iff (same : SameState states) (call : StoreCall) :
    (SameReply (InMemoryStateStore.asStore.answer states.1 call).1
          (SqliteStateStore.asStore.answer states.2 call).1 ∧
        InMemoryStateStore.asStore.FailsUnchanged states.1 call ∧
        SqliteStateStore.asStore.FailsUnchanged states.2 call) ↔ MergesObjects states.1 call := by
  obtain ⟨memory, database⟩ := states
  cases call with
  | load =>
    refine iff_of_true ⟨?_, ?_, ?_⟩ ?_
    · unfold SameReply StateStore.answer
      rw [same.load_eq]
      rfl
    · intro error _
      rfl
    · intro error _
      rfl
    · intro patch merged impossible
      cases impossible
  | commit patch =>
    cases merging : mergeValid memory.skill memory.state patch with
    | error error =>
      obtain ⟨inMemory, inDatabase⟩ := same.commit_error merging
      refine iff_of_true ⟨?_, ?_, ?_⟩ ?_
      · simp only [SameReply, StateStore.answer,
          InMemoryStateStore.asStore, SqliteStateStore.asStore, inMemory, inDatabase]
      · intro _ _
        simp only [StateStore.answer, InMemoryStateStore.asStore, inMemory]
      · intro _ _
        simp only [StateStore.answer, SqliteStateStore.asStore, inDatabase]
      · intro other merged call accepts
        cases call
        rw [InMemoryStateStore.accepts_iff, merging] at accepts
        cases accepts
    | ok merged =>
      obtain ⟨inMemory, inDatabase⟩ := same.commit_ok merging
      have objects : MergesObjects memory (.commit patch) ↔ merged.json.isObject = true := by
        rw [same.isObject_merged merging]
        constructor
        · intro objects
          exact objects patch merged rfl (InMemoryStateStore.accepts_iff.mpr merging)
        · rintro object _ _ ⟨⟩ -
          exact object
      rw [objects]
      by_cases object : merged.json.isObject = true
      · refine iff_of_true ⟨?_, ?_, ?_⟩ object
        · simp only [SameReply, StateStore.answer,
            InMemoryStateStore.asStore, SqliteStateStore.asStore, inMemory,
            inDatabase, ExecutionState.new, object, if_true]
        · intro error failed
          simp [StateStore.answer, InMemoryStateStore.asStore, inMemory] at failed
        · intro error failed
          simp [StateStore.answer, SqliteStateStore.asStore, inDatabase,
            ExecutionState.new, object] at failed
      · refine iff_of_false ?_ object
        rintro ⟨reply, -⟩
        simp [SameReply, StateStore.answer, InMemoryStateStore.asStore,
          SqliteStateStore.asStore, inMemory, inDatabase,
          ExecutionState.new, object, Except.toOption] at reply

theorem answer (same : SameState states) (objects : MergesObjects states.1 call)
    (roundTrips : RoundTrips states.1 call) :
    SameState (Runs.both InMemoryStateStore.asStore.answer
      SqliteStateStore.asStore.answer states call).2 := by
  obtain ⟨memory, database⟩ := states
  cases call with
  | load => exact same
  | commit patch =>
    cases merging : mergeValid memory.skill memory.state patch with
    | error error =>
      obtain ⟨inMemory, inDatabase⟩ := same.commit_error merging
      simp only [Runs.both, StateStore.answer, InMemoryStateStore.asStore,
        SqliteStateStore.asStore, inMemory, inDatabase]
      exact same
    | ok merged =>
      obtain ⟨inMemory, inDatabase⟩ := same.commit_ok merging
      have accepts := InMemoryStateStore.accepts_iff.mpr merging
      simp only [Runs.both, StateStore.answer, InMemoryStateStore.asStore,
        SqliteStateStore.asStore, inMemory, inDatabase]
      refine ⟨same.skill, ?_⟩
      have shallow := roundTrips patch merged rfl accepts
      have object := objects patch merged rfl accepts
      rw [← same.isObject_merged merging] at object
      simp only [SqliteStateStore.loadInner, JsonReader.fromStr_toText,
        shallow, if_true, ExecutionState.new, object]

end SameState

/-- Which runs the two stores answer alike. -/
theorem stores_interchangeable_iff {memory : InMemoryStateStore}
    {database : SqliteStateStore} (skill : database.skill = memory.skill)
    (loads : SqliteStateStore.asStore.load database = some memory.state) {calls : List StoreCall}
    (roundTrips : Runs.Along InMemoryStateStore.asStore.answer RoundTrips memory calls) :
    StoresInterchangeable memory database calls ↔
      Runs.Along InMemoryStateStore.asStore.answer MergesObjects memory
        calls := by
  have same : SameState (memory, database) := ⟨skill, SqliteStateStore.loadInner_of_load loads⟩
  have trips : Runs.Along (Runs.both InMemoryStateStore.asStore.answer
      SqliteStateStore.asStore.answer)
      (fun states call => RoundTrips states.1 call) (memory, database) calls :=
    (Runs.along_both_iff _ _).mpr roundTrips
  have objects : Runs.Along (Runs.both InMemoryStateStore.asStore.answer
      SqliteStateStore.asStore.answer)
      (fun states call => MergesObjects states.1 call) (memory, database)
      calls ↔ Runs.Along InMemoryStateStore.asStore.answer MergesObjects memory
        calls :=
    Runs.along_both_iff _ _
  rw [← objects, StoresInterchangeable]
  -- what is read back is a condition of every step, so that it can be dropped
  refine (and_iff_left trips).symm.trans (Iff.trans ?_ (and_iff_left trips))
  rw [← Runs.along_and_iff, ← Runs.along_and_iff]
  refine Runs.along_congr _ SameState ?_ ?_ same
  · intro states call same
    exact and_congr_left (fun _ => same.answer_iff call)
  · rintro states call same ⟨objects, roundTrips⟩
    exact same.answer objects roundTrips

namespace ExchangeSample

open StoreSample (reader skill initial database counted one)

def memory : InMemoryStateStore :=
  { skill := skill, state := initial }

theorem loads : SqliteStateStore.asStore.load database = some memory.state :=
  SqliteStateStore.loadInner_toText reader skill initial.value

theorem merged_counted (accepts : InMemoryStateStore.asStore.Accepts memory counted merged) :
    counted.value.json = merged.json := by
  rw [InMemoryStateStore.accepts_iff] at accepts
  have merges : Except.ok counted.value.json = .ok merged.json := (mergeValid_ok_iff.mp accepts).1
  exact Except.ok.inj merges

/-- Both stores count and load what they have counted. -/
theorem counted_interchangeable :
    StoresInterchangeable memory database [.commit counted, .load] := by
  refine (stores_interchangeable_iff rfl loads ?_).mpr ?_
  · refine (Runs.along_cons_iff _).mpr ⟨?_, (Runs.along_cons_iff _).mpr ⟨?_, by simp [Runs.Along]⟩⟩
    · rintro patch merged ⟨⟩ accepts
      rw [← merged_counted accepts]
      decide
    · rintro patch merged ⟨⟩
  · refine (Runs.along_cons_iff _).mpr ⟨?_, (Runs.along_cons_iff _).mpr ⟨?_, by simp [Runs.Along]⟩⟩
    · rintro patch merged ⟨⟩ -
      rfl
    · rintro patch merged ⟨⟩

/-- A number as the patch: one store returns it, the other has stored it and
fails, and its next load panics. -/
theorem one_not_interchangeable :
    ¬ StoresInterchangeable memory database [.commit one] ∧
      ¬ SqliteStateStore.asStore.FailsUnchanged database (.commit one) := by
  have same : SameState (memory, database) := ⟨rfl, SqliteStateStore.loadInner_of_load loads⟩
  have merging : mergeValid memory.skill memory.state one = .ok one.value := rfl
  have committed := (same.commit_ok merging).2
  refine ⟨?_, ?_⟩
  · intro interchangeable
    obtain ⟨agrees, -⟩ := (Runs.along_cons_iff _).mp interchangeable
    have objects := (same.answer_iff (.commit one)).mp agrees
    cases objects one one.value rfl (InMemoryStateStore.accepts_iff.mpr merging)
  · intro unchanged
    have fails : (SqliteStateStore.asStore.answer database (.commit one)).1 =
        some (.error (.notAnObject "ExecutionState must be a JSON object")) := by
      simp only [StateStore.answer, SqliteStateStore.asStore, committed]
      rfl
    have after := unchanged _ fails
    rw [loads] at after
    simp only [StateStore.answer, SqliteStateStore.asStore, committed] at after
    have unreadable : none = some memory.state :=
      (SqliteStateStore.loadInner_toText reader skill one.value).symm.trans after
    cases unreadable

end ExchangeSample

end AgentState

end FusionRouter

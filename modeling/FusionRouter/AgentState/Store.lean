import FusionRouter.AgentState.Merge
import FusionRouter.Lib.Runs

/-!
# State stores

Schema validation, and the two stores of the agent state: one in memory and
one that keeps the state as a JSON text in a single database row.  A state and
a patch can be deserialized without the check that their constructors make, so
either can hold any JSON value.
-/

namespace FusionRouter

def Json.asObject : Json → Option (List (String × Json))
  | .object fields => some fields
  | _ => none

namespace AgentState

def StateError.text : StateError → String
  | .notAnObject message => "expected JSON object: " ++ message
  | .schemaViolation message => "schema violation: " ++ message
  | .mergeError message => "merge error: " ++ message
  | .patchValidation message => "patch validation failed: " ++ message

def mismatch (path expected found : String) : StateError :=
  .schemaViolation (path ++ ": expected " ++ expected ++ ", got " ++ found)

def checkType (path expected : String) (passes : Bool) (value : Json) : Except StateError Unit :=
  if passes then .ok () else .error (mismatch path expected (typeOf value))

def requiredNames (schema : List (String × Json)) : List String :=
  (((schema.lookup "required").bind Json.asArray).map (List.filterMap Json.asStr)).getD []

/-- The first required property that the object lacks. -/
def missingProperty (schema fields : List (String × Json)) : Option String :=
  (requiredNames schema).find? (fun name => (fields.lookup name).isNone)

def allowsAdditional (schema : List (String × Json)) : Bool :=
  ((schema.lookup "additionalProperties").bind Json.asBool).getD true

mutual

def validateValue : Json → Json → String → Except StateError Unit
  | value, .object schema, path =>
    match (schema.lookup "type").bind Json.asStr with
    | none => .ok ()
    | some name =>
      if name = "object" then
        match value with
        | .object fields =>
          match missingProperty schema fields with
          | some property =>
            .error (.schemaViolation (path ++ ": missing required property '" ++ property ++ "'"))
          | none =>
            match (schema.lookup "properties").bind Json.asObject with
            | none => .ok ()
            | some properties =>
              validateFields fields properties (allowsAdditional schema) path
        | _ => .error (mismatch path "object" (typeOf value))
      else if name = "string" then
        checkType path "string" value.asStr.isSome value
      else if name = "number" then
        checkType path "number" (typeOf value = "number") value
      else if name = "integer" then
        match value with
        | .number (.float _) => .error (mismatch path "integer" "float")
        | .number _ => .ok ()
        | _ => .error (mismatch path "integer" (typeOf value))
      else if name = "boolean" then
        checkType path "boolean" value.asBool.isSome value
      else if name = "array" then
        checkType path "array" value.asArray.isSome value
      else .ok ()
  | _, _, _ => .ok ()

def validateFields : List (String × Json) → List (String × Json) → Bool →
    String → Except StateError Unit
  | [], _, _, _ => .ok ()
  | (key, value) :: fields, properties, additional, path =>
    match properties.lookup key with
    | some schema =>
      match validateValue value schema (path ++ "." ++ key) with
      | .error error => .error error
      | .ok () => validateFields fields properties additional path
    | none =>
      if additional then validateFields fields properties additional path
      else .error (.schemaViolation (path ++ ": additional property '" ++ key ++ "' not allowed"))

end

/-- `validate_against_schema`: a null or empty schema accepts everything. -/
def validateAgainstSchema (value schema : Json) : Except StateError Unit :=
  match schema with
  | .null => .ok ()
  | .object [] => .ok ()
  | _ => validateValue value schema "$"

/-- Unicode white space, which `str::trim` removes. -/
def isWhiteSpace (letter : Char) : Bool :=
  let code := letter.toNat
  decide (9 ≤ code ∧ code ≤ 13 ∨ code = 0x20 ∨ code = 0x85 ∨ code = 0xA0 ∨
    code = 0x1680 ∨ 0x2000 ≤ code ∧ code ≤ 0x200A ∨ code = 0x2028 ∨
    code = 0x2029 ∨ code = 0x202F ∨ code = 0x205F ∨ code = 0x3000)

structure SkillSpec where
  schema : JsonValue
  instructions : String
  version : String

def SkillSpec.maxInstructionsBytes : Nat := 32 * 1024

def SkillSpec.validate (skill : SkillSpec) : Except StateError Unit :=
  if maxInstructionsBytes < skill.instructions.utf8ByteSize then
    .error (.patchValidation ("instructions too large: " ++
      toString skill.instructions.utf8ByteSize ++ " > " ++
      toString maxInstructionsBytes ++ " bytes"))
  else if skill.instructions.toList.all isWhiteSpace then
    .error (.patchValidation "instructions must not be empty")
  else .ok ()

structure ExecutionState where
  value : JsonValue

def ExecutionState.new (value : JsonValue) : Except StateError ExecutionState :=
  if value.json.isObject then .ok ⟨value⟩
  else .error (.notAnObject "ExecutionState must be a JSON object")

structure StatePatch where
  value : JsonValue

theorem Merges.wellFormed (merges : Merges base patch result)
    (baseWellFormed : base.WellFormed) (patchWellFormed : patch.WellFormed) :
    result.WellFormed := by
  refine merge_induction (motive := fun base patch result =>
      base.WellFormed → patch.WellFormed → result.WellFormed)
    ?_ ?_ ?_ baseWellFormed patchWellFormed merges baseWellFormed patchWellFormed
  · intro base patch _ _ _ patchWellFormed
    exact patchWellFormed
  · intro base patchMap _ _ _ patchWellFormed
    exact patchWellFormed
  · intro baseMap patchMap result _ _ ordered kept landed baseWellFormed patchWellFormed
    refine .object ordered ?_
    rintro ⟨key, value⟩ member
    have held := ordered.lookup_eq_some_iff.mpr member
    cases said : patchMap.lookup key with
    | none => exact baseWellFormed.lookup ((kept key said).symm.trans held)
    | some patchVal =>
      obtain ⟨patchValid, lands⟩ := landed key patchVal said
      rw [held] at lands
      generalize found : baseMap.lookup key = baseVal at lands
      cases lands with
      | fresh | replaced => exact patchValid
      | merged joined =>
        exact joined (baseWellFormed.lookup found) patchValid

/-- `merge_state` of two values. -/
def mergeValues (base patch : JsonValue) : Except StateError JsonValue :=
  match merges : mergeState base.json patch.json with
  | .error error => .error error
  | .ok result =>
    .ok ⟨result, Merges.wellFormed merges base.wellFormed patch.wellFormed⟩

/-- What a commit does with the state it has loaded: the merged state, once it
has passed the schema. -/
def mergeValid (skill : SkillSpec) (current : ExecutionState)
    (patch : StatePatch) : Except StateError JsonValue :=
  match mergeValues current.value patch.value with
  | .error error => .error error
  | .ok merged =>
    match validateAgainstSchema merged.json skill.schema.json with
    | .error error => .error error
    | .ok () => .ok merged

/-- The trait `StateStore`, for a store with a skill.  A load may panic. -/
structure StateStore (σ : Type) where
  skill : σ → SkillSpec
  load : σ → Option ExecutionState
  commit : σ → StatePatch → Except StateError ExecutionState × σ

structure InMemoryStateStore where
  skill : SkillSpec
  state : ExecutionState

namespace InMemoryStateStore

def new (skill : SkillSpec) (initial : ExecutionState) : Except StateError InMemoryStateStore :=
  match skill.validate with
  | .error error => .error error
  | .ok () =>
    match validateAgainstSchema initial.value.json skill.schema.json with
    | .error error => .error error
    | .ok () => .ok { skill := skill, state := initial }

def commit (store : InMemoryStateStore) (patch : StatePatch) :
    Except StateError ExecutionState × InMemoryStateStore :=
  match mergeValid store.skill store.state patch with
  | .error error => (.error error, store)
  | .ok merged => (.ok ⟨merged⟩, { store with state := ⟨merged⟩ })

def asStore : StateStore InMemoryStateStore :=
  { skill := skill
    load := fun store => some store.state
    commit := commit }

end InMemoryStateStore

/-- The row with id 1 of the table `agent_state`, and how JSON is read. -/
structure SqliteStateStore where
  reader : JsonReader
  skill : SkillSpec
  row : Option String

namespace SqliteStateStore

/-- `load_inner`; what SQLite and `serde_json` say in their errors is left
out. -/
def loadInner (store : SqliteStateStore) : Except StateError ExecutionState :=
  match store.row with
  | none => .error (.patchValidation "load")
  | some text =>
    match store.reader.fromStr text with
    | none => .error (.patchValidation "json parse")
    | some value => ExecutionState.new value

/-- `open`, on a database that has the row or has it not. -/
def openStore (reader : JsonReader) (skill : SkillSpec) (row : Option String)
    (initial : ExecutionState) : Except StateError SqliteStateStore :=
  match skill.validate with
  | .error error => .error error
  | .ok () =>
    match validateAgainstSchema initial.value.json skill.schema.json with
    | .error error => .error error
    | .ok () =>
      if row.isNone then
        .ok ⟨reader, skill, some initial.value.toText⟩
      else
        match loadInner ⟨reader, skill, row⟩ with
        | .error error => .error error
        | .ok existing =>
          match validateAgainstSchema existing.value.json skill.schema.json with
          | .error error =>
            .error (.schemaViolation ("existing state violates new schema: " ++ error.text))
          | .ok () => .ok ⟨reader, skill, row⟩

/-- The transaction is committed before the state is checked to be an
object. -/
def commit (store : SqliteStateStore) (patch : StatePatch) :
    Except StateError ExecutionState × SqliteStateStore :=
  match loadInner store with
  | .error error => (.error error, store)
  | .ok current =>
    match mergeValid store.skill current patch with
    | .error error => (.error error, store)
    | .ok merged =>
      (ExecutionState.new merged, { store with row := some merged.toText })

def asStore : StateStore SqliteStateStore :=
  { skill := skill
    load := fun store => (loadInner store).toOption
    commit := commit }

end SqliteStateStore

namespace StateStore

variable {σ : Type} (store : StateStore σ)

/-- A load that returns an object which satisfies the schema. -/
def LoadsValid (state : σ) : Prop :=
  ∃ loaded, store.load state = some loaded ∧ loaded.value.json.isObject = true ∧
    validateAgainstSchema loaded.value.json (store.skill state).schema.json = .ok ()

/-- So it is after every prefix of the commits. -/
def AlwaysValid (start : σ) (patches : List StatePatch) : Prop :=
  Runs.Always store.commit store.LoadsValid start patches

/-- The patch merges into the state, and the result passes the schema. -/
def Accepts (state : σ) (patch : StatePatch) (merged : JsonValue) : Prop :=
  ∃ current, store.load state = some current ∧
    mergeValid (store.skill state) current patch = .ok merged

/-- What a commit means for the next load, where a merged state can be read
back if it `fits`. -/
def advance (skill : SkillSpec) (fits : JsonValue → Bool)
    (current : ExecutionState) (patch : StatePatch) : Option ExecutionState :=
  match mergeValid skill current patch with
  | .error _ => some current
  | .ok merged => if fits merged then some ⟨merged⟩ else none

/-- The store is the state that its commits have produced. -/
structure Refines (fits : JsonValue → Bool) : Prop where
  skill_commit : ∀ state patch, store.skill (store.commit state patch).2 = store.skill state
  load_commit : ∀ state patch, store.load (store.commit state patch).2 = (store.load state).bind
        (fun current => advance (store.skill state) fits current patch)

end StateStore

theorem mergeValues_ok_iff :
    mergeValues current patch = .ok merged ↔ Merges current.json patch.json merged.json := by
  unfold mergeValues
  split
  next error failed => simp [Merges, failed]
  next result merges =>
    simp only [Merges, merges, Except.ok.injEq]
    constructor
    · rintro rfl
      rfl
    · rintro rfl
      rfl

theorem mergeValid_ok_iff :
    mergeValid skill current patch = .ok merged ↔
      Merges current.value.json patch.value.json merged.json ∧
        validateAgainstSchema merged.json skill.schema.json = .ok () := by
  rw [← mergeValues_ok_iff]
  unfold mergeValid
  split
  next error failed => simp [failed]
  next result merges =>
    rw [merges, Except.ok.injEq]
    split
    next error failed =>
      constructor
      · intro impossible
        cases impossible
      · rintro ⟨rfl, passes⟩
        rw [failed] at passes
        cases passes
    next passes =>
      rw [Except.ok.injEq]
      constructor
      · rintro rfl
        exact ⟨rfl, passes⟩
      · exact And.left

theorem Merges.isObject_eq (merges : Merges base patch result)
    (object : base.isObject = true) : result.isObject = patch.isObject := by
  cases base with
  | object baseMap =>
    cases patch with
    | null => cases merges
    | object patchMap =>
      rw [Merges, mergeState] at merges
      split at merges
      · cases merges
      · cases merges
        rfl
    | _ =>
      cases merges
      rfl
  | _ => cases object

namespace StateStore

variable {σ : Type} {store : StateStore σ}

theorem Refines.loadsValid_commit_iff (refines : store.Refines fits)
    (valid : store.LoadsValid state) (patch : StatePatch) :
    store.LoadsValid (store.commit state patch).2 ↔ ∀ merged, store.Accepts state patch merged →
        patch.value.json.isObject = true ∧ fits merged = true := by
  obtain ⟨current, loaded, object, passes⟩ := valid
  have next := refines.load_commit state patch
  rw [loaded, Option.bind_some, advance] at next
  have accepts : ∀ merged, store.Accepts state patch merged ↔
      mergeValid (store.skill state) current patch = .ok merged := by
    intro merged
    simp [Accepts, loaded]
  unfold LoadsValid
  rw [refines.skill_commit, next]
  simp only [accepts]
  cases merging : mergeValid (store.skill state) current patch with
  | error error =>
    refine iff_of_true ⟨current, rfl, object, passes⟩ ?_
    intro merged impossible
    cases impossible
  | ok merged =>
    obtain ⟨merges, mergedPasses⟩ := mergeValid_ok_iff.mp merging
    simp only [Except.ok.injEq, forall_eq', ← merges.isObject_eq object]
    by_cases readable : fits merged = true
    · simp [readable, mergedPasses]
    · simp [readable]

theorem Refines.alwaysValid_iff (refines : store.Refines fits) :
    store.AlwaysValid start patches ↔ store.LoadsValid start ∧
        Runs.Along store.commit (fun state patch => ∀ merged, store.Accepts state patch merged →
            patch.value.json.isObject = true ∧ fits merged = true)
          start patches := Runs.always_iff store.commit
    (fun _ patch valid => refines.loadsValid_commit_iff valid patch)

end StateStore

namespace InMemoryStateStore

theorem refines : asStore.Refines (fun _ => true) where
  skill_commit store patch := by
    change (commit store patch).2.skill = store.skill
    unfold commit
    split <;> rfl
  load_commit store patch := by
    change some (commit store patch).2.state = StateStore.advance store.skill _ store.state patch
    unfold commit StateStore.advance
    split <;> rfl

/-- The store that `new` builds holds the initial state, which has passed the
schema. -/
theorem new_ok {skill : SkillSpec} (opened : new skill initial = .ok store) :
    store = { skill := skill, state := initial } ∧
      validateAgainstSchema initial.value.json skill.schema.json = .ok () := by
  unfold new at opened
  split at opened
  · cases opened
  · split at opened
    · cases opened
    next passes =>
      cases opened
      exact ⟨rfl, passes⟩

theorem loadsValid_new_iff {skill : SkillSpec} (opened : new skill initial = .ok store) :
    asStore.LoadsValid store ↔ initial.value.json.isObject = true := by
  obtain ⟨rfl, passes⟩ := new_ok opened
  simp [StateStore.LoadsValid, asStore, passes]

end InMemoryStateStore

namespace SqliteStateStore

/-- The states that can be read back from their text. -/
def readable (value : JsonValue) : Bool :=
  decide (value.json.depth ≤ JsonValue.maxDepth) && value.json.isObject

theorem readable_iff :
    readable value = true ↔ value.json.depth ≤ JsonValue.maxDepth ∧ value.json.isObject = true := by
  simp [readable]

theorem loadInner_toText (reader : JsonReader) (skill : SkillSpec) (value : JsonValue) :
    (loadInner ⟨reader, skill, some value.toText⟩).toOption =
      if readable value then some ⟨value⟩ else none := by
  simp only [loadInner, reader.fromStr_toText, readable]
  by_cases shallow : value.json.depth ≤ JsonValue.maxDepth
  · by_cases object : value.json.isObject = true <;>
      simp [shallow, object, ExecutionState.new, Except.toOption]
  · simp [shallow, Except.toOption]

theorem loadInner_isObject (loaded : loadInner store = .ok state) :
    state.value.json.isObject = true := by
  unfold loadInner at loaded
  split at loaded
  · cases loaded
  · split at loaded
    · cases loaded
    · unfold ExecutionState.new at loaded
      split at loaded
      next object =>
        cases loaded
        exact object
      · cases loaded

theorem refines : asStore.Refines readable where
  skill_commit store patch := by
    change (commit store patch).2.skill = store.skill
    unfold commit
    split
    · rfl
    · split <;> rfl
  load_commit store patch := by
    change (loadInner (commit store patch).2).toOption = (loadInner store).toOption.bind _
    unfold commit
    split
    next error failed => simp [failed, Except.toOption]
    next current loaded =>
      rw [loaded]
      change _ = StateStore.advance store.skill readable current patch
      unfold StateStore.advance
      split
      · rw [loaded]
        rfl
      · exact loadInner_toText _ _ _

theorem loadInner_of_load (loaded : asStore.load store = some state) :
    loadInner store = .ok state := by
  change (loadInner store).toOption = some state at loaded
  cases inner : loadInner store with
  | error error =>
    rw [inner] at loaded
    cases loaded
  | ok found =>
    rw [inner] at loaded
    cases loaded
    rfl

theorem isObject_of_accepts (accepts : asStore.Accepts store patch merged) :
    merged.json.isObject = patch.value.json.isObject := by
  obtain ⟨current, loaded, merging⟩ := accepts
  have object : current.value.json.isObject = true := loadInner_isObject (loadInner_of_load loaded)
  exact (mergeValid_ok_iff.mp merging).1.isObject_eq object

/-- `open` starts with the initial state on a fresh database and with a valid
state on any other. -/
theorem loadsValid_openStore_iff {reader : JsonReader} {skill : SkillSpec} {row : Option String}
    (opened : openStore reader skill row initial = .ok store) :
    asStore.LoadsValid store ↔ (row = none → readable initial.value = true) := by
  unfold openStore at opened
  split at opened
  · cases opened
  · split at opened
    · cases opened
    next passes =>
      cases row with
      | none =>
        cases opened
        simp only [StateStore.LoadsValid, asStore, loadInner_toText, forall_const]
        by_cases fits : readable initial.value = true
        · have object := fits
          rw [readable_iff] at object
          simp [fits, object.2, passes]
        · simp [fits]
      | some text =>
        refine iff_of_true ?_ (by simp)
        simp only [Option.isNone_some, Bool.false_eq_true, if_false] at opened
        split at opened
        · cases opened
        next existing loaded =>
          split at opened
          · cases opened
          next existingPasses =>
            cases opened
            refine ⟨existing, ?_, ?_, existingPasses⟩
            · simp [asStore, loaded, Except.toOption]
            · exact loadInner_isObject loaded

end SqliteStateStore

/-- Exactly which runs of the two stores load a valid state after every prefix
of their commits. -/
theorem stores_alwaysValid_iff (reader : JsonReader) (skill : SkillSpec)
    (initial : ExecutionState) (patches : List StatePatch) :
    (∀ store, InMemoryStateStore.new skill initial = .ok store →
      (InMemoryStateStore.asStore.AlwaysValid store patches ↔ initial.value.json.isObject = true ∧
          Runs.Along InMemoryStateStore.commit (fun state patch =>
            ∀ merged, InMemoryStateStore.asStore.Accepts state patch merged →
              patch.value.json.isObject = true) store patches)) ∧
      ∀ row store, SqliteStateStore.openStore reader skill row initial = .ok store →
        (SqliteStateStore.asStore.AlwaysValid store patches ↔
          (row = none → initial.value.json.isObject = true ∧
            initial.value.json.depth ≤ JsonValue.maxDepth) ∧
            Runs.Along SqliteStateStore.commit (fun state patch =>
              ∀ merged, SqliteStateStore.asStore.Accepts state patch merged →
                patch.value.json.isObject = true ∧
                  merged.json.depth ≤ JsonValue.maxDepth) store patches) := by
  refine ⟨?_, ?_⟩
  · intro store opened
    rw [InMemoryStateStore.refines.alwaysValid_iff, InMemoryStateStore.loadsValid_new_iff opened]
    simp only [and_true]
    rfl
  · intro row store opened
    rw [SqliteStateStore.refines.alwaysValid_iff, SqliteStateStore.loadsValid_openStore_iff opened]
    refine and_congr ?_ ?_
    · simp only [SqliteStateStore.readable_iff, and_comm]
    · refine forall₃_congr (fun done patch _ => forall₂_congr ?_)
      intro merged accepts
      rw [SqliteStateStore.readable_iff, SqliteStateStore.isObject_of_accepts accepts]
      tauto

namespace StoreSample

/-- A skill whose schema accepts everything. -/
def skill : SkillSpec :=
  { schema := ⟨.object [], Json.wellFormed_empty⟩
    instructions := "count"
    version := "1" }

def initial : ExecutionState :=
  ⟨⟨.object [], Json.wellFormed_empty⟩⟩

theorem one_wellFormed : (Json.number (.unsigned 1)).WellFormed :=
  .number (show 1 ≤ u64Max by decide)

def counted : StatePatch :=
  ⟨⟨.object [("counter", .number (.unsigned 1))],
    .object (List.pairwise_singleton _ _) (by simpa using one_wellFormed)⟩⟩

/-- A patch that has been deserialized and is no object. -/
def one : StatePatch :=
  ⟨⟨.number (.unsigned 1), one_wellFormed⟩⟩

theorem memory_opens : InMemoryStateStore.new skill initial =
    .ok { skill := skill, state := initial } := by
  rfl

def reader : JsonReader := ⟨_, JsonValue.fromStr_toText⟩

def database : SqliteStateStore := ⟨reader, skill, some initial.value.toText⟩

theorem sqlite_opens : SqliteStateStore.openStore reader skill none initial = .ok database := by
  rfl

/-- Both stores stay valid under an object patch. -/
theorem counted_alwaysValid :
    InMemoryStateStore.asStore.AlwaysValid { skill := skill, state := initial } [counted] ∧
      SqliteStateStore.asStore.AlwaysValid database [counted] := by
  refine ⟨?_, ?_⟩
  · refine ((stores_alwaysValid_iff reader skill initial [counted]).1 _ memory_opens).mpr ⟨rfl, ?_⟩
    refine (Runs.along_cons_iff _).mpr ⟨?_, by simp [Runs.Along]⟩
    intro merged _
    rfl
  · refine ((stores_alwaysValid_iff reader skill initial [counted]).2 none _
      sqlite_opens).mpr ⟨fun _ => ⟨rfl, by decide⟩, ?_⟩
    refine (Runs.along_cons_iff _).mpr ⟨?_, by simp [Runs.Along]⟩
    rintro merged ⟨current, loaded, merging⟩
    have starts : some initial = some current :=
      (SqliteStateStore.loadInner_toText reader skill initial.value).symm.trans loaded
    cases starts
    have merges : Except.ok counted.value.json = .ok merged.json := (mergeValid_ok_iff.mp merging).1
    rw [← Except.ok.inj merges]
    exact ⟨rfl, by decide⟩

/-- A number as the patch: the store in memory then holds a number, and the
other store has written one that it cannot load. -/
theorem one_not_alwaysValid :
    ¬ InMemoryStateStore.asStore.AlwaysValid { skill := skill, state := initial } [one] ∧
      ¬ SqliteStateStore.asStore.AlwaysValid database [one] := by
  refine ⟨?_, ?_⟩
  · intro valid
    obtain ⟨loaded, same, object, -⟩ := valid [one] List.prefix_rfl
    cases same
    cases object
  · intro valid
    obtain ⟨loaded, same, -⟩ := valid [one] List.prefix_rfl
    have unreadable : none = some loaded :=
      (SqliteStateStore.loadInner_toText reader skill one.value).symm.trans same
    cases unreadable

end StoreSample

end AgentState

end FusionRouter

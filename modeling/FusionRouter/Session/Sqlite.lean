import Mathlib.Data.List.Sort
import FusionRouter.Session.Store

/-!
# The SQLite session store

The two tables with their constraints, and the store that writes sessions and
snapshots to them column by column.  What SQLite leaves open, the order of rows
with equal timestamps, and what the hash map leaves open, the order in which a
configuration is written, are parameters.
-/

namespace FusionRouter

open List
open Externals (hyphenated)

namespace Session

theorem toInt_toInt64 (value : UInt64) :
    value.toInt64.toInt = if value.toNat < 2 ^ 63 then (value.toNat : Int)
      else value.toNat - 2 ^ 64 := by
  change value.toInt64.toBitVec.toInt = _
  rw [UInt64.toBitVec_toInt64, BitVec.toInt_eq_toNat_cond]
  have same : value.toBitVec.toNat = value.toNat := rfl
  rw [same]
  split <;> split <;> omega

/-- The order of the database is that of the timestamps on either side of
`2 ^ 63`, and the reverse across it. -/
theorem toInt64_le_iff {left right : UInt64} :
    left.toInt64 ≤ right.toInt64 ↔ if left.toNat < 2 ^ 63 ↔ right.toNat < 2 ^ 63 then left ≤ right
      else right ≤ left := by
  rw [Int64.le_iff_toInt_le, toInt_toInt64, toInt_toInt64,
    UInt64.le_iff_toNat_le, UInt64.le_iff_toNat_le]
  have leftBound := left.toNat_lt
  have rightBound := right.toNat_lt
  split <;> split <;> split <;> omega

namespace ExecutionState

def names : List (String × ExecutionState) :=
  [("Pending", .pending), ("Resolved", .resolved), ("Scheduled", .scheduled),
    ("Running", .running), ("Succeeded", .succeeded), ("Failed", .failed),
    ("Cancelled", .cancelled), ("TimedOut", .timedOut)]

def name : ExecutionState → String
  | .pending => "Pending"
  | .resolved => "Resolved"
  | .scheduled => "Scheduled"
  | .running => "Running"
  | .succeeded => "Succeeded"
  | .failed => "Failed"
  | .cancelled => "Cancelled"
  | .timedOut => "TimedOut"

/-- `serde_json::to_string`. -/
def toText (state : ExecutionState) : String :=
  (Json.string state.name).compact

def fromStr (text : String) : Option ExecutionState :=
  (Json.read text).bind (Json.variant names)

theorem fromStr_toText (state : ExecutionState) : fromStr state.toText = some state := by
  rw [fromStr, toText, Json.read_compact (.string _), Option.bind_some]
  cases state <;> rfl

end ExecutionState

def SessionSnapshot.swapIds (snapshot : SessionSnapshot) : SessionSnapshot :=
  { snapshot with
    sessionId := snapshot.snapshotId
    snapshotId := snapshot.sessionId }

/-- A row of the table `sessions`. -/
structure SessionRow where
  sessionId : String
  workflowId : String
  createdAtMs : Int64
  owner : String
  config : String
deriving DecidableEq

/-- A row of the table `snapshots`. -/
structure SnapshotRow where
  snapshotId : String
  sessionId : String
  currentNodeId : Option String
  state : String
  executionContextId : String
  traceId : String
  checkpointTimestampMs : Int64
deriving DecidableEq

/-- Behaviour of SQLite and of the standard library that the code cannot
control. -/
structure Environment where
  /-- The order in which the entries of a hash map are walked. -/
  hashOrder : List (String × String) → List (String × String)
  hashOrder_perm : ∀ entries, (hashOrder entries).Perm entries
  /-- `ORDER BY checkpoint_timestamp_ms ASC`. -/
  orderBy : List SnapshotRow → List SnapshotRow
  orderBy_perm : ∀ rows, (orderBy rows).Perm rows
  orderBy_sorted : ∀ rows, (orderBy rows).Pairwise (fun left right =>
    left.checkpointTimestampMs ≤ right.checkpointTimestampMs)

/-- Maps are walked in the order of their keys, and rows with equal timestamps
stay in the order in which they were inserted. -/
def Environment.sample : Environment where
  hashOrder := id
  hashOrder_perm entries := List.Perm.refl entries
  orderBy := List.insertionSort (fun left right =>
    left.checkpointTimestampMs ≤ right.checkpointTimestampMs)
  orderBy_perm rows := List.perm_insertionSort _ rows
  orderBy_sorted rows := by
    have : Std.Total (fun left right : SnapshotRow =>
        left.checkpointTimestampMs ≤ right.checkpointTimestampMs) :=
      ⟨fun left right => Int64.le_total _ _⟩
    have : IsTrans SnapshotRow (fun left right =>
        left.checkpointTimestampMs ≤ right.checkpointTimestampMs) :=
      ⟨fun _ _ _ first second => Int64.le_trans first second⟩
    exact List.pairwise_insertionSort _ rows

def ExecutionSession.sample (sessionId : SessionId) (owner : String) : ExecutionSession :=
  { sessionId := sessionId
    workflowId := 10
    createdAtMs := 100
    owner := owner
    config := StringMap.empty }

def SessionSnapshot.sample (sessionId : SessionId) (snapshotId : Uuid) (timestamp : UInt64) :
    SessionSnapshot :=
  { sessionId := sessionId
    snapshotId := snapshotId
    currentNodeId := some 4
    state := .running
    executionContextId := 5
    traceId := 6
    checkpointTimestampMs := timestamp }

/-- `map_err`; what a parser says about a bad text is left out of the
message. -/
def orError {α : Type} (message : String) : Option α → Except String α
  | none => .error message
  | some value => .ok value

namespace SessionRow

/-- The parameters of the `INSERT` of `create_session`. -/
def ofSession (environment : Environment) (session : ExecutionSession) :
    SessionRow :=
  { sessionId := hyphenated session.sessionId
    workflowId := hyphenated session.workflowId
    createdAtMs := session.createdAtMs.toInt64
    owner := session.owner
    config := StringMap.textOf (environment.hashOrder session.config.entries) }

/-- The session that `load_session` makes of a row. -/
def toSession (row : SessionRow) : Except String ExecutionSession := do
  let sessionId ← orError "bad session_id" (Uuid.parseStr row.sessionId)
  let workflowId ← orError "bad workflow_id" (Uuid.parseStr row.workflowId)
  let config ← orError "failed to deserialize config" (StringMap.fromStr row.config)
  return { sessionId, workflowId
           createdAtMs := row.createdAtMs.toUInt64
           owner := row.owner
           config }

theorem toSession_ofSession (environment : Environment) (session : ExecutionSession) :
    (ofSession environment session).toSession = .ok session := by
  have config := StringMap.fromStr_textOf session.config
    (environment.hashOrder_perm session.config.entries)
  simp [toSession, ofSession, Uuid.parseStr_hyphenated, config, orError, bind,
    Except.bind, pure, Except.pure]

end SessionRow

namespace SnapshotRow

/-- The parameters of the `INSERT` of `save_snapshot`. -/
def ofSnapshot (snapshot : SessionSnapshot) : SnapshotRow :=
  { snapshotId := hyphenated snapshot.snapshotId
    sessionId := hyphenated snapshot.sessionId
    currentNodeId := snapshot.currentNodeId.map hyphenated
    state := snapshot.state.toText
    executionContextId := hyphenated snapshot.executionContextId
    traceId := hyphenated snapshot.traceId
    checkpointTimestampMs := snapshot.checkpointTimestampMs.toInt64 }

/-- The columns in the order of the `SELECT` of `list_checkpoints`. -/
def columns (row : SnapshotRow) :
    String × String × Option String × String × String × String × Int64 :=
  (row.snapshotId, row.sessionId, row.currentNodeId, row.state,
    row.executionContextId, row.traceId, row.checkpointTimestampMs)

/-- The snapshot that `list_checkpoints` makes of a row.  The loop calls the
first column the session and the second one the snapshot. -/
def toSnapshot (row : SnapshotRow) : Except String SessionSnapshot :=
  let (sid, ssid, nodeId, stateJson, execCtx, traceText, ts) := row.columns
  do
    let snapshotId ← orError "bad snapshot_id" (Uuid.parseStr ssid)
    let sessionId ← orError "bad session_id" (Uuid.parseStr sid)
    let currentNodeId ← nodeId.mapM (fun text => orError "bad current_node_id" (Uuid.parseStr text))
    let state ← orError "failed to deserialize state" (ExecutionState.fromStr stateJson)
    let executionContextId ← orError "bad execution_context_id" (Uuid.parseStr execCtx)
    let traceId ← orError "bad trace_id" (Uuid.parseStr traceText)
    return { sessionId, snapshotId, currentNodeId, state, executionContextId
             traceId
             checkpointTimestampMs := ts.toUInt64 }

/-- A snapshot comes back with its two ids exchanged. -/
theorem toSnapshot_ofSnapshot (snapshot : SessionSnapshot) :
    (ofSnapshot snapshot).toSnapshot = .ok snapshot.swapIds := by
  obtain ⟨sessionId, snapshotId, node, state, context, trace, timestamp⟩ := snapshot
  cases node <;>
    simp [toSnapshot, columns, ofSnapshot, Uuid.parseStr_hyphenated,
      ExecutionState.fromStr_toText, SessionSnapshot.swapIds, orError, bind,
      Except.bind, pure, Except.pure, Functor.map, Except.map]

theorem mapM_toSnapshot (snapshots : List SessionSnapshot) :
    (snapshots.map ofSnapshot).mapM toSnapshot = .ok (snapshots.map SessionSnapshot.swapIds) := by
  induction snapshots with
  | nil => rfl
  | cons snapshot snapshots induction =>
    rw [map_cons, mapM_cons, toSnapshot_ofSnapshot, induction]
    rfl

end SnapshotRow

/-- The database. -/
structure SqliteSessionStore where
  sessions : List SessionRow
  snapshots : List SnapshotRow
deriving DecidableEq

namespace SqliteSessionStore

def new : SqliteSessionStore :=
  { sessions := [], snapshots := [] }

section

variable (db : SqliteSessionStore)

/-- `SELECT … FROM sessions WHERE session_id = ?1`, for one row. -/
def findSession (sid : String) : Option SessionRow :=
  db.sessions.find? (fun row => row.sessionId = sid)

def ownerOf (id : SessionId) : Option String :=
  (db.findSession (hyphenated id)).map SessionRow.owner

/-- `SELECT … FROM snapshots WHERE session_id = ?1`. -/
def snapshotsOf (sid : String) : List SnapshotRow :=
  db.snapshots.filter (fun row => row.sessionId = sid)

/-- `INSERT INTO sessions`, under the primary key. -/
def insertSession (row : SessionRow) : Except String SqliteSessionStore :=
  if (db.findSession row.sessionId).isSome then
    .error "UNIQUE constraint failed: sessions.session_id"
  else .ok { db with sessions := db.sessions ++ [row] }

/-- `INSERT INTO snapshots`, under the primary key and the foreign key. -/
def insertSnapshot (row : SnapshotRow) : Except String SqliteSessionStore :=
  if db.snapshots.any (fun other => other.snapshotId = row.snapshotId) then
    .error "UNIQUE constraint failed: snapshots.snapshot_id"
  else if (db.findSession row.sessionId).isNone then
    .error "FOREIGN KEY constraint failed"
  else .ok { db with snapshots := db.snapshots ++ [row] }

/-- `DELETE FROM snapshots WHERE session_id = ?1`. -/
def deleteSnapshots (sid : String) : SqliteSessionStore :=
  { db with snapshots := db.snapshots.filter (fun row => row.sessionId ≠ sid) }

/-- `DELETE FROM sessions WHERE session_id = ?1`, with `ON DELETE CASCADE`. -/
def deleteSessionRow (sid : String) : SqliteSessionStore :=
  { sessions := db.sessions.filter (fun row => row.sessionId ≠ sid)
    snapshots := db.snapshots.filter (fun row => row.sessionId ≠ sid) }

end

variable (environment : Environment)

section

variable (db : SqliteSessionStore)

def createSession (session : ExecutionSession) : Except String Unit × SqliteSessionStore :=
  match db.insertSession (.ofSession environment session) with
  | .error error => (.error ("failed to insert session: " ++ error), db)
  | .ok next => (.ok (), next)

def loadSession (id : SessionId) (owner : Option String) :
    Except String (Option ExecutionSession) :=
  match db.findSession (hyphenated id) with
  | none => .ok none
  | some row =>
    if owner.any (fun want => row.owner ≠ want) then .ok none
    else
      row.toSession.map some

def saveSnapshot (snapshot : SessionSnapshot) (owner : Option String) :
    Except String Unit × SqliteSessionStore :=
  match checkOwner (db.ownerOf snapshot.sessionId) snapshot.sessionId owner with
  | .error error => (.error error, db)
  | .ok () =>
    match db.insertSnapshot (.ofSnapshot snapshot) with
    | .error error => (.error ("failed to insert snapshot: " ++ error), db)
    | .ok next => (.ok (), next)

def listCheckpoints (id : SessionId) (owner : Option String) :
    Except String (List SessionSnapshot) :=
  match checkOwner (db.ownerOf id) id owner with
  | .error error => .error error
  | .ok () =>
    (environment.orderBy (db.snapshotsOf (hyphenated id))).mapM SnapshotRow.toSnapshot

def deleteSession (id : SessionId) (owner : Option String) :
    Except String Unit × SqliteSessionStore :=
  match checkOwner (db.ownerOf id) id owner with
  | .error error => (.error error, db)
  | .ok () =>
    (.ok (), (db.deleteSnapshots (hyphenated id)).deleteSessionRow
      (hyphenated id))

def asStore : SessionStore SqliteSessionStore :=
  { createSession := createSession environment
    loadSession := loadSession
    saveSnapshot := saveSnapshot
    listCheckpoints := listCheckpoints environment
    deleteSession := deleteSession }

/-! ### What a call depends on and what it changes -/

/-- There is a snapshot with this id, of whatever session. -/
def taken (id : Uuid) : Bool :=
  db.snapshots.any (fun row => row.snapshotId = hyphenated id)

end

/-- The result of `create_session`, from the owner of the session's id. -/
def createResult (held : Option String) : Except String Unit :=
  if held.isSome then
    .error ("failed to insert session: " ++ "UNIQUE constraint failed: sessions.session_id")
  else .ok ()

/-- The result of `save_snapshot`, from the owner of the session and whether
the snapshot's id is taken. -/
def saveResult (held : Option String) (isTaken : Bool) (id : SessionId)
    (owner : Option String) : Except String Unit :=
  match checkOwner held id owner with
  | .error error => .error error
  | .ok () =>
    if isTaken then
      .error ("failed to insert snapshot: " ++ "UNIQUE constraint failed: snapshots.snapshot_id")
    else if held.isNone then
      .error ("failed to insert snapshot: " ++ "FOREIGN KEY constraint failed")
    else .ok ()

variable {id : SessionId}

theorem saveResult_isOk_iff :
    (saveResult held isTaken id owner).isOk = true ↔
      (checkOwner held id owner).isOk = true ∧ isTaken = false ∧ held ≠ none := by
  unfold saveResult
  cases checkOwner held id owner with
  | error error => simp [Except.isOk, Except.toBool]
  | ok granted =>
    cases isTaken <;> cases held <;> simp [Except.isOk, Except.toBool]

def addSession (db : SqliteSessionStore) (session : ExecutionSession) :
    SqliteSessionStore :=
  { db with sessions := db.sessions ++ [.ofSession environment session] }

def addSnapshot (db : SqliteSessionStore) (snapshot : SessionSnapshot) :
    SqliteSessionStore :=
  { db with snapshots := db.snapshots ++ [.ofSnapshot snapshot] }

section

variable (db : SqliteSessionStore)
include db

theorem createSession_eq (session : ExecutionSession) :
    createSession environment db session =
      (createResult (db.ownerOf session.sessionId), if (db.ownerOf session.sessionId).isSome then db
        else db.addSession environment session) := by
  have held : (db.findSession (SessionRow.ofSession environment
      session).sessionId).isSome = (db.ownerOf session.sessionId).isSome := by
    simp [ownerOf, SessionRow.ofSession]
  simp only [createSession, insertSession, createResult, held]
  cases (db.ownerOf session.sessionId).isSome <;> rfl

theorem saveSnapshot_eq (snapshot : SessionSnapshot) (owner : Option String) :
    saveSnapshot db snapshot owner =
      (saveResult (db.ownerOf snapshot.sessionId) (db.taken snapshot.snapshotId)
          snapshot.sessionId owner,
        if (saveResult (db.ownerOf snapshot.sessionId)
            (db.taken snapshot.snapshotId) snapshot.sessionId owner).isOk then
          db.addSnapshot snapshot
        else db) := by
  have held : (db.findSession (SnapshotRow.ofSnapshot
      snapshot).sessionId).isNone = (db.ownerOf snapshot.sessionId).isNone := by
    simp [ownerOf, SnapshotRow.ofSnapshot]
  have isTaken : db.snapshots.any (fun other => other.snapshotId =
      (SnapshotRow.ofSnapshot snapshot).snapshotId) = db.taken snapshot.snapshotId := rfl
  cases checking : checkOwner (db.ownerOf snapshot.sessionId) snapshot.sessionId owner with
  | error error =>
    simp only [saveSnapshot, saveResult, checking]
    rfl
  | ok granted =>
    simp only [saveSnapshot, insertSnapshot, saveResult, checking, held, isTaken]
    cases db.taken snapshot.snapshotId <;> cases (db.ownerOf snapshot.sessionId).isNone <;> rfl

theorem deleteSession_eq (id : SessionId) (owner : Option String) :
    deleteSession db id owner = (checkOwner (db.ownerOf id) id owner,
        if (checkOwner (db.ownerOf id) id owner).isOk then
          db.deleteSessionRow (hyphenated id)
        else db) := by
  unfold deleteSession
  cases checkOwner (db.ownerOf id) id owner with
  | error error => rfl
  | ok granted =>
    simp [deleteSessionRow, deleteSnapshots, Except.isOk, Except.toBool]

theorem findSession_addSession (session : ExecutionSession) (id : SessionId) :
    (db.addSession environment session).findSession (hyphenated id) =
      (db.findSession (hyphenated id)).or
        (if session.sessionId = id then
          some (.ofSession environment session)
        else none) := by
  simp only [findSession, addSession, find?_append, find?_singleton]
  simp [SessionRow.ofSession, Uuid.hyphenated_injective.eq_iff]

end

/-- The rows of a session are none of another one's. -/
theorem ne_hyphenated_and_eq_iff (different : id ≠ other) :
    text ≠ hyphenated other ∧ text = hyphenated id ↔
      text = hyphenated id := by
  refine and_iff_right_of_imp ?_
  rintro rfl
  exact Uuid.hyphenated_injective.ne different

theorem findSession_delete (db : SqliteSessionStore) (other id : SessionId) :
    (db.deleteSessionRow (hyphenated other)).findSession
        (hyphenated id) = if id = other then none
      else db.findSession (hyphenated id) := by
  simp only [findSession, deleteSessionRow, find?_filter]
  split
  next same =>
    subst same
    simp
  next different => simp [ne_hyphenated_and_eq_iff different]

theorem snapshotsOf_addSnapshot (db : SqliteSessionStore)
    (snapshot : SessionSnapshot) (id : SessionId) :
    (db.addSnapshot snapshot).snapshotsOf (hyphenated id) =
      db.snapshotsOf (hyphenated id) ++
        if snapshot.sessionId = id then [.ofSnapshot snapshot] else [] := by
  simp only [snapshotsOf, addSnapshot, filter_append]
  congr 1
  by_cases same : snapshot.sessionId = id <;>
    simp [SnapshotRow.ofSnapshot, Uuid.hyphenated_injective.eq_iff, same]

theorem snapshotsOf_delete (db : SqliteSessionStore) (other id : SessionId) :
    (db.deleteSessionRow (hyphenated other)).snapshotsOf
        (hyphenated id) = if id = other then []
      else db.snapshotsOf (hyphenated id) := by
  simp only [snapshotsOf, deleteSessionRow, filter_filter]
  split
  next same =>
    subst same
    simp
  next different =>
    simp only [← Bool.decide_and, and_comm, ne_hyphenated_and_eq_iff different]

theorem listCheckpoints_eq (visible : checkOwner (db.ownerOf id) id owner = .ok ())
    (rows : db.snapshotsOf (hyphenated id) = saved.map SnapshotRow.ofSnapshot) :
    ∃ sorted : List SessionSnapshot, sorted.Perm saved ∧
      sorted.Pairwise (fun left right => left.checkpointTimestampMs.toInt64 ≤
          right.checkpointTimestampMs.toInt64) ∧ listCheckpoints environment db id owner =
        .ok (sorted.map SessionSnapshot.swapIds) := by
  have permuted := environment.orderBy_perm (db.snapshotsOf (hyphenated id))
  have ordered := environment.orderBy_sorted (db.snapshotsOf (hyphenated id))
  have listing : listCheckpoints environment db id owner =
      (environment.orderBy (db.snapshotsOf (hyphenated id))).mapM
        SnapshotRow.toSnapshot := by
    simp only [listCheckpoints, visible]
  generalize environment.orderBy
    (db.snapshotsOf (hyphenated id)) = listed at permuted ordered listing
  rw [rows] at permuted
  obtain ⟨sorted, rfl, reordered⟩ := (iff_of_eq (congrFun₂
    (eq_map_comp_perm SnapshotRow.ofSnapshot) listed saved)).mpr permuted
  rw [pairwise_map] at ordered
  refine ⟨sorted, reordered, ordered, ?_⟩
  rw [listing, SnapshotRow.mapM_toSnapshot]

end SqliteSessionStore

end Session

end FusionRouter

import FusionRouter.Types.Deserialize
import FusionRouter.Types.UuidText

/-!
# Session stores

Sessions and their snapshots, the interface of a session store, and the store
that keeps both in hash maps.
-/

namespace FusionRouter

namespace Session

/-- `SessionId`, a UUID that is written like one. -/
abbrev SessionId := Uuid

inductive ExecutionState where
  | pending
  | resolved
  | scheduled
  | running
  | succeeded
  | failed
  | cancelled
  | timedOut
deriving Repr, DecidableEq

structure ExecutionSession where
  sessionId : SessionId
  workflowId : Uuid
  createdAtMs : UInt64
  owner : String
  config : StringMap
deriving DecidableEq

structure SessionSnapshot where
  sessionId : SessionId
  snapshotId : Uuid
  currentNodeId : Option Uuid
  state : ExecutionState
  executionContextId : Uuid
  traceId : Uuid
  checkpointTimestampMs : UInt64
deriving DecidableEq

def notFound (id : SessionId) : String :=
  "session not found: " ++ Externals.hyphenated id

/-- The trait `SessionStore`. -/
structure SessionStore (σ : Type) where
  createSession : σ → ExecutionSession → Except String Unit × σ
  loadSession : σ → SessionId → Option String → Except String (Option ExecutionSession)
  saveSnapshot : σ → SessionSnapshot → Option String → Except String Unit × σ
  listCheckpoints : σ → SessionId → Option String → Except String (List SessionSnapshot)
  deleteSession : σ → SessionId → Option String → Except String Unit × σ

inductive Call where
  | createSession (session : ExecutionSession)
  | loadSession (id : SessionId) (owner : Option String)
  | saveSnapshot (snapshot : SessionSnapshot) (owner : Option String)
  | listCheckpoints (id : SessionId) (owner : Option String)
  | deleteSession (id : SessionId) (owner : Option String)
deriving DecidableEq

inductive Reply where
  | written (result : Except String Unit)
  | loaded (result : Except String (Option ExecutionSession))
  | listed (result : Except String (List SessionSnapshot))
deriving DecidableEq

def SessionStore.answer {σ : Type} (store : SessionStore σ) (state : σ) :
    Call → Reply × σ
  | .createSession session =>
    (.written (store.createSession state session).1, (store.createSession state session).2)
  | .loadSession id owner => (.loaded (store.loadSession state id owner), state)
  | .saveSnapshot snapshot owner =>
    (.written (store.saveSnapshot state snapshot owner).1,
      (store.saveSnapshot state snapshot owner).2)
  | .listCheckpoints id owner =>
    (.listed (store.listCheckpoints state id owner), state)
  | .deleteSession id owner =>
    (.written (store.deleteSession state id owner).1, (store.deleteSession state id owner).2)

/-- The check of `save_snapshot`, `list_checkpoints` and `delete_session`,
given the owner that the store has for the session. -/
def checkOwner (held : Option String) (id : SessionId)
    (owner : Option String) : Except String Unit :=
  match owner with
  | none => .ok ()
  | some want => if held = some want then .ok () else .error (notFound id)

theorem checkOwner_isOk_iff {id : SessionId} :
    (checkOwner held id (some want)).isOk = true ↔ held = some want := by
  by_cases same : held = some want <;> simp [checkOwner, same, Except.isOk, Except.toBool]

structure InMemorySessionStore where
  sessions : Table SessionId ExecutionSession
  snapshots : Table SessionId (List SessionSnapshot)

namespace InMemorySessionStore

def new : InMemorySessionStore :=
  { sessions := Table.empty, snapshots := Table.empty }

variable (state : InMemorySessionStore)

def ownerOf (id : SessionId) : Option String :=
  (state.sessions id).map ExecutionSession.owner

def checkpoints (id : SessionId) : List SessionSnapshot :=
  (state.snapshots id).getD []

def createSession (session : ExecutionSession) : Except String Unit × InMemorySessionStore :=
  (.ok (), { state with
    sessions := state.sessions.insert session.sessionId session })

def loadSession (id : SessionId) (owner : Option String) :
    Except String (Option ExecutionSession) :=
  match state.sessions id, owner with
  | some session, some want =>
    if session.owner ≠ want then .ok none else .ok (some session)
  | other, _ => .ok other

def saveSnapshot (snapshot : SessionSnapshot) (owner : Option String) :
    Except String Unit × InMemorySessionStore :=
  match checkOwner (state.ownerOf snapshot.sessionId) snapshot.sessionId owner with
  | .error error => (.error error, state)
  | .ok () =>
    (.ok (), { state with
      snapshots := state.snapshots.insert snapshot.sessionId
        (state.checkpoints snapshot.sessionId ++ [snapshot]) })

def listCheckpoints (id : SessionId) (owner : Option String) :
    Except String (List SessionSnapshot) :=
  match checkOwner (state.ownerOf id) id owner with
  | .error error => .error error
  | .ok () => .ok (state.checkpoints id)

def deleteSession (id : SessionId) (owner : Option String) :
    Except String Unit × InMemorySessionStore :=
  match checkOwner (state.ownerOf id) id owner with
  | .error error => (.error error, state)
  | .ok () =>
    (.ok (), { sessions := state.sessions.remove id
               snapshots := state.snapshots.remove id })

def asStore : SessionStore InMemorySessionStore :=
  { createSession, loadSession, saveSnapshot, listCheckpoints, deleteSession }

/-! ### What a call depends on and what it changes -/

def addSnapshot (snapshot : SessionSnapshot) : InMemorySessionStore :=
  { state with
    snapshots := state.snapshots.insert snapshot.sessionId
      (state.checkpoints snapshot.sessionId ++ [snapshot]) }

def remove (id : SessionId) : InMemorySessionStore :=
  { sessions := state.sessions.remove id
    snapshots := state.snapshots.remove id }

theorem saveSnapshot_eq (snapshot : SessionSnapshot) (owner : Option String)
    :
    saveSnapshot state snapshot owner =
      (checkOwner (state.ownerOf snapshot.sessionId) snapshot.sessionId owner,
        if (checkOwner (state.ownerOf snapshot.sessionId) snapshot.sessionId
            owner).isOk then state.addSnapshot snapshot
        else state) := by
  cases checking : checkOwner (state.ownerOf snapshot.sessionId) snapshot.sessionId owner with
  | error error => simp [saveSnapshot, checking, Except.isOk, Except.toBool]
  | ok granted =>
    simp [saveSnapshot, checking, Except.isOk, Except.toBool, addSnapshot]

theorem deleteSession_eq (id : SessionId) (owner : Option String) :
    deleteSession state id owner = (checkOwner (state.ownerOf id) id owner,
        if (checkOwner (state.ownerOf id) id owner).isOk then state.remove id
        else state) := by
  cases checking : checkOwner (state.ownerOf id) id owner with
  | error error => simp [deleteSession, checking, Except.isOk, Except.toBool]
  | ok granted =>
    simp [deleteSession, checking, Except.isOk, Except.toBool, remove]

end InMemorySessionStore

end Session

end FusionRouter

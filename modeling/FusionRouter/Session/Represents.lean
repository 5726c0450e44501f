import FusionRouter.Session.Sqlite

/-!
# The database as two maps

A database whose rows were all written by the store represents a map of
sessions and a map of snapshots.  Every call that SQLite accepts does to the
represented maps what the store in memory does to its own.
-/

namespace FusionRouter

namespace Session

namespace SqliteSessionStore

/-- The rows of the database are those of these maps. -/
structure Represents (environment : Environment)
    (state : InMemorySessionStore) (db : SqliteSessionStore) : Prop where
  sessions : ∀ id, db.findSession (Externals.hyphenated id) =
    (state.sessions id).map (SessionRow.ofSession environment)
  snapshots : ∀ id, db.snapshotsOf (Externals.hyphenated id) =
    (state.checkpoints id).map SnapshotRow.ofSnapshot
  rows : ∀ row, row ∈ db.snapshots → ∃ id, row.sessionId = Externals.hyphenated id

namespace Represents

theorem new : Represents environment .new .new where
  sessions _ := rfl
  snapshots _ := rfl
  rows _ member := by cases member

section

variable (represents : Represents environment state db)
include represents

theorem ownerOf (id : SessionId) : db.ownerOf id = state.ownerOf id := by
  rw [SqliteSessionStore.ownerOf, represents.sessions id, Option.map_map]
  rfl

theorem loadSession (id : SessionId) (owner : Option String) :
    loadSession db id owner = InMemorySessionStore.loadSession state id owner := by
  unfold SqliteSessionStore.loadSession InMemorySessionStore.loadSession
  rw [represents.sessions id]
  cases state.sessions id with
  | none => rfl
  | some session =>
    have same : (SessionRow.ofSession environment session).owner =
        session.owner :=
      rfl
    cases owner with
    | none =>
      simp [SessionRow.toSession_ofSession, Except.map]
    | some want =>
      by_cases different : session.owner = want <;>
        simp [same, different, SessionRow.toSession_ofSession, Except.map]

theorem taken_iff {id : Uuid} :
    db.taken id = true ↔ ∃ session snapshot, snapshot ∈ state.checkpoints session ∧
        snapshot.snapshotId = id := by
  rw [taken, List.any_eq_true]
  constructor
  · rintro ⟨row, member, same⟩
    obtain ⟨session, belongs⟩ := represents.rows row member
    have listed : row ∈ db.snapshotsOf (Externals.hyphenated session) :=
      List.mem_filter.mpr ⟨member, decide_eq_true belongs⟩
    rw [represents.snapshots session] at listed
    obtain ⟨snapshot, held, rfl⟩ := List.mem_map.mp listed
    exact ⟨session, snapshot, held, Uuid.hyphenated_injective (of_decide_eq_true same)⟩
  · rintro ⟨session, snapshot, held, rfl⟩
    have listed : SnapshotRow.ofSnapshot snapshot ∈
        db.snapshotsOf (Externals.hyphenated session) := by
      rw [represents.snapshots session]
      exact List.mem_map_of_mem held
    exact ⟨_, (List.mem_filter.mp listed).1, decide_eq_true rfl⟩

theorem addSession (free : state.ownerOf session.sessionId = none) :
    Represents environment (InMemorySessionStore.createSession state session).2
      (db.addSession environment session) where
  sessions id := by
    rw [findSession_addSession, represents.sessions id]
    simp only [InMemorySessionStore.createSession, Table.insert_apply]
    by_cases same : id = session.sessionId
    · subst same
      have absent : state.sessions session.sessionId = none := Option.map_eq_none_iff.mp free
      simp [absent]
    · simp [same, Ne.symm same]
  snapshots := represents.snapshots
  rows := represents.rows

theorem addSnapshot (snapshot : SessionSnapshot) :
    Represents environment (state.addSnapshot snapshot) (db.addSnapshot snapshot) where
  sessions := represents.sessions
  snapshots id := by
    rw [snapshotsOf_addSnapshot, represents.snapshots id]
    simp only [InMemorySessionStore.checkpoints,
      InMemorySessionStore.addSnapshot, Table.insert_apply]
    by_cases same : id = snapshot.sessionId
    · simp [same]
    · simp [same, Ne.symm same]
  rows row member := by
    rcases List.mem_append.mp member with old | now
    · exact represents.rows row old
    · rw [List.mem_singleton.mp now]
      exact ⟨snapshot.sessionId, rfl⟩

theorem remove (other : SessionId) :
    Represents environment (state.remove other)
      (db.deleteSessionRow (Externals.hyphenated other)) where
  sessions id := by
    rw [findSession_delete, represents.sessions id]
    simp only [InMemorySessionStore.remove, Table.remove_apply]
    split <;> rfl
  snapshots id := by
    rw [snapshotsOf_delete, represents.snapshots id]
    simp only [InMemorySessionStore.checkpoints, InMemorySessionStore.remove, Table.remove_apply]
    split <;> rfl
  rows row member := represents.rows row (List.mem_filter.mp member).1

end

end Represents

end SqliteSessionStore

end Session

end FusionRouter

import FusionRouter.Lib.Runs
import FusionRouter.Session.Sqlite

/-!
# Checkpoints of the SQLite store

What `list_checkpoints` returns after any history of calls: every snapshot that
was saved for the session since it was last deleted, in the order of their
timestamps, but with snapshot id and session id exchanged.
-/

namespace FusionRouter

open List

namespace Session

namespace SessionStore

variable {σ : Type} (store : SessionStore σ)

def savedNext (id : SessionId) (state : σ) (saved : List SessionSnapshot) :
    Call → List SessionSnapshot
  | .saveSnapshot snapshot owner =>
    if snapshot.sessionId = id ∧ (store.saveSnapshot state snapshot owner).1.isOk then
      saved ++ [snapshot]
    else saved
  | .deleteSession other owner =>
    if other = id ∧ (store.deleteSession state other owner).1.isOk then []
    else saved
  | _ => saved

/-- The snapshots that were saved for a session since it was last deleted, in
the order in which they were saved. -/
def saved (id : SessionId) (start : σ) (calls : List Call) : List SessionSnapshot :=
  (calls.foldl (fun progress call => ((store.answer progress.1 call).2,
      store.savedNext id progress.1 progress.2 call)) (start, [])).2

theorem saved_concat (id : SessionId) (start : σ) (calls : List Call) (call : Call) :
    store.saved id start (calls ++ [call]) =
      store.savedNext id (Runs.after store.answer start calls)
        (store.saved id start calls) call := by
  have states : ∀ (done : List Call) (state : σ) (saved : List SessionSnapshot),
      (done.foldl (fun progress call => ((store.answer progress.1 call).2,
          store.savedNext id progress.1 progress.2 call)) (state, saved)).1 =
        Runs.after store.answer state done := by
    intro done
    induction done with
    | nil =>
      intro state saved
      rfl
    | cons call done induction =>
      intro state saved
      exact induction _ _
  rw [saved, foldl_concat, states, saved]

theorem mem_saved {store : SessionStore σ} {id : SessionId}
    (member : snapshot ∈ store.saved id start calls) :
    snapshot.sessionId = id ∧ ∃ owner, Call.saveSnapshot snapshot owner ∈ calls := by
  induction calls using reverseRecOn with
  | nil => cases member
  | append_singleton calls call induction =>
    have earlier : snapshot ∈ store.saved id start calls → snapshot.sessionId = id ∧
          ∃ owner, Call.saveSnapshot snapshot owner ∈ calls ++ [call] := by
      intro before
      obtain ⟨session, owner, found⟩ := induction before
      exact ⟨session, owner, mem_append_left _ found⟩
    rw [saved_concat] at member
    cases call with
    | saveSnapshot latest owner =>
      simp only [savedNext] at member
      split at member
      next accepted =>
        rcases mem_append.mp member with before | now
        · exact earlier before
        · rw [mem_singleton.mp now]
          exact ⟨accepted.1, owner, by simp⟩
      · exact earlier member
    | deleteSession other owner =>
      simp only [savedNext] at member
      split at member
      · cases member
      · exact earlier member
    | _ => exact earlier member

end SessionStore

namespace SqliteSessionStore

variable (environment : Environment)

theorem snapshotsOf_answer (id : SessionId)
    (rows : db.snapshotsOf (Externals.hyphenated id) =
      saved.map SnapshotRow.ofSnapshot) (call : Call) :
    ((asStore environment).answer db call).2.snapshotsOf (Externals.hyphenated id) =
      ((asStore environment).savedNext id db saved call).map
        SnapshotRow.ofSnapshot := by
  cases call with
  | createSession session =>
    change (createSession environment db session).2.snapshotsOf _ = _
    rw [createSession_eq]
    dsimp only
    split
    · exact rows
    · exact rows
  | loadSession other owner | listCheckpoints other owner => exact rows
  | saveSnapshot snapshot owner =>
    change (saveSnapshot db snapshot owner).2.snapshotsOf _ =
      map _ (if snapshot.sessionId = id ∧ (saveSnapshot db snapshot owner).1.isOk then _ else _)
    rw [saveSnapshot_eq]
    dsimp only
    generalize saveResult _ _ _ _ = result
    cases result with
    | error error => simpa [Except.isOk, Except.toBool] using rows
    | ok granted =>
      simp only [Except.isOk, Except.toBool, if_true, and_true, snapshotsOf_addSnapshot, rows]
      by_cases same : snapshot.sessionId = id <;> simp [same]
  | deleteSession other owner =>
    change (deleteSession db other owner).2.snapshotsOf _ =
      map _ (if other = id ∧ (deleteSession db other owner).1.isOk then _ else _)
    rw [deleteSession_eq]
    dsimp only
    generalize checkOwner _ _ _ = result
    cases result with
    | error error => simpa [Except.isOk, Except.toBool] using rows
    | ok granted =>
      simp only [Except.isOk, Except.toBool, if_true, and_true, snapshotsOf_delete, rows]
      by_cases same : id = other
      · simp [same]
      · simp [same, Ne.symm same]

theorem snapshotsOf_after (id : SessionId) (calls : List Call) :
    (Runs.after (asStore environment).answer new calls).snapshotsOf (Externals.hyphenated id) =
      ((asStore environment).saved id new calls).map
        SnapshotRow.ofSnapshot := by
  induction calls using reverseRecOn with
  | nil => rfl
  | append_singleton calls call induction =>
    rw [Runs.after_concat, SessionStore.saved_concat]
    exact snapshotsOf_answer environment id induction call

/-- What is listed after any calls, and when it is what was saved. -/
theorem listCheckpoints_saved_iff (calls : List Call) (id : SessionId) (owner : Option String)
    (visible : checkOwner ((Runs.after (asStore environment).answer new
      calls).ownerOf id) id owner = .ok ())
    (small : ∀ snapshot owner, Call.saveSnapshot snapshot owner ∈ calls →
      snapshot.checkpointTimestampMs.toNat < 2 ^ 63) :
    ∃ listed, listCheckpoints environment
        (Runs.after (asStore environment).answer new calls) id owner = .ok listed ∧
      listed.Pairwise (fun left right => left.checkpointTimestampMs ≤ right.checkpointTimestampMs) ∧
      listed.Perm (((asStore environment).saved id new calls).map SessionSnapshot.swapIds) ∧
      (listed.Perm ((asStore environment).saved id new calls) ↔
        ∀ snapshot, snapshot ∈ (asStore environment).saved id new calls →
          snapshot.snapshotId = id) := by
  obtain ⟨sorted, permuted, ordered, listing⟩ := listCheckpoints_eq environment
    visible (snapshotsOf_after environment id calls)
  refine ⟨_, listing, ?_, permuted.map _, ?_⟩
  · refine pairwise_map.mpr ?_
    refine List.Pairwise.imp_of_mem ?_ ordered
    intro left right leftListed rightListed below
    obtain ⟨-, leftOwner, leftSaved⟩ := SessionStore.mem_saved (permuted.mem_iff.mp leftListed)
    obtain ⟨-, rightOwner, rightSaved⟩ := SessionStore.mem_saved (permuted.mem_iff.mp rightListed)
    rw [toInt64_le_iff, if_pos] at below
    · exact below
    · exact iff_of_true (small left leftOwner leftSaved) (small right rightOwner rightSaved)
  · constructor
    · intro same snapshot saved
      obtain ⟨original, listed, rfl⟩ := mem_map.mp (same.mem_iff.mpr saved)
      exact (SessionStore.mem_saved (permuted.mem_iff.mp listed)).1
    · intro each
      have unchanged : sorted.map SessionSnapshot.swapIds = sorted := by
        refine (map_congr_left ?_).trans (map_id sorted)
        intro snapshot listed
        have saved := permuted.mem_iff.mp listed
        have session := (SessionStore.mem_saved saved).1
        have same := each snapshot saved
        rw [← session] at same
        cases snapshot
        cases same
        rfl
      rw [unchanged]
      exact permuted

end SqliteSessionStore

namespace CheckpointSample

def snapshot (snapshotId : Uuid) : SessionSnapshot :=
  .sample 1 snapshotId 105

def calls (snapshotId : Uuid) : List Call :=
  [.createSession (.sample 1 "alice"), .saveSnapshot (snapshot snapshotId) (some "alice")]

def database (snapshotId : Uuid) : SqliteSessionStore :=
  Runs.after (SqliteSessionStore.asStore .sample).answer .new (calls snapshotId)

theorem visible : checkOwner ((database 1).ownerOf 1) 1 (some "alice") = .ok () := by
  decide

/-- A snapshot whose two ids agree is listed as it was saved. -/
theorem equal_ids_listed :
    ∃ listed, SqliteSessionStore.listCheckpoints .sample (database 1) 1
        (some "alice") = .ok listed ∧
      listed.Perm ((SqliteSessionStore.asStore .sample).saved 1 .new (calls 1)) := by
  obtain ⟨listed, listing, -, -, same⟩ :=
    SqliteSessionStore.listCheckpoints_saved_iff .sample (calls 1) 1
      (some "alice") visible (by
        intro saved owner member
        rcases mem_cons.mp member with impossible | last
        · cases impossible
        · cases mem_singleton.mp last
          decide)
  refine ⟨listed, listing, same.mpr ?_⟩
  intro saved member
  obtain ⟨-, owner, called⟩ := SessionStore.mem_saved member
  rcases mem_cons.mp called with impossible | last
  · cases impossible
  · cases mem_singleton.mp last
    rfl

/-- Any other snapshot is listed under the id of its session, and its session
under the id of the snapshot. -/
theorem other_ids_exchanged :
    (SqliteSessionStore.asStore .sample).saved 1 .new (calls 2) = [snapshot 2] ∧
      SqliteSessionStore.listCheckpoints .sample (database 2) 1
        (some "alice") = .ok [(snapshot 2).swapIds] ∧ (snapshot 2).swapIds ≠ snapshot 2 := by
  decide +kernel

end CheckpointSample

end Session

end FusionRouter

import FusionRouter.Lib.Runs
import FusionRouter.Session.Represents

/-!
# Isolation of owners

When the replies to one owner do not depend on the calls of the others.  Every
call but the creation of a session checks the owner, so what can go wrong is
that another owner creates a session under an id of the first one, or, where
the ids of snapshots are a primary key, saves a snapshot under one.
-/

namespace FusionRouter

namespace Session

namespace Call

def owner : Call → Option String
  | .createSession session => some session.owner
  | .loadSession _ owner => owner
  | .saveSnapshot _ owner => owner
  | .listCheckpoints _ owner => owner
  | .deleteSession _ owner => owner

def isOf (me : String) (call : Call) : Bool :=
  call.owner = some me

theorem other_of_isOf_false {call : Call} (owned : call.owner.isSome = true)
    (whose : call.isOf me = false) : ∃ you, call.owner = some you ∧ you ≠ me := by
  obtain ⟨you, owner⟩ := Option.isSome_iff_exists.mp owned
  refine ⟨you, owner, ?_⟩
  rintro rfl
  simp [isOf, owner] at whose

end Call

def Creates (me : String) (calls : List Call) (id : SessionId) : Prop :=
  ∃ session, Call.createSession session ∈ calls ∧ session.owner = me ∧ session.sessionId = id

def Saves (me : String) (calls : List Call) (id : Uuid) : Prop :=
  ∃ snapshot, Call.saveSnapshot snapshot (some me) ∈ calls ∧ snapshot.snapshotId = id

theorem Creates.of_mem (member : call ∈ calls) (owner : call.owner = some me)
    (same : call = .createSession session) : Creates me calls session.sessionId := by
  subst same
  exact ⟨session, member, Option.some.inj owner, rfl⟩

theorem Saves.of_mem (member : call ∈ calls) (owner : call.owner = some me)
    (same : call = .saveSnapshot snapshot saver) : Saves me calls snapshot.snapshotId := by
  subst same
  cases owner
  exact ⟨snapshot, member, rfl⟩

namespace SessionStore

variable {σ : Type} (store : SessionStore σ)

/-- The owner's replies are those of a run with the owner's calls alone. -/
def Isolated (start : σ) (me : String) (calls : List Call) : Prop :=
  Runs.observed store.answer (Call.isOf me) start calls =
    Runs.replies store.answer start (calls.filter (Call.isOf me))

/-- Another owner creates a session under an id that the owner creates. -/
def TakesSession (me : String) (calls : List Call) (state : σ) (call : Call) : Prop :=
  call.owner ≠ some me ∧ ∃ session, call = .createSession session ∧
    (store.createSession state session).1.isOk = true ∧ Creates me calls session.sessionId

/-- Another owner saves a snapshot under an id that the owner saves. -/
def TakesSnapshot (me : String) (calls : List Call) (state : σ) (call : Call) : Prop :=
  call.owner ≠ some me ∧ ∃ snapshot owner, call = .saveSnapshot snapshot owner ∧
    (store.saveSnapshot state snapshot owner).1.isOk = true ∧ Saves me calls snapshot.snapshotId

end SessionStore

namespace InMemorySessionStore

/-- The store and the store of a run without the other owners agree on the
owner's ids; what else they hold is not the owner's. -/
structure Related (me : String) (mine : SessionId → Prop)
    (state alone : InMemorySessionStore) : Prop where
  sessions : ∀ id, mine id → state.sessions id = alone.sessions id
  snapshots : ∀ id, mine id → state.snapshots id = alone.snapshots id
  owned : ∀ id, mine id → state.ownerOf id = none ∨ state.ownerOf id = some me
  strangers : ∀ id, ¬ mine id → state.ownerOf id ≠ some me ∧ alone.ownerOf id ≠ some me

theorem Related.new (me : String) (mine : SessionId → Prop) :
    Related me mine .new .new where
  sessions _ _ := rfl
  snapshots _ _ := rfl
  owned _ _ := Or.inl rfl
  strangers _ _ := by
    simp [InMemorySessionStore.ownerOf, InMemorySessionStore.new, Table.empty]

theorem ownerOf_remove (state : InMemorySessionStore) (other id : SessionId) :
    (state.remove other).ownerOf id = if id = other then none else state.ownerOf id := by
  simp only [ownerOf, remove, Table.remove_apply]
  split <;> rfl

theorem loadSession_of_ne {id : SessionId} (stranger : state.ownerOf id ≠ some me) :
    loadSession state id (some me) = .ok none := by
  unfold loadSession
  unfold InMemorySessionStore.ownerOf at stranger
  cases found : state.sessions id with
  | none => rfl
  | some session =>
    have different : session.owner ≠ me := by simpa [found] using stranger
    simp [different]

section

variable {id : SessionId} (related : Related me mine state alone)
include related

theorem Related.ownerOf (own : mine id) : state.ownerOf id = alone.ownerOf id := by
  rw [InMemorySessionStore.ownerOf, related.sessions id own]
  rfl

theorem Related.checkOwner (id : SessionId) :
    checkOwner (state.ownerOf id) id (some me) =
      Session.checkOwner (alone.ownerOf id) id (some me) := by
  by_cases own : mine id
  · rw [related.ownerOf own]
  · obtain ⟨here, there⟩ := related.strangers id own
    simp [Session.checkOwner, here, there]

theorem Related.create (own : mine session.sessionId) (owner : session.owner = me) :
    Related me mine (createSession state session).2 (createSession alone session).2 where
  sessions id here := by
    simp only [createSession, Table.insert_apply, related.sessions id here]
  snapshots := related.snapshots
  owned id here := by
    simp only [InMemorySessionStore.ownerOf, createSession, Table.insert_apply]
    split
    · exact Or.inr (congrArg some owner)
    · exact related.owned id here
  strangers id other := by
    have different : id ≠ session.sessionId := by
      rintro rfl
      exact other own
    simp only [InMemorySessionStore.ownerOf, createSession, Table.insert_apply, if_neg different]
    exact related.strangers id other

/-- A change outside of the owner's ids. -/
theorem Related.outside
    (kept : ∀ id, mine id → next.sessions id = state.sessions id ∧
      next.snapshots id = state.snapshots id)
    (strange : ∀ id, ¬ mine id → next.ownerOf id ≠ some me) : Related me mine next alone := by
  refine ⟨?_, ?_, ?_, ?_⟩
  · intro id here
    rw [(kept id here).1, related.sessions id here]
  · intro id here
    rw [(kept id here).2, related.snapshots id here]
  · intro id here
    rw [InMemorySessionStore.ownerOf, (kept id here).1]
    exact related.owned id here
  · intro id stranger
    exact ⟨strange id stranger, (related.strangers id stranger).2⟩

theorem Related.createOther (other : ¬ mine session.sessionId) (owner : session.owner ≠ me) :
    Related me mine (createSession state session).2 alone := by
  refine related.outside ?_ ?_
  · intro id here
    refine ⟨Table.insert_of_ne _ _ ?_, rfl⟩
    rintro rfl
    exact other here
  · intro id stranger
    simp only [InMemorySessionStore.ownerOf, createSession, Table.insert_apply]
    split
    · simpa using owner
    · exact (related.strangers id stranger).1

theorem Related.addSnapshot (own : mine snapshot.sessionId) :
    Related me mine (state.addSnapshot snapshot) (alone.addSnapshot snapshot) where
  sessions := related.sessions
  snapshots id here := by
    simp only [InMemorySessionStore.addSnapshot, checkpoints,
      Table.insert_apply, related.snapshots _ own, related.snapshots id here]
  owned := related.owned
  strangers := related.strangers

theorem Related.addSnapshotOther (other : ¬ mine snapshot.sessionId) :
    Related me mine (state.addSnapshot snapshot) alone := by
  refine related.outside ?_ (fun id stranger => (related.strangers id stranger).1)
  intro id here
  refine ⟨rfl, Table.insert_of_ne _ _ ?_⟩
  rintro rfl
  exact other here

theorem Related.remove (other : SessionId) :
    Related me mine (state.remove other) (alone.remove other) where
  sessions id here := by
    simp only [InMemorySessionStore.remove, Table.remove_apply, related.sessions id here]
  snapshots id here := by
    simp only [InMemorySessionStore.remove, Table.remove_apply, related.snapshots id here]
  owned id here := by
    rw [ownerOf_remove]
    split
    · exact Or.inl rfl
    · exact related.owned id here
  strangers id stranger := by
    rw [ownerOf_remove, ownerOf_remove]
    split
    · simp
    · exact related.strangers id stranger

theorem Related.removeOther {other : SessionId}
    (foreign : ¬ mine other) : Related me mine (state.remove other) alone := by
  refine related.outside ?_ ?_
  · intro id here
    have different : id ≠ other := by
      rintro rfl
      exact foreign here
    simp only [InMemorySessionStore.remove, Table.remove_apply, if_neg different, and_self]
  · intro id stranger
    rw [ownerOf_remove]
    split
    · simp
    · exact (related.strangers id stranger).1

/-- What another owner may touch is not the owner's. -/
theorem Related.foreign (different : you ≠ me)
    (granted : (Session.checkOwner (state.ownerOf id) id (some you)).isOk = true) : ¬ mine id := by
  intro here
  rw [checkOwner_isOk_iff] at granted
  rcases related.owned id here with none | own
  · rw [none] at granted
    cases granted
  · rw [own] at granted
    exact different (Option.some.inj granted).symm

theorem Related.loadSession (id : SessionId) :
    loadSession state id (some me) = InMemorySessionStore.loadSession alone id (some me) := by
  by_cases own : mine id
  · unfold InMemorySessionStore.loadSession
    rw [related.sessions id own]
  · obtain ⟨here, there⟩ := related.strangers id own
    rw [loadSession_of_ne here, loadSession_of_ne there]

theorem Related.own
    (granted : (Session.checkOwner (state.ownerOf id) id (some me)).isOk = true) : mine id := by
  by_contra other
  exact (related.strangers id other).1 (checkOwner_isOk_iff.mp granted)

theorem Related.answer (own : call.owner = some me)
    (creates : ∀ session, call = .createSession session → mine session.sessionId) :
    (asStore.answer state call).1 = (asStore.answer alone call).1 ∧
      Related me mine (asStore.answer state call).2 (asStore.answer alone call).2 := by
  cases call with
  | createSession session =>
    exact ⟨rfl, related.create (creates session rfl) (Option.some.inj own)⟩
  | loadSession id owner =>
    cases own
    exact ⟨congrArg Reply.loaded (related.loadSession id), related⟩
  | saveSnapshot snapshot owner =>
    cases own
    simp only [SessionStore.answer, asStore, saveSnapshot_eq,
      ← related.checkOwner snapshot.sessionId, true_and]
    split
    next granted => exact related.addSnapshot (related.own granted)
    · exact related
  | listCheckpoints id owner =>
    cases own
    refine ⟨congrArg Reply.listed ?_, related⟩
    change listCheckpoints state id (some me) = listCheckpoints alone id (some me)
    unfold listCheckpoints
    rw [← related.checkOwner id]
    cases checking : Session.checkOwner (state.ownerOf id) id (some me) with
    | error error => rfl
    | ok granted =>
      have here : mine id := related.own (by rw [checking]; rfl)
      simp only [checkpoints, related.snapshots id here]
  | deleteSession id owner =>
    cases own
    simp only [SessionStore.answer, asStore, deleteSession_eq, ← related.checkOwner id, true_and]
    split
    · exact related.remove id
    · exact related

theorem Related.answerOther (caller : call.owner = some you) (different : you ≠ me)
    (spared : ∀ session, call = .createSession session → ¬ mine session.sessionId) :
    Related me mine (asStore.answer state call).2 alone := by
  cases call with
  | createSession session =>
    cases caller
    exact related.createOther (spared session rfl) different
  | loadSession id owner | listCheckpoints id owner => exact related
  | saveSnapshot snapshot owner =>
    cases caller
    simp only [SessionStore.answer, asStore, saveSnapshot_eq]
    split
    next granted =>
      exact related.addSnapshotOther (related.foreign different granted)
    · exact related
  | deleteSession id owner =>
    cases caller
    simp only [SessionStore.answer, asStore, deleteSession_eq]
    split
    next granted =>
      exact related.removeOther (related.foreign different granted)
    · exact related

end

theorem isolated {calls : List Call} (owned : ∀ call ∈ calls, call.owner.isSome = true)
    (spared : Runs.Along asStore.answer
      (fun state call => ¬ asStore.TakesSession me calls state call)
      .new calls) : asStore.Isolated .new me calls := by
  have along : Runs.Along asStore.answer (fun state call => call ∈ calls ∧
      ¬ asStore.TakesSession me calls state call) .new calls :=
    spared.imp (fun _ _ member fine => ⟨member, fine⟩)
  refine Runs.observed_eq_replies _ (Related me (Creates me calls)) ?_ ?_
    (Related.new me (Creates me calls)) along
  · intro state alone call related whose fine
    have owner : call.owner = some me := of_decide_eq_true whose
    exact related.answer owner (fun session => Creates.of_mem fine.1 owner)
  · intro state alone call related whose fine
    obtain ⟨you, owner, different⟩ := Call.other_of_isOf_false (owned call fine.1) whose
    refine related.answerOther owner different ?_
    intro session same mine
    refine fine.2 ⟨?_, session, same, rfl, mine⟩
    simpa [owner] using different

end InMemorySessionStore

theorem InMemorySessionStore.mem_checkpoints_add {state : InMemorySessionStore} {id : SessionId}
    (member : snapshot ∈ (state.addSnapshot added).checkpoints id) :
    snapshot ∈ state.checkpoints id ∨ snapshot = added ∧ id = added.sessionId := by
  simp only [checkpoints, addSnapshot, Table.insert_apply] at member
  split at member
  next same =>
    subst same
    rcases List.mem_append.mp member with old | now
    · exact Or.inl old
    · exact Or.inr ⟨List.mem_singleton.mp now, rfl⟩
  · exact Or.inl member

theorem InMemorySessionStore.mem_checkpoints_remove
    {state : InMemorySessionStore} {other id : SessionId}
    (member : snapshot ∈ (state.remove other).checkpoints id) :
    snapshot ∈ state.checkpoints id := by
  simp only [checkpoints, remove, Table.remove_apply] at member
  split at member
  · cases member
  · exact member

namespace SqliteSessionStore

open InMemorySessionStore (Related mem_checkpoints_add mem_checkpoints_remove)

/-- The database and that of a run without the other owners represent related
maps, in which the snapshots with the owner's ids are the owner's. -/
structure Shadows (environment : Environment) (me : String)
    (mine : SessionId → Prop) (saves : Uuid → Prop)
    (db alone : SqliteSessionStore) (state other : InMemorySessionStore) :
    Prop where
  full : Represents environment state db
  purged : Represents environment other alone
  related : Related me mine state other
  ids : ∀ id snapshot, snapshot ∈ state.checkpoints id → saves snapshot.snapshotId → mine id
  purgedIds : ∀ id snapshot, snapshot ∈ other.checkpoints id → saves snapshot.snapshotId → mine id

namespace Shadows

theorem new : Shadows environment me mine saves .new .new .new .new where
  full := Represents.new
  purged := Represents.new
  related := Related.new me mine
  ids _ _ member := by cases member
  purgedIds _ _ member := by cases member

section

variable {id : SessionId} {snapshot : SessionSnapshot}
  (shadows : Shadows environment me mine saves db alone state other)
include shadows

theorem checkOwner (id : SessionId) :
    checkOwner (db.ownerOf id) id (some me) =
      Session.checkOwner (alone.ownerOf id) id (some me) := by
  rw [shadows.full.ownerOf, shadows.purged.ownerOf, shadows.related.checkOwner]

theorem ownerOf (own : mine id) : db.ownerOf id = alone.ownerOf id := by
  rw [shadows.full.ownerOf, shadows.purged.ownerOf, shadows.related.ownerOf own]

theorem own (granted : (Session.checkOwner (db.ownerOf id) id (some me)).isOk = true) :
    mine id := by
  rw [shadows.full.ownerOf] at granted
  exact shadows.related.own granted

theorem foreign (different : you ≠ me)
    (granted : (Session.checkOwner (db.ownerOf id) id (some you)).isOk = true) : ¬ mine id := by
  rw [shadows.full.ownerOf] at granted
  exact shadows.related.foreign different granted

theorem checkpoints (own : mine id) : state.checkpoints id = other.checkpoints id := by
  rw [InMemorySessionStore.checkpoints, shadows.related.snapshots id own]
  rfl

theorem taken {id : Uuid} (saved : saves id) : db.taken id = alone.taken id := by
  rw [Bool.eq_iff_iff, shadows.full.taken_iff, shadows.purged.taken_iff]
  constructor
  · rintro ⟨session, snapshot, held, rfl⟩
    have own := shadows.ids session snapshot held saved
    exact ⟨session, snapshot, shadows.checkpoints own ▸ held, rfl⟩
  · rintro ⟨session, snapshot, held, rfl⟩
    have own := shadows.purgedIds session snapshot held saved
    exact ⟨session, snapshot, (shadows.checkpoints own).symm ▸ held, rfl⟩

theorem saveResult (saved : saves snapshot.snapshotId) :
    saveResult (db.ownerOf snapshot.sessionId) (db.taken snapshot.snapshotId)
        snapshot.sessionId (some me) =
      SqliteSessionStore.saveResult (alone.ownerOf snapshot.sessionId)
        (alone.taken snapshot.snapshotId) snapshot.sessionId (some me) := by
  unfold SqliteSessionStore.saveResult
  rw [← shadows.checkOwner snapshot.sessionId, shadows.taken saved]
  cases checking : Session.checkOwner (db.ownerOf snapshot.sessionId)
      snapshot.sessionId (some me) with
  | error error => rfl
  | ok granted =>
    have own : mine snapshot.sessionId := shadows.own (by rw [checking]; rfl)
    rw [shadows.ownerOf own]

theorem addSession (own : mine session.sessionId) (owner : session.owner = me)
    (free : alone.ownerOf session.sessionId = none) :
    Shadows environment me mine saves (db.addSession environment session)
      (alone.addSession environment session) (InMemorySessionStore.createSession state session).2
      (InMemorySessionStore.createSession other session).2 where
  full := by
    refine shadows.full.addSession ?_
    rw [← shadows.full.ownerOf, shadows.ownerOf own, free]
  purged := by
    refine shadows.purged.addSession ?_
    rw [← shadows.purged.ownerOf, free]
  related := shadows.related.create own owner
  ids := shadows.ids
  purgedIds := shadows.purgedIds

theorem addSnapshot (own : mine snapshot.sessionId) :
    Shadows environment me mine saves (db.addSnapshot snapshot)
      (alone.addSnapshot snapshot) (state.addSnapshot snapshot) (other.addSnapshot snapshot) where
  full := shadows.full.addSnapshot snapshot
  purged := shadows.purged.addSnapshot snapshot
  related := shadows.related.addSnapshot own
  ids id held member saved := by
    rcases mem_checkpoints_add member with old | ⟨-, rfl⟩
    · exact shadows.ids id held old saved
    · exact own
  purgedIds id held member saved := by
    rcases mem_checkpoints_add member with old | ⟨-, rfl⟩
    · exact shadows.purgedIds id held old saved
    · exact own

theorem remove (id : SessionId) :
    Shadows environment me mine saves (db.deleteSessionRow (Externals.hyphenated id))
      (alone.deleteSessionRow (Externals.hyphenated id)) (state.remove id) (other.remove id) where
  full := shadows.full.remove id
  purged := shadows.purged.remove id
  related := shadows.related.remove id
  ids session snapshot held := shadows.ids session snapshot (mem_checkpoints_remove held)
  purgedIds session snapshot held :=
    shadows.purgedIds session snapshot (mem_checkpoints_remove held)

theorem addSnapshotOther (foreign : ¬ mine snapshot.sessionId)
    (unsaved : ¬ saves snapshot.snapshotId) :
    Shadows environment me mine saves (db.addSnapshot snapshot) alone
      (state.addSnapshot snapshot) other where
  full := shadows.full.addSnapshot snapshot
  purged := shadows.purged
  related := shadows.related.addSnapshotOther foreign
  ids id held member saved := by
    rcases mem_checkpoints_add member with old | ⟨rfl, -⟩
    · exact shadows.ids id held old saved
    · exact (unsaved saved).elim
  purgedIds := shadows.purgedIds

theorem removeOther (foreign : ¬ mine id) :
    Shadows environment me mine saves
      (db.deleteSessionRow (Externals.hyphenated id)) alone (state.remove id) other where
  full := shadows.full.remove id
  purged := shadows.purged
  related := shadows.related.removeOther foreign
  ids session snapshot held := shadows.ids session snapshot (mem_checkpoints_remove held)
  purgedIds := shadows.purgedIds

theorem answer (caller : call.owner = some me)
    (creates : ∀ session, call = .createSession session → mine session.sessionId)
    (saved : ∀ snapshot owner, call = .saveSnapshot snapshot owner → saves snapshot.snapshotId) :
    ((asStore environment).answer db call).1 = ((asStore environment).answer alone call).1 ∧
      ∃ next following, Shadows environment me mine saves ((asStore environment).answer db call).2
        ((asStore environment).answer alone call).2 next following := by
  cases call with
  | createSession session =>
    have own := creates session rfl
    simp only [SessionStore.answer, asStore, createSession_eq, shadows.ownerOf own, true_and]
    split
    · exact ⟨state, other, shadows⟩
    next unheld =>
      exact ⟨_, _, shadows.addSession own (Option.some.inj caller) (by simpa using unheld)⟩
  | loadSession id owner =>
    cases caller
    refine ⟨congrArg Reply.loaded ?_, state, other, shadows⟩
    change SqliteSessionStore.loadSession db id (some me) =
      SqliteSessionStore.loadSession alone id (some me)
    rw [shadows.full.loadSession, shadows.purged.loadSession, shadows.related.loadSession]
  | saveSnapshot snapshot owner =>
    cases caller
    simp only [SessionStore.answer, asStore, saveSnapshot_eq,
      ← shadows.saveResult (saved snapshot _ rfl), true_and]
    split
    next accepted =>
      exact ⟨_, _, shadows.addSnapshot (shadows.own (saveResult_isOk_iff.mp accepted).1)⟩
    · exact ⟨state, other, shadows⟩
  | listCheckpoints id owner =>
    cases caller
    refine ⟨congrArg Reply.listed ?_, state, other, shadows⟩
    change SqliteSessionStore.listCheckpoints environment db id (some me) =
      SqliteSessionStore.listCheckpoints environment alone id (some me)
    unfold SqliteSessionStore.listCheckpoints
    rw [← shadows.checkOwner id]
    cases checking : Session.checkOwner (db.ownerOf id) id (some me) with
    | error error => rfl
    | ok granted =>
      have own : mine id := shadows.own (by rw [checking]; rfl)
      simp only [shadows.full.snapshots, shadows.purged.snapshots, shadows.checkpoints own]
  | deleteSession id owner =>
    cases caller
    simp only [SessionStore.answer, asStore, deleteSession_eq, ← shadows.checkOwner id, true_and]
    split
    · exact ⟨_, _, shadows.remove id⟩
    · exact ⟨state, other, shadows⟩

theorem answerOther (caller : call.owner = some you) (different : you ≠ me)
    (spared : ∀ session, call = .createSession session →
      (createSession environment db session).1.isOk = true → ¬ mine session.sessionId)
    (unsaved : ∀ snapshot owner, call = .saveSnapshot snapshot owner →
      (saveSnapshot db snapshot owner).1.isOk = true → ¬ saves snapshot.snapshotId) :
    ∃ next, Shadows environment me mine saves
      ((asStore environment).answer db call).2 alone next other := by
  cases call with
  | createSession session =>
    cases caller
    have taking := spared session rfl
    simp only [createSession_eq] at taking
    simp only [SessionStore.answer, asStore, createSession_eq]
    split
    · exact ⟨state, shadows⟩
    next unheld =>
      have free : db.ownerOf session.sessionId = none := by
        simpa using unheld
      have foreign : ¬ mine session.sessionId := taking (by rw [free]; rfl)
      exact ⟨_, shadows.full.addSession (shadows.full.ownerOf _ ▸ free),
        shadows.purged, shadows.related.createOther foreign different,
        shadows.ids, shadows.purgedIds⟩
  | loadSession id owner | listCheckpoints id owner => exact ⟨state, shadows⟩
  | saveSnapshot snapshot owner =>
    cases caller
    have taking := unsaved snapshot _ rfl
    simp only [saveSnapshot_eq] at taking
    simp only [SessionStore.answer, asStore, saveSnapshot_eq]
    split
    next accepted =>
      have foreign := shadows.foreign different (saveResult_isOk_iff.mp accepted).1
      exact ⟨_, shadows.addSnapshotOther foreign (taking accepted)⟩
    · exact ⟨state, shadows⟩
  | deleteSession id owner =>
    cases caller
    simp only [SessionStore.answer, asStore, deleteSession_eq]
    split
    next granted =>
      exact ⟨_, shadows.removeOther (shadows.foreign different granted)⟩
    · exact ⟨state, shadows⟩

end

end Shadows

theorem isolated {calls : List Call} (owned : ∀ call ∈ calls, call.owner.isSome = true)
    (spared : Runs.Along (asStore environment).answer
      (fun db call => ¬ (asStore environment).TakesSession me calls db call ∧
        ¬ (asStore environment).TakesSnapshot me calls db call) .new calls) :
    (asStore environment).Isolated .new me calls := by
  have along : Runs.Along (asStore environment).answer
      (fun db call => call ∈ calls ∧ ¬ (asStore environment).TakesSession me calls db call ∧
        ¬ (asStore environment).TakesSnapshot me calls db call) .new calls :=
    spared.imp (fun _ _ member fine => ⟨member, fine⟩)
  refine Runs.observed_eq_replies _
    (fun db alone => ∃ state other, Shadows environment me (Creates me calls)
      (Saves me calls) db alone state other) ?_ ?_ ⟨_, _, Shadows.new⟩ along
  · rintro db alone call ⟨state, other, shadows⟩ whose fine
    have owner : call.owner = some me := of_decide_eq_true whose
    exact shadows.answer owner (fun session => Creates.of_mem fine.1 owner)
      (fun snapshot saver => Saves.of_mem fine.1 owner)
  · rintro db alone call ⟨state, other, shadows⟩ whose fine
    obtain ⟨you, owner, different⟩ := Call.other_of_isOf_false (owned call fine.1) whose
    have foreign : call.owner ≠ some me := by simpa [owner] using different
    obtain ⟨next, kept⟩ := shadows.answerOther owner different
      (fun session same accepted mine => fine.2.1 ⟨foreign, session, same, accepted, mine⟩)
      (fun snapshot saver same accepted mine =>
        fine.2.2 ⟨foreign, snapshot, saver, same, accepted, mine⟩)
    exact ⟨next, other, kept⟩

end SqliteSessionStore

/-- Where no other owner takes an id of the owner, the replies to the owner are
those of the owner's calls alone. -/
theorem owners_isolated (environment : Environment) (me : String) (calls : List Call)
    (owned : ∀ call, call ∈ calls → call.owner.isSome = true) :
    (Runs.Along InMemorySessionStore.asStore.answer (fun state call =>
        ¬ InMemorySessionStore.asStore.TakesSession me calls state call) .new calls →
      InMemorySessionStore.asStore.Isolated .new me calls) ∧
    (Runs.Along (SqliteSessionStore.asStore environment).answer
        (fun db call => ¬ (SqliteSessionStore.asStore environment).TakesSession me calls db call ∧
            ¬ (SqliteSessionStore.asStore environment).TakesSnapshot me calls db call) .new calls →
      (SqliteSessionStore.asStore environment).Isolated .new me calls) := by
  exact ⟨InMemorySessionStore.isolated owned, SqliteSessionStore.isolated owned⟩

namespace IsolationSample

/-- Two owners with a session each. -/
def apart : List Call :=
  [.createSession (.sample 1 "alice"), .createSession (.sample 2 "bob"),
    .loadSession 1 (some "alice")]

/-- The second owner creates a session under the id of the first one's. -/
def sessionReused : List Call :=
  [.createSession (.sample 1 "alice"), .createSession (.sample 1 "bob"),
    .loadSession 1 (some "alice")]

/-- Both owners save a snapshot under one id, each in a session of their
own. -/
def snapshotReused : List Call :=
  [.createSession (.sample 1 "alice"), .createSession (.sample 2 "bob"),
    .saveSnapshot (.sample 2 7 105) (some "bob"), .saveSnapshot (.sample 1 7 105) (some "alice")]

theorem mem_apart (member : .createSession made ∈ apart) :
    made = .sample 1 "alice" ∨ made = .sample 2 "bob" := by
  simpa [apart] using member

theorem creates_apart {id : SessionId} (creates : Creates "alice" apart id) : id = 1 := by
  obtain ⟨made, member, owner, rfl⟩ := creates
  rcases mem_apart member with rfl | rfl
  · rfl
  · exact absurd owner (by decide)

/-- Owners with ids of their own do not see each other. -/
theorem apart_isolated :
    InMemorySessionStore.asStore.Isolated .new "alice" apart ∧
      (SqliteSessionStore.asStore .sample).Isolated .new "alice" apart := by
  have spared : ∀ {σ : Type} (store : SessionStore σ) (start : σ),
      Runs.Along store.answer (fun state call => ¬ store.TakesSession "alice" apart state call ∧
          ¬ store.TakesSnapshot "alice" apart state call) start apart := by
    intro σ store start done call earlier
    have member : call ∈ apart := earlier.subset (by simp)
    refine ⟨?_, ?_⟩
    · rintro ⟨foreign, made, rfl, -, creates⟩
      rcases mem_apart member with rfl | rfl
      · exact foreign rfl
      · exact absurd (creates_apart creates) (by decide)
    · rintro ⟨-, saved, owner, rfl, -⟩
      simp [apart] at member
  have isolated := owners_isolated .sample "alice" apart (by decide)
  exact ⟨isolated.1 ((spared _ _).imp fun _ _ _ fine => fine.1), isolated.2 (spared _ _)⟩

/-- In memory the second owner's session replaces the first one's, and in the
database the second owner's snapshot keeps the first owner from saving. -/
theorem reused_not_isolated :
    ¬ InMemorySessionStore.asStore.Isolated .new "alice" sessionReused ∧
      ¬ (SqliteSessionStore.asStore .sample).Isolated .new "alice"
        snapshotReused := by
  unfold SessionStore.Isolated
  decide

end IsolationSample

end Session

end FusionRouter

import FusionRouter.Lib.Runs
import FusionRouter.Session.Represents

/-!
# Exchanging the session stores

Both stores given the same calls.  They agree as long as SQLite has no
constraint to enforce: then the database represents the maps in memory.  What
`resume_session` returns is the checkpoint saved last in memory and the last
one in the order of the database, and each is the latest one under a condition
of its own.
-/

namespace FusionRouter

open List

namespace Session

structure Version where
  major : Nat
  minor : Nat
  patch : Nat
  pre : String
  build : String
deriving Repr, DecidableEq

/-- The version that `resume_session` supports. -/
def Version.current : Version :=
  { major := 0, minor := 1, patch := 0, pre := "", build := "" }

/-- `Display` of a version. -/
def Version.text (version : Version) : String :=
  toString version.major ++ "." ++ toString version.minor ++ "." ++ toString version.patch ++
    (if version.pre = "" then "" else "-" ++ version.pre) ++
    (if version.build = "" then "" else "+" ++ version.build)

def resumeSession {σ : Type} (store : SessionStore σ) (state : σ)
    (id : SessionId) (expected : Version) (owner : Option String) : Except String SessionSnapshot :=
  match store.loadSession state id owner with
  | .error error => .error error
  | .ok none => .error ("Session not found: " ++ Externals.hyphenated id)
  | .ok (some session) =>
    if expected ≠ Version.current then
      .error ("Resume compatibility check failed: expected API version " ++
        expected.text ++ ", got " ++ Version.current.text)
    else
      match store.listCheckpoints state session.sessionId owner with
      | .error error => .error error
      | .ok checkpoints =>
        match checkpoints.getLast? with
        | none =>
          .error ("No checkpoints found for session: " ++ Externals.hyphenated id)
        | some snapshot => .ok snapshot

/-- What a client of a session store does. -/
inductive Use where
  | createSession (session : ExecutionSession)
  | loadSession (id : SessionId) (owner : Option String)
  | saveSnapshot (snapshot : SessionSnapshot) (owner : Option String)
  | deleteSession (id : SessionId) (owner : Option String)
  | resumeSession (id : SessionId) (expected : Version) (owner : Option String)
deriving DecidableEq

inductive Outcome where
  | written (result : Except String Unit)
  | loaded (result : Except String (Option ExecutionSession))
  | resumed (result : Except String SessionSnapshot)
deriving DecidableEq

/-- Both succeed or both fail, and loads return equal sessions. -/
def Outcome.Agrees : Outcome → Outcome → Prop
  | .written left, .written right => left.isOk = right.isOk
  | .loaded left, .loaded right => left.toOption = right.toOption
  | .resumed left, .resumed right => left.isOk = right.isOk
  | _, _ => False

instance : DecidableRel Outcome.Agrees
  | .written left, .written right =>
    inferInstanceAs (Decidable (left.isOk = right.isOk))
  | .loaded left, .loaded right =>
    inferInstanceAs (Decidable (left.toOption = right.toOption))
  | .resumed left, .resumed right =>
    inferInstanceAs (Decidable (left.isOk = right.isOk))
  | .written _, .loaded _ => isFalse id
  | .written _, .resumed _ => isFalse id
  | .loaded _, .written _ => isFalse id
  | .loaded _, .resumed _ => isFalse id
  | .resumed _, .written _ => isFalse id
  | .resumed _, .loaded _ => isFalse id

namespace SessionStore

variable {σ : Type} (store : SessionStore σ)

def perform (state : σ) : Use → Outcome × σ
  | .createSession session =>
    (.written (store.createSession state session).1, (store.createSession state session).2)
  | .loadSession id owner => (.loaded (store.loadSession state id owner), state)
  | .saveSnapshot snapshot owner =>
    (.written (store.saveSnapshot state snapshot owner).1,
      (store.saveSnapshot state snapshot owner).2)
  | .deleteSession id owner =>
    (.written (store.deleteSession state id owner).1, (store.deleteSession state id owner).2)
  | .resumeSession id expected owner =>
    (.resumed (Session.resumeSession store state id expected owner), state)

/-- A session is resumed from a checkpoint with the greatest timestamp. -/
def ResumesLatest (state : σ) : Use → Prop
  | .resumeSession id expected owner =>
    ∀ snapshot checkpoints, Session.resumeSession store state id expected owner = .ok snapshot →
      store.listCheckpoints state id owner = .ok checkpoints → ∀ other, other ∈ checkpoints →
          other.checkpointTimestampMs ≤ snapshot.checkpointTimestampMs
  | _ => True

theorem resumeSession_ok_iff {id : SessionId} :
    Session.resumeSession store state id expected owner = .ok snapshot ↔ ∃ session checkpoints,
        store.loadSession state id owner = .ok (some session) ∧ expected = Version.current ∧
        store.listCheckpoints state session.sessionId owner = .ok checkpoints ∧
        checkpoints.getLast? = some snapshot := by
  unfold Session.resumeSession
  constructor
  · intro resumed
    split at resumed
    · cases resumed
    · cases resumed
    next session loaded =>
      split at resumed
      · cases resumed
      next compatible =>
        split at resumed
        · cases resumed
        next checkpoints listed =>
          split at resumed
          · cases resumed
          next last found =>
            cases resumed
            exact ⟨session, checkpoints, loaded, not_not.mp compatible, listed, found⟩
  · rintro ⟨session, checkpoints, loaded, rfl, listed, found⟩
    simp [loaded, listed, found]

theorem resumeSession_ok_iff_last
    (loaded : store.loadSession state session.sessionId owner = .ok (some session))
    (listed : store.listCheckpoints state session.sessionId owner = .ok checkpoints) :
    Session.resumeSession store state session.sessionId Version.current owner =
        .ok snapshot ↔ checkpoints.getLast? = some snapshot := by
  rw [resumeSession_ok_iff]
  constructor
  · rintro ⟨again, others, reloaded, -, relisted, found⟩
    cases loaded.symm.trans reloaded
    cases listed.symm.trans relisted
    exact found
  · intro found
    exact ⟨session, checkpoints, loaded, rfl, listed, found⟩

theorem resumesLatest_iff {id : SessionId}
    (listed : store.listCheckpoints state id owner = .ok checkpoints)
    (resumes : ∀ snapshot, Session.resumeSession store state id expected owner
      = .ok snapshot ↔ checkpoints.getLast? = some snapshot) :
    store.ResumesLatest state (.resumeSession id expected owner) ↔
      ∀ last, checkpoints.getLast? = some last → ∀ other ∈ checkpoints,
          other.checkpointTimestampMs ≤ last.checkpointTimestampMs := by
  constructor
  · intro latest last found
    exact latest last checkpoints ((resumes last).mpr found) listed
  · intro latest snapshot others resumed relisted
    cases listed.symm.trans relisted
    exact latest snapshot ((resumes snapshot).mp resumed)

end SessionStore

/-- No constraint of the database is violated. -/
def SqliteSessionStore.Insertable (db : SqliteSessionStore) : Use → Prop
  | .createSession session => db.ownerOf session.sessionId = none
  | .saveSnapshot snapshot owner =>
    (checkOwner (db.ownerOf snapshot.sessionId) snapshot.sessionId owner).isOk = true →
      db.taken snapshot.snapshotId = false ∧ db.ownerOf snapshot.sessionId ≠ none
  | _ => True

/-- The checkpoint saved last is the latest, and the timestamps do not
straddle `2 ^ 63`. -/
def InOrder (saved : List SessionSnapshot) : Prop :=
  (∀ last, saved.getLast? = some last → ∀ other, other ∈ saved →
    other.checkpointTimestampMs ≤ last.checkpointTimestampMs) ∧
  ((∀ other, other ∈ saved → other.checkpointTimestampMs.toNat < 2 ^ 63) ∨
    ∀ other, other ∈ saved → 2 ^ 63 ≤ other.checkpointTimestampMs.toNat)

/-- Every resumption finds checkpoints that are in order. -/
def InMemorySessionStore.ResumesInOrder (state : InMemorySessionStore) :
    Use → Prop
  | .resumeSession id expected owner =>
    (resumeSession InMemorySessionStore.asStore state id expected
      owner).isOk = true → InOrder (state.checkpoints id)
  | _ => True

/-- The stores agree on every use, and each resumes from the latest
checkpoint. -/
def Interchangeable (environment : Environment) (uses : List Use) : Prop :=
  Runs.Along (Runs.both InMemorySessionStore.asStore.perform
    (SqliteSessionStore.asStore environment).perform) (fun states use =>
      (InMemorySessionStore.asStore.perform states.1 use).1.Agrees
          ((SqliteSessionStore.asStore environment).perform states.2 use).1 ∧
        InMemorySessionStore.asStore.ResumesLatest states.1 use ∧
        (SqliteSessionStore.asStore environment).ResumesLatest states.2 use)
    (.new, .new) uses

theorem isOk_iff {ε α : Type} {result : Except ε α} :
    result.isOk = true ↔ ∃ value, result = .ok value := by
  cases result <;> simp [Except.isOk, Except.toBool]

/-- The database represents the maps in memory, whose keys are the ids of
their sessions. -/
structure Mirrors (environment : Environment)
    (states : InMemorySessionStore × SqliteSessionStore) : Prop where
  represents : SqliteSessionStore.Represents environment states.1 states.2
  keyed : ∀ id session, states.1.sessions id = some session → session.sessionId = id

theorem Mirrors.new (environment : Environment) :
    Mirrors environment (.new, .new) where
  represents := SqliteSessionStore.Represents.new
  keyed _ _ found := by cases found

theorem InMemorySessionStore.loadSession_some {id : SessionId}
    (loaded : loadSession state id owner = .ok (some session)) :
    state.sessions id = some session ∧ checkOwner (state.ownerOf id) id owner = .ok () := by
  unfold loadSession at loaded
  cases found : state.sessions id with
  | none => simp [found] at loaded
  | some held =>
    cases owner with
    | none =>
      simp only [found, Except.ok.injEq] at loaded
      exact ⟨loaded, rfl⟩
    | some want =>
      simp only [found] at loaded
      split at loaded
      · cases loaded
      next same =>
        refine ⟨Except.ok.inj loaded, ?_⟩
        simp [checkOwner, ownerOf, found, not_not.mp same]

/-- The last of the checkpoints in the order of the database is the latest one
exactly when their timestamps do not straddle `2 ^ 63`. -/
theorem last_latest_iff {sorted : List SessionSnapshot}
    (ordered : sorted.Pairwise (fun left right =>
      left.checkpointTimestampMs.toInt64 ≤ right.checkpointTimestampMs.toInt64))
    (found : sorted.getLast? = some last) :
    (∀ other ∈ sorted, other.checkpointTimestampMs ≤ last.checkpointTimestampMs) ↔
      (∀ other ∈ sorted, other.checkpointTimestampMs.toNat < 2 ^ 63) ∨
        ∀ other ∈ sorted, 2 ^ 63 ≤ other.checkpointTimestampMs.toNat := by
  have below : ∀ other ∈ sorted, other.checkpointTimestampMs.toInt64 ≤
        last.checkpointTimestampMs.toInt64 := by
    intro other member
    obtain ⟨front, rfl⟩ := getLast?_eq_some_iff.mp found
    rcases mem_append.mp member with earlier | same
    · exact (pairwise_append.mp ordered).2.2 other earlier last mem_cons_self
    · rw [mem_singleton.mp same]
      exact Int64.le_refl _
  have among : last ∈ sorted := mem_of_getLast? found
  constructor
  · intro latest
    by_cases small : last.checkpointTimestampMs.toNat < 2 ^ 63
    · refine Or.inl (fun other member => ?_)
      have atMost := UInt64.le_iff_toNat_le.mp (latest other member)
      omega
    · refine Or.inr (fun other member => ?_)
      by_contra low
      have signed := below other member
      -- across the border the database has the order the other way round
      rw [toInt64_le_iff, if_neg (by omega), UInt64.le_iff_toNat_le] at signed
      omega
  · intro sameSide other member
    have signed := below other member
    rw [toInt64_le_iff, if_pos] at signed
    · exact signed
    · rcases sameSide with low | high
      · exact iff_of_true (low other member) (low last among)
      · have here := high other member
        have there := high last among
        omega

namespace Mirrors

section

variable (mirrors : Mirrors environment states)
include mirrors

/-- Where a session is found and the version fits, both stores have its
checkpoints, one in the order in which they were saved. -/
theorem resumes {id : SessionId}
    (loaded : InMemorySessionStore.loadSession states.1 id owner = .ok (some session)) :
    ∃ sorted : List SessionSnapshot, sorted.Perm (states.1.checkpoints id) ∧
      sorted.Pairwise (fun left right => left.checkpointTimestampMs.toInt64 ≤
          right.checkpointTimestampMs.toInt64) ∧
      InMemorySessionStore.listCheckpoints states.1 id owner = .ok (states.1.checkpoints id) ∧
      SqliteSessionStore.listCheckpoints environment states.2 id owner =
        .ok (sorted.map SessionSnapshot.swapIds) ∧
      (∀ snapshot, resumeSession InMemorySessionStore.asStore states.1 id
          Version.current owner = .ok snapshot ↔
        (states.1.checkpoints id).getLast? = some snapshot) ∧
      ∀ snapshot, resumeSession (SqliteSessionStore.asStore environment)
          states.2 id Version.current owner = .ok snapshot ↔
        (sorted.map SessionSnapshot.swapIds).getLast? = some snapshot := by
  obtain ⟨found, visible⟩ := InMemorySessionStore.loadSession_some loaded
  have key : session.sessionId = id := mirrors.keyed id session found
  have listed : InMemorySessionStore.listCheckpoints states.1 id owner =
      .ok (states.1.checkpoints id) := by
    simp only [InMemorySessionStore.listCheckpoints, visible]
  have stored : SqliteSessionStore.loadSession states.2 id owner = .ok (some session) :=
    (mirrors.represents.loadSession id owner).trans loaded
  obtain ⟨sorted, permuted, ordered, listing⟩ := SqliteSessionStore.listCheckpoints_eq environment
      (mirrors.represents.ownerOf id ▸ visible) (mirrors.represents.snapshots id)
  subst key
  exact ⟨sorted, permuted, ordered, listed, listing,
    fun _ => SessionStore.resumeSession_ok_iff_last _ loaded listed,
    fun _ => SessionStore.resumeSession_ok_iff_last _ stored listing⟩

theorem not_resumes {id : SessionId}
    (missing : ¬ (expected = Version.current ∧ ∃ session,
      InMemorySessionStore.loadSession states.1 id owner = .ok (some session)))
    (snapshot : SessionSnapshot) :
    resumeSession InMemorySessionStore.asStore states.1 id expected owner ≠ .ok snapshot ∧
      resumeSession (SqliteSessionStore.asStore environment) states.2 id
        expected owner ≠ .ok snapshot := by
  constructor <;> intro resumed <;>
    obtain ⟨session, -, loaded, compatible, -⟩ := (SessionStore.resumeSession_ok_iff _).mp resumed
  · exact missing ⟨compatible, session, loaded⟩
  · exact missing ⟨compatible, session, (mirrors.represents.loadSession id owner).symm.trans loaded⟩

theorem resume_iff (id : SessionId) (expected : Version) (owner : Option String) :
    ((resumeSession InMemorySessionStore.asStore states.1 id expected owner).isOk =
        (resumeSession (SqliteSessionStore.asStore environment) states.2 id expected owner).isOk ∧
      InMemorySessionStore.asStore.ResumesLatest states.1 (.resumeSession id expected owner) ∧
      (SqliteSessionStore.asStore environment).ResumesLatest states.2
        (.resumeSession id expected owner)) ↔
      states.1.ResumesInOrder (.resumeSession id expected owner) := by
  by_cases found : expected = Version.current ∧ ∃ session,
      InMemorySessionStore.loadSession states.1 id owner = .ok (some session)
  · obtain ⟨rfl, session, loaded⟩ := found
    obtain ⟨sorted, permuted, ordered, listed, listing, inMemory, inDatabase⟩ :=
      mirrors.resumes loaded
    have empty : states.1.checkpoints id = [] ↔ sorted = [] :=
      ⟨fun none => (none ▸ permuted).eq_nil, fun none => (none ▸ permuted).symm.eq_nil⟩
    have agrees : (resumeSession InMemorySessionStore.asStore states.1 id
        Version.current owner).isOk =
          (resumeSession (SqliteSessionStore.asStore environment) states.2 id
            Version.current owner).isOk := by
      rw [Bool.eq_iff_iff, isOk_iff, isOk_iff]
      simp only [inMemory, inDatabase, ← Option.isSome_iff_exists,
        Option.isSome_iff_ne_none, ne_eq, getLast?_eq_none_iff, map_eq_nil_iff, empty]
    have inOrder : states.1.ResumesInOrder (.resumeSession id Version.current owner) ↔
          ((∃ last, (states.1.checkpoints id).getLast? = some last) →
            InOrder (states.1.checkpoints id)) := by
      simp only [← inMemory, ← isOk_iff]
      rfl
    rw [SessionStore.resumesLatest_iff _ listed inMemory,
      SessionStore.resumesLatest_iff _ listing inDatabase, inOrder, and_iff_right agrees]
    cases last : (states.1.checkpoints id).getLast? with
    | none => simp [empty.mp (getLast?_eq_none_iff.mp last)]
    | some newest =>
      have nonempty : sorted ≠ [] := by
        rw [ne_eq, ← empty, ← getLast?_eq_none_iff, last]
        simp
      have final := getLast?_eq_some_getLast nonempty
      have latest := last_latest_iff ordered final
      simp only [permuted.mem_iff] at latest
      simp only [getLast?_map, final, Option.map_some,
        Option.some.injEq, forall_eq', forall_mem_map,
        permuted.mem_iff, exists_eq', forall_const, InOrder, last]
      exact and_congr_right (fun _ => latest)
  · have never := mirrors.not_resumes found
    refine iff_of_true ⟨?_, ?_, ?_⟩ ?_
    · rw [Bool.eq_iff_iff, isOk_iff, isOk_iff]
      exact iff_of_false (fun ⟨snapshot, resumed⟩ => (never snapshot).1 resumed)
        (fun ⟨snapshot, resumed⟩ => (never snapshot).2 resumed)
    · intro snapshot checkpoints resumed
      exact ((never snapshot).1 resumed).elim
    · intro snapshot checkpoints resumed
      exact ((never snapshot).2 resumed).elim
    · intro resumes
      obtain ⟨snapshot, resumed⟩ := isOk_iff.mp resumes
      exact ((never snapshot).1 resumed).elim

theorem perform_iff (use : Use) :
    ((InMemorySessionStore.asStore.perform states.1 use).1.Agrees
          ((SqliteSessionStore.asStore environment).perform states.2 use).1 ∧
        InMemorySessionStore.asStore.ResumesLatest states.1 use ∧
        (SqliteSessionStore.asStore environment).ResumesLatest states.2 use) ↔
      states.2.Insertable use ∧ states.1.ResumesInOrder use := by
  cases use with
  | createSession session =>
    simp only [SessionStore.perform, InMemorySessionStore.asStore,
      InMemorySessionStore.createSession, SqliteSessionStore.asStore,
      SqliteSessionStore.createSession_eq, Outcome.Agrees,
      SessionStore.ResumesLatest, SqliteSessionStore.Insertable,
      InMemorySessionStore.ResumesInOrder, and_true]
    cases states.2.ownerOf session.sessionId <;>
      simp [SqliteSessionStore.createResult, Except.isOk, Except.toBool]
  | loadSession id owner =>
    refine iff_of_true ⟨?_, trivial, trivial⟩ ⟨trivial, trivial⟩
    exact congrArg Except.toOption (mirrors.represents.loadSession id owner).symm
  | saveSnapshot snapshot owner =>
    simp only [SessionStore.perform, InMemorySessionStore.asStore,
      InMemorySessionStore.saveSnapshot_eq, SqliteSessionStore.asStore,
      SqliteSessionStore.saveSnapshot_eq, Outcome.Agrees,
      SessionStore.ResumesLatest, SqliteSessionStore.Insertable,
      InMemorySessionStore.ResumesInOrder, and_true, mirrors.represents.ownerOf]
    rw [Bool.eq_iff_iff, SqliteSessionStore.saveResult_isOk_iff]
    tauto
  | deleteSession id owner =>
    refine iff_of_true ⟨?_, trivial, trivial⟩ ⟨trivial, trivial⟩
    simp only [SessionStore.perform, InMemorySessionStore.asStore,
      InMemorySessionStore.deleteSession_eq, SqliteSessionStore.asStore,
      SqliteSessionStore.deleteSession_eq, Outcome.Agrees, mirrors.represents.ownerOf]
  | resumeSession id expected owner =>
    rw [show states.2.Insertable (.resumeSession id expected owner) = True from rfl, true_and]
    exact mirrors.resume_iff id expected owner

/-- A use that violates no constraint leaves the database a mirror of the
maps. -/
theorem perform (insertable : states.2.Insertable use) :
    Mirrors environment (Runs.both InMemorySessionStore.asStore.perform
      (SqliteSessionStore.asStore environment).perform states use).2 := by
  cases use with
  | createSession session =>
    have free : states.2.ownerOf session.sessionId = none := insertable
    refine ⟨?_, ?_⟩
    · simp only [Runs.both, SessionStore.perform, InMemorySessionStore.asStore,
        SqliteSessionStore.asStore, SqliteSessionStore.createSession_eq, free]
      exact mirrors.represents.addSession (mirrors.represents.ownerOf _ ▸ free)
    · intro id held found
      change (states.1.sessions.insert session.sessionId session) id = some held at found
      rw [Table.insert_apply] at found
      split at found
      next same =>
        cases found
        exact same.symm
      · exact mirrors.keyed id held found
  | loadSession id owner | resumeSession id expected owner => exact mirrors
  | saveSnapshot snapshot owner =>
    simp only [Runs.both, SessionStore.perform, InMemorySessionStore.asStore,
      InMemorySessionStore.saveSnapshot_eq, SqliteSessionStore.asStore,
      SqliteSessionStore.saveSnapshot_eq, mirrors.represents.ownerOf]
    by_cases granted : (checkOwner (states.1.ownerOf snapshot.sessionId)
        snapshot.sessionId owner).isOk = true
    · have free := insertable ((mirrors.represents.ownerOf snapshot.sessionId).symm ▸ granted)
      rw [mirrors.represents.ownerOf] at free
      rw [if_pos granted, if_pos (SqliteSessionStore.saveResult_isOk_iff.mpr ⟨granted, free⟩)]
      exact ⟨mirrors.represents.addSnapshot snapshot, mirrors.keyed⟩
    · rw [if_neg granted, if_neg]
      · exact mirrors
      · intro accepted
        exact granted (SqliteSessionStore.saveResult_isOk_iff.mp accepted).1
  | deleteSession id owner =>
    simp only [Runs.both, SessionStore.perform, InMemorySessionStore.asStore,
      InMemorySessionStore.deleteSession_eq, SqliteSessionStore.asStore,
      SqliteSessionStore.deleteSession_eq, mirrors.represents.ownerOf]
    split
    · refine ⟨mirrors.represents.remove id, ?_⟩
      intro other held found
      change (states.1.sessions.remove id) other = some held at found
      rw [Table.remove_apply] at found
      split at found
      · cases found
      · exact mirrors.keyed other held found
    · exact mirrors

end

end Mirrors

/-- The stores can be exchanged exactly where no constraint of the database is
violated and every resumption finds its checkpoints in order. -/
theorem interchangeable_iff (environment : Environment) (uses : List Use) :
    Interchangeable environment uses ↔
      Runs.Along (Runs.both InMemorySessionStore.asStore.perform
        (SqliteSessionStore.asStore environment).perform) (fun states use =>
          states.2.Insertable use ∧ states.1.ResumesInOrder use)
        (.new, .new) uses := Runs.along_congr _ (Mirrors environment)
    (fun _ use mirrors => mirrors.perform_iff use)
    (fun _ _ mirrors fine => mirrors.perform fine.1) (Mirrors.new environment)

namespace InterchangeSample

def session : ExecutionSession := .sample 1 "alice"

def snapshot : Uuid → UInt64 → SessionSnapshot := .sample 1

def createdTwice : List Use :=
  [.createSession session, .createSession session]

/-- The earlier of two checkpoints is saved last. -/
def savedOutOfOrder : List Use :=
  [.createSession session, .saveSnapshot (snapshot 2 200) (some "alice"),
    .saveSnapshot (snapshot 3 100) (some "alice"), .resumeSession 1 Version.current (some "alice")]

/-- The second creation succeeds in memory and fails in the database, and a
resumption in memory returns the checkpoint that was saved last. -/
theorem stores_differ :
    ¬ Interchangeable .sample createdTwice ∧ ¬ Interchangeable .sample savedOutOfOrder := by
  refine ⟨?_, ?_⟩
  · intro interchangeable
    have agrees := (interchangeable [.createSession session] (.createSession session) prefix_rfl).1
    exact absurd agrees (by decide)
  · intro interchangeable
    have latest := (interchangeable (savedOutOfOrder.take 3)
      (.resumeSession 1 Version.current (some "alice")) prefix_rfl).2.1
    have bound := latest (snapshot 3 100) [snapshot 2 200, snapshot 3 100] rfl
      rfl (snapshot 2 200) mem_cons_self
    exact absurd bound (by decide)

end InterchangeSample

end Session

end FusionRouter

import FusionRouter.Lib.Interleaving
import FusionRouter.Providers.CircuitBreaker

/-!
# The circuit breaker under interleaving

The state, the time of the last failure and the probe flag of a breaker are
cells of their own.  Each call is a thread, and each access of a cell is a step
of it, so that the steps of several calls mix in every order.  A call that only
reports an outcome starts as `working`.

The guard of `if let Some(..) = *self.last_failure_time.read()` lives until the
end of the branch, so the failure time is not written while a call enters
half-open.
-/

namespace FusionRouter

open Interleaving List

inductive BreakerMoment where
  /-- The state changed to open. -/
  | opened (time : Nat)
  /-- The step in which `can_execute` decided to return true. -/
  | admitted (time : Nat)
deriving Repr, DecidableEq

/-- The cells of a breaker, with the clock and with what has happened so far. -/
structure BreakerCells where
  breaker : CircuitBreaker
  /-- Read locks that are held on `last_failure_time`. -/
  readers : Nat
  now : Nat
  history : List BreakerMoment
deriving Repr, DecidableEq

namespace BreakerCells

def new (failureThreshold successThreshold cooldownSecs now : Nat) :
    BreakerCells :=
  { breaker :=
      CircuitBreaker.new failureThreshold successThreshold cooldownSecs
    readers := 0
    now := now
    history := [] }

variable (cells : BreakerCells)

def admission : BreakerCells :=
  { cells with history := cells.history ++ [.admitted cells.now] }

/-- `*self.state.write() = state`. -/
def setState (state : CircuitState) : BreakerCells :=
  { cells with breaker := { cells.breaker with state := state } }

/-- `self.probe_in_flight.store(probe)`. -/
def setProbe (probe : Bool) : BreakerCells :=
  { cells with breaker := { cells.breaker with probeInFlight := probe } }

/-- `*self.state.write() = CircuitState::Open`. -/
def writeOpen : BreakerCells :=
  if cells.breaker.state = .opened then cells
  else
    { cells.setState .opened with
      history := cells.history ++ [.opened cells.now] }

def openings : List Nat :=
  cells.history.filterMap fun
    | .opened time => some time
    | .admitted _ => none

/-- No admission between a change to open and the end of the cooldown that
starts with it. -/
def CooldownKept : Prop :=
  cells.history.Pairwise fun earlier later =>
    ∀ opened admitted, earlier = .opened opened → later = .admitted admitted →
      opened + cells.breaker.cooldown ≤ admitted

end BreakerCells

/-- Where `record_success` or `record_failure` is, by its next access. -/
inductive ReportStage where
  | countingSuccess
  | closing
  /-- `failure_count.store(0)` after the breaker has been closed. -/
  | zeroing
  /-- `failure_count.store(0)` of a success in the closed state. -/
  | clearing
  /-- `probe_in_flight.store(false)`. -/
  | releasing
  | countingFailure
  /-- Writes open after the failures of the closed state. -/
  | tripping
  /-- Writes open after a failure in the half-open state. -/
  | opening
  /-- `Instant::now()`, taken before the lock of the cell. -/
  | stamping (halfOpen : Bool)
  | stamped (halfOpen : Bool) (time : Nat)
deriving Repr, DecidableEq

/-- The stages that a probe passes through. -/
def ReportStage.halfOpen : ReportStage → Bool
  | .countingSuccess | .closing | .zeroing | .releasing | .opening => true
  | .clearing | .countingFailure | .tripping => false
  | .stamping halfOpen => halfOpen
  | .stamped halfOpen _ => halfOpen

/-- Where a call is, by its next access.  A probe is a call that was admitted
because the breaker was open or half-open. -/
inductive BreakerThread where
  /-- Before `self.state.read()` of `can_execute`. -/
  | idle
  | readingTime
  | deciding (lastFailure : Nat)
  | entering
  | resetting
  | flagging
  /-- Before the `compare_exchange` on the probe flag. -/
  | swapping
  | refused
  | working (probe : Bool)
  | recording (probe : Bool) (stage : ReportStage)
  | finished
deriving Repr, DecidableEq

namespace BreakerThread

/-- A call before `can_execute`, or one that only reports an outcome. -/
def Starts (thread : BreakerThread) : Prop :=
  thread = .idle ∨ thread = .working false

instance (thread : BreakerThread) : Decidable thread.Starts :=
  inferInstanceAs (Decidable (_ ∨ _))

/-- Admitted as a probe, and its outcome not recorded yet. -/
def isProbe : BreakerThread → Bool
  | .working probe => probe
  | .recording probe _ => probe
  | _ => false

/-- Has written half-open and not yet set the probe flag. -/
def isStarting : BreakerThread → Bool
  | .resetting | .flagging => true
  | _ => false

/-- Has written the state and not yet the cells that go with it. -/
def isSettling : BreakerThread → Bool
  | .recording _ .zeroing | .recording _ .releasing => true
  | .recording _ (.stamping _) | .recording _ (.stamped _ _) => true
  | _ => false

/-- The first access of `record_success`. -/
def startSuccess (probe : Bool) : CircuitState → BreakerThread
  | .halfOpen => .recording probe .countingSuccess
  | .closed => .recording probe .clearing
  | .opened => .finished

/-- The first access of `record_failure`. -/
def startFailure (probe : Bool) : CircuitState → BreakerThread
  | .halfOpen => .recording probe .opening
  | .closed => .recording probe .countingFailure
  | .opened => .finished

/-- The next access of `record_success` or `record_failure`. -/
def advanceRecord (cells : BreakerCells) (probe : Bool) :
    ReportStage → Option (BreakerCells × BreakerThread)
  | .countingSuccess =>
    some (
      { cells with
        breaker :=
          { cells.breaker with
            successCount := CircuitBreaker.increment cells.breaker.successCount } },
      if cells.breaker.successThreshold ≤ CircuitBreaker.increment cells.breaker.successCount then
        .recording probe .closing
      else .recording probe .releasing)
  | .closing => some (cells.setState .closed, .recording probe .zeroing)
  | .zeroing =>
    some ({ cells with breaker := { cells.breaker with failureCount := 0 } },
      .recording probe .releasing)
  | .clearing =>
    some ({ cells with breaker := { cells.breaker with failureCount := 0 } },
      .finished)
  | .releasing => some (cells.setProbe false, .finished)
  | .countingFailure =>
    some (
      { cells with
        breaker :=
          { cells.breaker with
            failureCount := CircuitBreaker.increment cells.breaker.failureCount } },
      if cells.breaker.failureThreshold ≤ CircuitBreaker.increment cells.breaker.failureCount then
        .recording probe .tripping
      else .finished)
  | .tripping => some (cells.writeOpen, .recording probe (.stamping false))
  | .opening => some (cells.writeOpen, .recording probe (.stamping true))
  | .stamping halfOpen =>
    some (cells, .recording probe (.stamped halfOpen cells.now))
  | .stamped halfOpen time =>
    -- the write waits for the read locks
    if cells.readers = 0 then
      some (
        { cells with
          breaker := { cells.breaker with lastFailureTime := some time } },
        if halfOpen then .recording probe .releasing else .finished)
    else none

/-- The next access of a call; `succeeded` is the outcome of its request. -/
def advance (succeeded : Bool) (cells : BreakerCells) :
    BreakerThread → Option (BreakerCells × BreakerThread)
  | .idle =>
    match cells.breaker.state with
    | .closed => some (cells.admission, .working false)
    | .opened => some (cells, .readingTime)
    | .halfOpen => some (cells, .swapping)
  | .readingTime =>
    match cells.breaker.lastFailureTime with
    | none => some (cells, .refused)
    | some lastFailure =>
      some ({ cells with readers := cells.readers + 1 },
        .deciding lastFailure)
  | .deciding lastFailure =>
    if cells.breaker.cooldown ≤ cells.now - lastFailure then
      some (cells, .entering)
    else some ({ cells with readers := cells.readers - 1 }, .refused)
  | .entering => some (cells.setState .halfOpen, .resetting)
  | .resetting =>
    some ({ cells with breaker := { cells.breaker with successCount := 0 } },
      .flagging)
  | .flagging =>
    some ({ (cells.setProbe true).admission with readers := cells.readers - 1 },
      .working true)
  | .swapping =>
    if cells.breaker.probeInFlight then some (cells, .refused)
    else some ((cells.setProbe true).admission, .working true)
  | .refused => none
  | .working probe =>
    if succeeded then some (cells, startSuccess probe cells.breaker.state)
    else some (cells, startFailure probe cells.breaker.state)
  | .recording probe stage => advanceRecord cells probe stage
  | .finished => none

end BreakerThread

/-- Some time passes, and then a call makes its next access. -/
def BreakerAction (cells : BreakerCells) (here : BreakerThread)
    (cells' : BreakerCells) (here' : BreakerThread) : Prop :=
  ∃ later succeeded, cells.now ≤ later ∧
    here.advance succeeded { cells with now := later } = some (cells', here')

/-- The breaker before its first call. -/
def breakerStart (failureThreshold successThreshold cooldownSecs now : Nat)
    (threads : List BreakerThread) : System BreakerCells BreakerThread :=
  { shared :=
      BreakerCells.new failureThreshold successThreshold cooldownSecs now
    threads := threads }

/-- At most one probe is outstanding, and no call was admitted before the
cooldown of a change to open had passed. -/
def BreakerSafe (system : System BreakerCells BreakerThread) : Prop :=
  system.threads.countP BreakerThread.isProbe ≤ 1 ∧ system.shared.CooldownKept

/-- The condition under which a call makes its next access. -/
@[mk_iff]
structure OrderlyAccess (others : List BreakerThread) (cells : BreakerCells)
    (here : BreakerThread) : Prop where
  /-- Half-open is entered from open, and not while another call still settles
  an earlier change of the state. -/
  enters : here = .entering → cells.breaker.state = .opened ∧
    ∀ other ∈ others, other.isSettling = false
  /-- The free flag is taken in half-open, and not while another call enters
  it. -/
  swaps : here = .swapping → cells.breaker.probeInFlight = false → cells.breaker.state = .halfOpen ∧
      ∀ other ∈ others, other.isStarting = false
  /-- In half-open only the probe reports an outcome. -/
  reports : here = .working false → cells.breaker.state ≠ .halfOpen
  /-- The failures of the closed state do not open a half-open breaker. -/
  trips : ∀ probe, here = .recording probe .tripping → cells.breaker.state ≠ .halfOpen

instance (others : List BreakerThread) (cells : BreakerCells)
    (here : BreakerThread) : Decidable (OrderlyAccess others cells here) :=
  decidable_of_iff' _ (orderlyAccess_iff others cells here)

def OrderlyRun : System BreakerCells BreakerThread → System BreakerCells BreakerThread → Prop :=
  Watched fun others cells here cells' here' =>
    OrderlyAccess others cells here ∧ BreakerAction cells here cells' here'

/-! ### What every orderly run keeps -/

namespace BreakerThread

/-- Holds a read lock on `last_failure_time`. -/
def holdsTime : BreakerThread → Bool
  | .deciding _ | .entering | .resetting | .flagging => true
  | _ => false

/-- Is the probe, or is about to be it. -/
def claims (thread : BreakerThread) : Bool :=
  thread.isStarting || thread.isProbe

/-- Goes on only while the breaker is half-open. -/
def needsHalfOpen : BreakerThread → Bool
  | .resetting | .flagging => true
  | .working probe => probe
  | .recording _ .countingSuccess | .recording _ .closing => true
  | .recording _ .opening => true
  | _ => false

/-- Has written open and not yet the time of it. -/
def isDating : BreakerThread → Bool
  | .recording _ (.stamping _) | .recording _ (.stamped _ _) => true
  | _ => false

/-- What the place of a call says about the cells. -/
structure Fits (cells : BreakerCells) (thread : BreakerThread) : Prop where
  halfOpen : thread.needsHalfOpen = true → cells.breaker.state = .halfOpen
  flagged : thread.isProbe = true → cells.breaker.probeInFlight = true
  opened : thread.isDating = true → cells.breaker.state = .opened
  read : ∀ lastFailure, thread = .deciding lastFailure →
    cells.breaker.lastFailureTime = some lastFailure
  cooled : thread = .entering → ∃ lastFailure, cells.breaker.lastFailureTime = some lastFailure ∧
      cells.breaker.cooldown ≤ cells.now - lastFailure
  stamp : ∀ probe halfOpen time, thread = .recording probe (.stamped halfOpen time) →
      ∀ opened ∈ cells.openings, opened ≤ time
  role : ∀ probe stage, thread = .recording probe stage → probe = stage.halfOpen

end BreakerThread

/-- An access that leaves alone what the places of the calls depend on. -/
structure BreakerCells.Keeps (cells cells' : BreakerCells) : Prop where
  state : cells'.breaker.state = cells.breaker.state
  cooldown : cells'.breaker.cooldown = cells.breaker.cooldown
  time : cells'.breaker.lastFailureTime = cells.breaker.lastFailureTime
  flagged : cells.breaker.probeInFlight = true → cells'.breaker.probeInFlight = true
  openings : cells'.openings = cells.openings
  now : cells.now ≤ cells'.now

theorem BreakerThread.Fits.keeps {thread : BreakerThread}
    (fits : thread.Fits cells) (keeps : cells.Keeps cells') : thread.Fits cells' := by
  constructor
  · intro needs
    rw [keeps.state]
    exact fits.halfOpen needs
  · intro probe
    exact keeps.flagged (fits.flagged probe)
  · intro dating
    rw [keeps.state]
    exact fits.opened dating
  · intro lastFailure deciding
    rw [keeps.time]
    exact fits.read lastFailure deciding
  · intro entering
    obtain ⟨lastFailure, time, cooled⟩ := fits.cooled entering
    rw [keeps.time, keeps.cooldown]
    have := keeps.now
    exact ⟨lastFailure, time, by omega⟩
  · intro probe halfOpen time stamped
    rw [keeps.openings]
    exact fits.stamp probe halfOpen time stamped
  · exact fits.role

/-- The invariant of the orderly runs. -/
structure BreakerSound (cells : BreakerCells) (threads : List BreakerThread) :
    Prop where
  fits : ∀ thread ∈ threads, thread.Fits cells
  readers : cells.readers = threads.countP BreakerThread.holdsTime
  single : threads.countP BreakerThread.claims ≤ 1
  /-- Once its time is written, a change to open is not younger than it. -/
  dated : (∀ thread ∈ threads, thread.isDating = false) → ∀ opened ∈ cells.openings, ∃ lastFailure,
      cells.breaker.lastFailureTime = some lastFailure ∧ opened ≤ lastFailure
  cooled : cells.breaker.state ≠ .opened →
    ∀ opened ∈ cells.openings, opened + cells.breaker.cooldown ≤ cells.now
  past : ∀ opened ∈ cells.openings, opened ≤ cells.now
  kept : cells.CooldownKept

section Steps

variable {cells cells' : BreakerCells}

namespace BreakerThread

variable {thread : BreakerThread}

/-- A call that goes on only in half-open is the probe or about to be it. -/
theorem Fits.claims (fits : thread.Fits cells)
    (needs : thread.needsHalfOpen = true) : thread.claims = true := by
  cases thread with
  | recording probe stage =>
    rw [fits.role probe stage rfl]
    cases stage <;> first | rfl | cases needs
  | working probe => exact needs
  | _ => first | rfl | cases needs

/-- Outside of half-open, only a call that still settles its outcome is the
probe. -/
theorem Fits.unclaimed (fits : thread.Fits cells) (left : cells.breaker.state ≠ .halfOpen)
    (settled : thread.isSettling = false) : thread.claims = false := by
  have leaves : thread.needsHalfOpen = false := by
    simpa using mt fits.halfOpen left
  cases thread with
  | recording probe stage =>
    rw [fits.role probe stage rfl]
    cases stage <;> first
      | rfl
      | exact Bool.noConfusion leaves
      | exact Bool.noConfusion settled
  | working probe => exact leaves
  | _ => first | rfl | cases leaves

section

variable (role : probe = stage.halfOpen)
  (halfOpen : (recording probe stage).needsHalfOpen = true →
    cells.breaker.state = .halfOpen)
  (flagged : probe = true → cells.breaker.probeInFlight = true)
include role halfOpen flagged

theorem Fits.of_report (opened : (recording probe stage).isDating = true →
      cells.breaker.state = .opened) (stamp : ∀ halfOpen time, stage = .stamped halfOpen time →
      ∀ opened ∈ cells.openings, opened ≤ time) : (recording probe stage).Fits cells := by
  refine ⟨halfOpen, flagged, opened, ?_, ?_, ?_, ?_⟩
  · intro _ deciding
    cases deciding
  · intro entering
    cases entering
  · intro _ _ _ stamped
    cases stamped
    exact stamp _ _ rfl
  · intro _ _ recording
    cases recording
    exact role

theorem Fits.of_stage (undated : (recording probe stage).isDating = false) :
    (recording probe stage).Fits cells := by
  refine .of_report role halfOpen flagged ?_ ?_
  · intro dating
    rw [undated] at dating
    cases dating
  · rintro _ _ rfl
    cases undated

end

theorem Fits.of_halfOpen (halfOpen : cells.breaker.state = .halfOpen)
    (flagged : thread.isProbe = true → cells.breaker.probeInFlight = true)
    (place : thread = .resetting ∨ thread = .flagging ∨ thread = .working true) :
    thread.Fits cells := by
  rcases place with rfl | rfl | rfl <;> refine ⟨fun _ => halfOpen, flagged, ?_, ?_, ?_, ?_, ?_⟩ <;>
    intros <;> contradiction

theorem undated_of_settled (settled : thread.isSettling = false) : thread.isDating = false := by
  cases thread with
  | recording probe stage => cases stage <;> first | rfl | cases settled
  | _ => rfl

theorem claims_of_isProbe (probe : thread.isProbe = true) : thread.claims = true := by
  unfold claims
  rw [probe, Bool.or_true]

end BreakerThread

namespace BreakerSound

variable {thread : BreakerThread}

theorem perm (permutation : threads.Perm threads')
    (sound : BreakerSound cells threads) : BreakerSound cells threads' := by
  refine { sound with fits := ?_, readers := ?_, single := ?_, dated := ?_ }
  · intro thread member
    exact sound.fits thread (permutation.mem_iff.mpr member)
  · rw [← permutation.countP_eq]
    exact sound.readers
  · rw [← permutation.countP_eq]
    exact sound.single
  · intro settled
    apply sound.dated
    intro thread member
    exact settled thread (permutation.mem_iff.mp member)

section

variable (sound : BreakerSound cells (here :: others))
include sound

theorem own : here.Fits cells := sound.fits here mem_cons_self

theorem other (member : thread ∈ others) : thread.Fits cells :=
  sound.fits thread (mem_cons_of_mem _ member)

theorem fits_of (own : here'.Fits cells') (others' : ∀ thread ∈ others,
      thread.Fits cells → thread.Fits cells') : ∀ thread ∈ here' :: others, thread.Fits cells' := by
  intro thread member
  rcases mem_cons.mp member with rfl | member
  · exact own
  · exact others' thread member (sound.other member)

theorem alone (claims : here.claims = true) : ∀ thread ∈ others, thread.claims = false := by
  have single := sound.single
  rw [countP_cons_of_pos claims] at single
  have none : others.countP BreakerThread.claims = 0 := by omega
  intro thread member
  simpa using countP_eq_zero.mp none thread member

theorem others_leave (claims : here.claims = true) :
    ∀ thread ∈ others, thread.needsHalfOpen = false := by
  intro thread member
  by_contra needs
  have claimed := (sound.other member).claims (by simpa using needs)
  rw [sound.alone claims thread member] at claimed
  cases claimed

theorem single_of (claims : here'.claims = true → here.claims = true ∨
      ∀ thread ∈ others, thread.claims = false) :
    (here' :: others).countP BreakerThread.claims ≤ 1 := by
  have single := sound.single
  rw [countP_cons] at single ⊢
  split
  next claimed =>
    rcases claims claimed with before | none
    · rw [if_pos before] at single
      exact single
    · rw [countP_eq_zero.mpr (by simpa using none)]
  · omega

theorem readers_of (readers : cells'.readers + here.holdsTime.toNat =
      cells.readers + here'.holdsTime.toNat) :
    cells'.readers = (here' :: others).countP BreakerThread.holdsTime := by
  have counted := sound.readers
  rw [countP_cons] at counted ⊢
  cases before : here.holdsTime <;> cases after : here'.holdsTime <;> simp_all

theorem dated_of (dating : here'.isDating = here.isDating)
    (settled : ∀ thread ∈ here' :: others, thread.isDating = false) :
    ∀ opened ∈ cells.openings, ∃ lastFailure, cells.breaker.lastFailureTime = some lastFailure ∧
        opened ≤ lastFailure := by
  apply sound.dated
  intro thread member
  rcases mem_cons.mp member with rfl | member
  · rw [← dating]
    exact settled here' mem_cons_self
  · exact settled thread (mem_cons_of_mem _ member)

/-- An access that concerns no other call. -/
theorem quiet (keeps : cells.Keeps cells') (own : here'.Fits cells')
    (readers : cells'.readers + here.holdsTime.toNat = cells.readers + here'.holdsTime.toNat)
    (claims : here'.claims = true → here.claims = true ∨ ∀ thread ∈ others, thread.claims = false)
    (dating : here'.isDating = here.isDating)
    (kept : cells'.CooldownKept) : BreakerSound cells' (here' :: others) := by
  constructor
  · exact sound.fits_of own (fun _ _ fits => fits.keeps keeps)
  · exact sound.readers_of readers
  · exact sound.single_of claims
  · intro settled
    rw [keeps.openings, keeps.time]
    exact sound.dated_of dating settled
  · intro notOpen opened member
    rw [keeps.state] at notOpen
    rw [keeps.openings] at member
    rw [keeps.cooldown]
    exact (sound.cooled notOpen opened member).trans keeps.now
  · intro opened member
    rw [keeps.openings] at member
    exact (sound.past opened member).trans keeps.now
  · exact kept

end

theorem enter (sound : BreakerSound cells (.entering :: others))
    (orderly : OrderlyAccess others cells .entering) :
    BreakerSound (cells.setState .halfOpen) (.resetting :: others) := by
  obtain ⟨opened, settled⟩ := orderly.enters rfl
  have undated : ∀ thread ∈ BreakerThread.entering :: others, thread.isDating = false := by
    intro thread member
    rcases mem_cons.mp member with rfl | member
    · rfl
    · exact BreakerThread.undated_of_settled (settled thread member)
  refine { sound with
    fits := ?_, readers := ?_, single := ?_, dated := ?_, cooled := ?_ }
  · refine sound.fits_of (.of_halfOpen rfl Bool.noConfusion (.inl rfl)) ?_
    intro thread member fits
    refine ⟨fun _ => rfl, fits.flagged, ?_, fits.read, fits.cooled, fits.stamp, fits.role⟩
    intro dating
    rw [undated thread (mem_cons_of_mem _ member)] at dating
    cases dating
  · exact sound.readers_of rfl
  · apply sound.single_of
    intro _
    right
    intro thread member
    refine (sound.other member).unclaimed ?_ (settled thread member)
    rw [opened]
    exact CircuitState.noConfusion
  · intro _
    exact sound.dated undated
  · intro _ time member
    -- the failure time that the call has read is not older than the opening
    obtain ⟨lastFailure, dated, cooled⟩ := sound.own.cooled rfl
    obtain ⟨lastFailure', dated', younger⟩ := sound.dated undated time member
    rw [dated] at dated'
    cases dated'
    have past := sound.past time member
    change time + cells.breaker.cooldown ≤ cells.now
    omega

theorem close (sound : BreakerSound cells (.recording probe .closing :: others)) :
    BreakerSound (cells.setState .closed) (.recording probe .zeroing :: others) := by
  have halfOpen := sound.own.halfOpen rfl
  have claims := sound.own.claims rfl
  refine { sound with
    fits := ?_, readers := ?_, single := ?_, dated := ?_, cooled := ?_ }
  · refine sound.fits_of (.of_stage (sound.own.role probe .closing rfl)
      Bool.noConfusion sound.own.flagged rfl) ?_
    intro thread member fits
    refine ⟨?_, fits.flagged, ?_, fits.read, fits.cooled, fits.stamp, fits.role⟩
    · intro needs
      rw [sound.others_leave claims thread member] at needs
      cases needs
    · intro dating
      have opened := fits.opened dating
      rw [halfOpen] at opened
      cases opened
  · exact sound.readers_of rfl
  · apply sound.single_of
    intro _
    exact .inl claims
  · exact sound.dated_of rfl
  · intro _ opened member
    apply sound.cooled _ opened member
    rw [halfOpen]
    exact CircuitState.noConfusion

/-- A call in whose way no probe is writes open. -/
theorem write_open (sound : BreakerSound cells (.recording probe stage :: others))
    (role : halfOpen = stage.halfOpen) (unread : ∀ thread ∈ others, thread.needsHalfOpen = false) :
    BreakerSound cells.writeOpen (.recording probe (.stamping halfOpen) :: others) := by
  have dating : ¬ ∀ thread ∈ BreakerThread.recording probe (.stamping halfOpen) :: others,
      thread.isDating = false := by
    intro settled
    cases settled _ mem_cons_self
  have fits : ∀ {cells' : BreakerCells}, cells'.breaker.state = .opened →
      cells'.breaker.probeInFlight = cells.breaker.probeInFlight →
      (BreakerThread.recording probe (.stamping halfOpen)).Fits cells' := by
    intro cells' opened flag
    refine .of_report ?_ Bool.noConfusion ?_ (fun _ => opened) ?_
    · rw [sound.own.role probe stage rfl, ← role]
      rfl
    · rw [flag]
      exact sound.own.flagged
    · intro _ _ stamped
      cases stamped
  unfold BreakerCells.writeOpen
  split
  next opened =>
    exact { sound with
      fits := sound.fits_of (fits opened rfl) (fun _ _ => id)
      readers := sound.readers_of rfl
      single := sound.single_of Or.inl
      dated := fun settled => (dating settled).elim }
  next notOpen =>
    have settled : ∀ thread ∈ others, thread.isDating = false := by
      intro thread member
      by_contra isDating
      exact notOpen ((sound.other member).opened (by simpa using isDating))
    constructor
    · refine sound.fits_of (fits rfl rfl) ?_
      intro thread member fits
      refine ⟨?_, fits.flagged, fun _ => rfl, fits.read, fits.cooled, ?_, fits.role⟩
      · intro needs
        rw [unread thread member] at needs
        cases needs
      · rintro _ _ _ rfl
        cases settled _ member
    · exact sound.readers_of rfl
    · exact sound.single_of Or.inl
    · intro settled
      exact (dating settled).elim
    · intro opened
      exact (opened rfl).elim
    · intro opened member
      have listed : opened ∈ cells.openings ∨ opened = cells.now := by
        simpa [BreakerCells.openings] using member
      rcases listed with before | rfl
      · exact sound.past opened before
      · exact le_rfl
    · refine pairwise_append.mpr ⟨sound.kept, pairwise_singleton _ _, ?_⟩
      intro earlier _ later last opened admitted _ isAdmitted
      rw [mem_singleton.mp last] at isAdmitted
      cases isAdmitted

/-- The failure time is written, which ends the change to open. -/
theorem date
    (sound : BreakerSound cells (.recording probe (.stamped halfOpen time) ::
      others)) (unlocked : cells.readers = 0) :
    BreakerSound
      { cells with
        breaker := { cells.breaker with lastFailureTime := some time } }
      ((if halfOpen then .recording probe .releasing else .finished) :: others) := by
  have role : probe = halfOpen := sound.own.role _ _ rfl
  have unread : ∀ thread ∈ others, thread.holdsTime = false := by
    have readers := sound.readers
    rw [unlocked, countP_cons] at readers
    have none : others.countP BreakerThread.holdsTime = 0 := by omega
    intro thread member
    simpa using countP_eq_zero.mp none thread member
  refine { sound with fits := ?_, readers := ?_, single := ?_, dated := ?_ }
  · refine sound.fits_of ?_ ?_
    · split
      next isHalfOpen =>
        exact .of_stage (role.trans isHalfOpen) Bool.noConfusion sound.own.flagged rfl
      · constructor <;> intros <;> contradiction
    · intro thread member fits
      refine ⟨fits.halfOpen, fits.flagged, fits.opened, ?_, ?_, fits.stamp, fits.role⟩
      · rintro _ rfl
        cases unread _ member
      · rintro rfl
        cases unread _ member
  · apply sound.readers_of
    split <;> rfl
  · apply sound.single_of
    intro claims
    left
    split at claims
    · exact claims
    · cases claims
  · intro _ opened member
    exact ⟨time, rfl, sound.own.stamp _ _ _ rfl opened member⟩

theorem release (sound : BreakerSound cells (.recording probe .releasing :: others)) :
    BreakerSound (cells.setProbe false) (.finished :: others) := by
  have claims : (BreakerThread.recording probe .releasing).claims = true := by
    rw [sound.own.role _ _ rfl]
    rfl
  refine { sound with fits := ?_, readers := ?_, single := ?_, dated := ?_ }
  · refine sound.fits_of ?_ ?_
    · constructor <;> intros <;> contradiction
    · intro thread member fits
      refine ⟨fits.halfOpen, ?_, fits.opened, fits.read, fits.cooled, fits.stamp, fits.role⟩
      intro isProbe
      have claimed := BreakerThread.claims_of_isProbe isProbe
      rw [sound.alone claims thread member] at claimed
      cases claimed
  · exact sound.readers_of rfl
  · apply sound.single_of
    intro claimed
    cases claimed
  · exact sound.dated_of rfl

theorem kept_admission (sound : BreakerSound cells threads)
    (notOpen : cells.breaker.state ≠ .opened) :
    cells.admission.CooldownKept := by
  refine pairwise_append.mpr ⟨sound.kept, pairwise_singleton _ _, ?_⟩
  rintro _ member _ last opened admitted rfl isAdmitted
  rw [mem_singleton.mp last] at isAdmitted
  cases isAdmitted
  apply sound.cooled notOpen
  exact mem_filterMap.mpr ⟨_, member, rfl⟩

theorem later (sound : BreakerSound cells threads) {later : Nat} (passed : cells.now ≤ later) :
    BreakerSound { cells with now := later } threads := by
  have keeps : cells.Keeps { cells with now := later } :=
    ⟨rfl, rfl, rfl, id, rfl, passed⟩
  refine { sound with fits := ?_, cooled := ?_, past := ?_ }
  · intro thread member
    exact (sound.fits thread member).keeps keeps
  · intro notOpen opened member
    exact (sound.cooled notOpen opened member).trans passed
  · intro opened member
    exact (sound.past opened member).trans passed

theorem record (sound : BreakerSound cells (.recording probe stage :: others))
    (orderly : OrderlyAccess others cells (.recording probe stage))
    (advanced : BreakerThread.advanceRecord cells probe stage = some (cells',
      here')) : BreakerSound cells' (here' :: others) := by
  have role := sound.own.role probe stage rfl
  have halfOpen := sound.own.halfOpen
  have flagged := sound.own.flagged
  cases stage with
  | countingSuccess =>
    cases advanced
    refine sound.quiet ⟨rfl, rfl, rfl, id, rfl, le_rfl⟩ ?_ ?_ ?_ ?_ sound.kept
    · split
      · exact .of_stage role (fun _ => halfOpen rfl) flagged rfl
      · exact .of_stage role Bool.noConfusion flagged rfl
    · split <;> rfl
    · intro _
      exact .inl (sound.own.claims rfl)
    · split <;> rfl
  | closing =>
    cases advanced
    exact sound.close
  | zeroing =>
    cases advanced
    refine sound.quiet ⟨rfl, rfl, rfl, id, rfl, le_rfl⟩ ?_ rfl Or.inl rfl sound.kept
    exact .of_stage role Bool.noConfusion flagged rfl
  | clearing =>
    cases advanced
    refine sound.quiet ⟨rfl, rfl, rfl, id, rfl, le_rfl⟩ ?_ rfl Bool.noConfusion rfl sound.kept
    constructor <;> intros <;> contradiction
  | releasing =>
    cases advanced
    exact sound.release
  | countingFailure =>
    cases advanced
    refine sound.quiet ⟨rfl, rfl, rfl, id, rfl, le_rfl⟩ ?_ ?_ ?_ ?_ sound.kept
    · split
      · exact .of_stage role Bool.noConfusion flagged rfl
      · constructor <;> intros <;> contradiction
    · split <;> rfl
    · split
      · exact Or.inl
      · exact Bool.noConfusion
    · split <;> rfl
  | tripping =>
    cases advanced
    apply sound.write_open rfl
    intro thread member
    by_contra needs
    exact orderly.trips probe rfl ((sound.other member).halfOpen (by simpa using needs))
  | opening =>
    cases advanced
    exact sound.write_open rfl (sound.others_leave (sound.own.claims rfl))
  | stamping isHalfOpen =>
    cases advanced
    refine sound.quiet ⟨rfl, rfl, rfl, id, rfl, le_rfl⟩ ?_ rfl Or.inl rfl sound.kept
    refine .of_report role Bool.noConfusion flagged (fun _ => sound.own.opened rfl) ?_
    rintro _ _ ⟨⟩
    exact sound.past
  | stamped isHalfOpen time =>
    simp only [BreakerThread.advanceRecord] at advanced
    split at advanced
    next unlocked =>
      cases advanced
      exact sound.date unlocked
    · cases advanced

theorem fits_plain
    (plain : thread = .readingTime ∨ thread = .swapping ∨ thread = .refused ∨
      thread = .working false ∨ thread = .finished) : thread.Fits cells := by
  rcases plain with rfl | rfl | rfl | rfl | rfl <;> constructor <;> intros <;> contradiction

theorem admit_probe {readers : Nat} (sound : BreakerSound cells (place :: others))
    (halfOpen : cells.breaker.state = .halfOpen)
    (unlocks : readers + place.holdsTime.toNat = cells.readers)
    (claims : place.claims = true ∨ ∀ thread ∈ others, thread.claims = false)
    (undated : place.isDating = false) :
    BreakerSound { (cells.setProbe true).admission with readers := readers }
      (.working true :: others) := by
  refine sound.quiet ⟨rfl, rfl, rfl, fun _ => rfl, ?_, le_rfl⟩ ?_ unlocks
    (fun _ => claims) undated.symm ?_
  · simp [BreakerCells.openings, BreakerCells.admission, BreakerCells.setProbe]
  · exact .of_halfOpen halfOpen (fun _ => rfl) (.inr (.inr rfl))
  · apply sound.kept_admission
    rw [halfOpen]
    exact CircuitState.noConfusion

theorem report (sound : BreakerSound cells (.working probe :: others))
    (role : probe = stage.halfOpen)
    (undated : (BreakerThread.recording probe stage).isDating = false) :
    BreakerSound cells (.recording probe stage :: others) := by
  refine sound.quiet ⟨rfl, rfl, rfl, id, rfl, le_rfl⟩ ?_ rfl Or.inl undated sound.kept
  refine .of_stage role ?_ sound.own.flagged undated
  intro needs
  apply sound.own.halfOpen
  rw [role]
  cases stage <;> first | rfl | exact Bool.noConfusion needs

theorem report_opened (sound : BreakerSound cells (.working probe :: others)) :
    BreakerSound cells (.finished :: others) :=
  sound.quiet ⟨rfl, rfl, rfl, id, rfl, le_rfl⟩ (fits_plain (by simp)) rfl
    Bool.noConfusion rfl sound.kept

theorem advance {succeeded : Bool} (sound : BreakerSound cells (here :: others))
    (orderly : OrderlyAccess others cells here)
    (advanced : here.advance succeeded cells = some (cells', here')) :
    BreakerSound cells' (here' :: others) := by
  have same : cells.Keeps cells := ⟨rfl, rfl, rfl, id, rfl, le_rfl⟩
  cases here with
  | idle =>
    simp only [BreakerThread.advance] at advanced
    split at advanced
    next closed =>
      cases advanced
      refine sound.quiet ⟨rfl, rfl, rfl, id, ?_, le_rfl⟩
        (fits_plain (by simp)) rfl Bool.noConfusion rfl ?_
      · simp [BreakerCells.openings, BreakerCells.admission]
      · apply sound.kept_admission
        rw [closed]
        exact CircuitState.noConfusion
    · cases advanced
      exact sound.quiet same (fits_plain (by simp)) rfl Bool.noConfusion rfl sound.kept
    · cases advanced
      exact sound.quiet same (fits_plain (by simp)) rfl Bool.noConfusion rfl sound.kept
  | readingTime =>
    simp only [BreakerThread.advance] at advanced
    split at advanced
    · cases advanced
      exact sound.quiet same (fits_plain (by simp)) rfl Bool.noConfusion rfl sound.kept
    next lastFailure dated =>
      cases advanced
      refine sound.quiet ⟨rfl, rfl, rfl, id, rfl, le_rfl⟩ ?_ rfl Bool.noConfusion rfl sound.kept
      constructor <;> intros <;> try contradiction
      next deciding =>
        cases deciding
        exact dated
  | deciding lastFailure =>
    have locked := sound.readers
    rw [countP_cons_of_pos rfl] at locked
    simp only [BreakerThread.advance] at advanced
    split at advanced
    next cooled =>
      cases advanced
      refine sound.quiet same ?_ rfl Bool.noConfusion rfl sound.kept
      constructor <;> intros <;> try contradiction
      exact ⟨lastFailure, sound.own.read lastFailure rfl, cooled⟩
    · cases advanced
      refine sound.quiet ⟨rfl, rfl, rfl, id, rfl, le_rfl⟩
        (fits_plain (by simp)) ?_ Bool.noConfusion rfl sound.kept
      change cells.readers - 1 + 1 = cells.readers
      omega
  | entering =>
    cases advanced
    exact sound.enter orderly
  | resetting =>
    cases advanced
    refine sound.quiet ⟨rfl, rfl, rfl, id, rfl, le_rfl⟩ ?_ rfl Or.inl rfl sound.kept
    exact .of_halfOpen (sound.own.halfOpen rfl) Bool.noConfusion (.inr (.inl rfl))
  | flagging =>
    have locked := sound.readers
    rw [countP_cons_of_pos rfl] at locked
    cases advanced
    apply sound.admit_probe (sound.own.halfOpen rfl) _ (.inl rfl) rfl
    change cells.readers - 1 + 1 = cells.readers
    omega
  | swapping =>
    simp only [BreakerThread.advance] at advanced
    split at advanced
    · cases advanced
      exact sound.quiet same (fits_plain (by simp)) rfl Bool.noConfusion rfl sound.kept
    next free =>
      cases advanced
      obtain ⟨halfOpen, started⟩ := orderly.swaps rfl (by simpa using free)
      refine sound.admit_probe halfOpen rfl (.inr ?_) rfl
      -- whoever started would be seen, and a probe holds the flag
      intro thread member
      unfold BreakerThread.claims
      rw [started thread member, Bool.false_or]
      by_contra probe
      exact free ((sound.other member).flagged (by simpa using probe))
  | refused | finished => cases advanced
  | working probe =>
    -- exactly the probe reports in half-open
    have closed : cells.breaker.state = .closed → probe = false := by
      intro closed
      by_contra isProbe
      rw [Bool.not_eq_false] at isProbe
      have halfOpen := sound.own.halfOpen isProbe
      rw [closed] at halfOpen
      cases halfOpen
    have halfOpen : cells.breaker.state = .halfOpen → probe = true := by
      intro halfOpen
      by_contra other
      rw [Bool.not_eq_true] at other
      exact orderly.reports (by rw [other]) halfOpen
    simp only [BreakerThread.advance] at advanced
    -- a success and a failure start in the same way
    split at advanced <;> cases advanced <;> cases state : cells.breaker.state with
      | closed => exact sound.report (closed state) rfl
      | opened => exact sound.report_opened
      | halfOpen => exact sound.report (halfOpen state) rfl
  | recording probe stage => exact sound.record orderly advanced

end BreakerSound

end Steps

theorem breakerSound_start (failureThreshold successThreshold cooldownSecs now : Nat)
    (starts : ∀ thread ∈ threads, thread.Starts) :
    BreakerSound (BreakerCells.new failureThreshold successThreshold cooldownSecs now)
      threads := by
  have places : ∀ thread ∈ threads, thread.holdsTime = false ∧ thread.claims = false := by
    intro thread member
    rcases starts thread member with rfl | rfl <;> exact ⟨rfl, rfl⟩
  constructor
  · intro thread member
    rcases starts thread member with rfl | rfl <;> constructor <;> intros <;> contradiction
  · symm
    apply countP_eq_zero.mpr
    intro thread member
    simp [(places thread member).1]
  · rw [countP_eq_zero.mpr]
    · exact Nat.zero_le 1
    · intro thread member
      simp [(places thread member).2]
  · intro _ _ member
    cases member
  · intro _ _ member
    cases member
  · intro _ member
    cases member
  · exact List.Pairwise.nil

theorem OrderlyRun.sound {start final : System BreakerCells BreakerThread}
    (run : OrderlyRun start final) (sound : BreakerSound start.shared start.threads) :
    BreakerSound final.shared final.threads := by
  refine Watched.symmetric run BreakerSound BreakerSound.perm ?_ sound
  rintro others cells here cells' here' ⟨orderly, later, succeeded, passed, advanced⟩ sound
  refine (sound.later passed).advance ?_ advanced
  exact ⟨orderly.enters, orderly.swaps, orderly.reports, orderly.trips⟩

/-- Whatever the number of calls and the order of their accesses: as long as
every access is orderly, at most one probe is outstanding and no call is
admitted during a cooldown. -/
theorem breaker_interleaving (failureThreshold successThreshold cooldownSecs now : Nat)
    (threads : List BreakerThread) (starts : ∀ thread ∈ threads, thread.Starts)
    (final : System BreakerCells BreakerThread)
    (run : OrderlyRun (breakerStart failureThreshold successThreshold
      cooldownSecs now threads) final) : BreakerSafe final := by
  have sound := run.sound
    (breakerSound_start failureThreshold successThreshold cooldownSecs now starts)
  refine ⟨?_, sound.kept⟩
  calc final.threads.countP BreakerThread.isProbe ≤ final.threads.countP BreakerThread.claims :=
        countP_mono_left fun _ _ => BreakerThread.claims_of_isProbe
    _ ≤ 1 := sound.single

namespace BreakerRaceSample

/-- A step of a schedule: when it is made, and the outcome of the request. -/
def access (turn : Nat × Bool) (cells : BreakerCells) (here : BreakerThread) :
    Option (BreakerCells × BreakerThread) :=
  if cells.now ≤ turn.1 then
    here.advance turn.2 { cells with now := turn.1 }
  else none

theorem action_of_access {next : BreakerCells × BreakerThread}
    (made : access turn cells here = some next) :
    BreakerAction cells here next.1 next.2 := by
  unfold access at made
  split at made
  next passed => exact ⟨turn.1, turn.2, passed, made⟩
  · cases made

def orderlyAccess (turn : Nat × Bool) (others : List BreakerThread)
    (cells : BreakerCells) (here : BreakerThread) : Option (BreakerCells × BreakerThread) :=
  if OrderlyAccess others cells here then access turn cells here else none

/-- A report and two calls, with thresholds of one and a second of cooldown. -/
def start : System BreakerCells BreakerThread :=
  breakerStart 1 1 1 0 [.working false, .idle, .idle]

def steps (count thread time : Nat) (succeeded : Bool) : List (Nat × Nat × Bool) :=
  List.replicate count (thread, time, succeeded)

/-- The failure opens the breaker, and a second later the first call becomes
the probe. -/
def probing : List (Nat × Nat × Bool) :=
  steps 5 0 0 false ++ steps 6 1 1000000000 false

/-- The probe fails and has written open but not the time of it, so that the
second call still reads the time of the first failure. -/
def failingProbe : List (Nat × Nat × Bool) :=
  probing ++ steps 2 1 1000000000 false ++ steps 6 2 1000000000 false

/-- The second call is refused while the probe is on its way. -/
def succeedingProbe : List (Nat × Nat × Bool) :=
  probing ++ steps 2 2 1000000000 false ++ steps 5 1 1000000000 true

/-- Both calls are probes, and the second was admitted in the moment in which
the first opened the breaker again. -/
def failed : System BreakerCells BreakerThread :=
  { shared :=
      { breaker :=
          { failureThreshold := 1
            successThreshold := 1
            cooldownSecs := 1
            state := .halfOpen
            failureCount := 1
            successCount := 0
            lastFailureTime := some 0
            probeInFlight := true }
        readers := 0
        now := 1000000000
        history := [.opened 0, .admitted 1000000000, .opened 1000000000, .admitted 1000000000] }
    threads := [.finished, .recording true (.stamping true), .working true] }

def recovered : System BreakerCells BreakerThread :=
  { shared :=
      { breaker :=
          { failureThreshold := 1
            successThreshold := 1
            cooldownSecs := 1
            state := .closed
            failureCount := 0
            successCount := 1
            lastFailureTime := some 0
            probeInFlight := false }
        readers := 0
        now := 1000000000
        history := [.opened 0, .admitted 1000000000] }
    threads := [.finished, .finished, .refused] }

theorem recovered_safe :
    (∀ thread ∈ start.threads, thread.Starts) ∧ OrderlyRun start recovered ∧
      BreakerSafe recovered := by
  have starts : ∀ thread ∈ start.threads, thread.Starts := by decide
  have played : System.play orderlyAccess succeedingProbe start =
      some recovered := by decide
  have run : OrderlyRun start recovered := by
    refine Watched.of_play ?_ played
    intro _ _ _ _ _ made
    unfold orderlyAccess at made
    split at made
    next orderly => exact ⟨orderly, action_of_access made⟩
    · cases made
  exact ⟨starts, run, breaker_interleaving 1 1 1 0 _ starts _ run⟩

theorem second_probe_admitted :
    (∀ thread ∈ start.threads, thread.Starts) ∧ Reaches BreakerAction start failed ∧
        ¬ failed.threads.countP BreakerThread.isProbe ≤ 1 ∧ ¬ failed.shared.CooldownKept := by
  have played : System.play (fun turn _ => access turn) failingProbe start =
      some failed := by decide
  have run : Watched (fun _ => BreakerAction) start failed :=
    Watched.of_play (fun _ _ _ _ _ => action_of_access) played
  refine ⟨by decide, run.reaches id, by decide, ?_⟩
  intro kept
  have tail := (pairwise_cons.mp (pairwise_cons.mp kept).2).2
  have early := (pairwise_cons.mp tail).1 _ mem_cons_self _ _ rfl rfl
  exact absurd early (by decide)

end BreakerRaceSample

end FusionRouter

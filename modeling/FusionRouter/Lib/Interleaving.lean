import Mathlib.Algebra.BigOperators.Group.List.Basic
import Mathlib.Algebra.Ring.Nat

/-!
# Interleavings

Threads that share a state and take atomic steps on it in any order.  What a
run keeps follows from what a single step does: a fact about each thread from
rely and guarantee conditions, a fact about all threads together from the
weight that a step moves.
-/

namespace Interleaving

open Relation List

variable {Shared Local : Type}

/-- What the threads share, and where each of them is. -/
structure System (Shared Local : Type) where
  shared : Shared
  threads : List Local
deriving Repr, DecidableEq

/-- One of the threads makes one of its atomic steps. -/
inductive Step (action : Shared → Local → Shared → Local → Prop) :
    System Shared Local → System Shared Local → Prop
  | turn {shared shared' : Shared} {here here' : Local}
      (front back : List Local) (moves : action shared here shared' here') :
      Step action ⟨shared, front ++ here :: back⟩ ⟨shared', front ++ here' :: back⟩

/-- The systems that the threads reach by some interleaving. -/
def Reaches (action : Shared → Local → Shared → Local → Prop) :
    System Shared Local → System Shared Local → Prop :=
  ReflTransGen (Step action)

variable {action : Shared → Local → Shared → Local → Prop}
variable {start final : System Shared Local}

section

variable (reaches : Reaches action start final)
include reaches

theorem Reaches.invariant (Holds : System Shared Local → Prop)
    (kept : ∀ {before after}, Step action before after → Holds before →
      Holds after) (initially : Holds start) : Holds final := by
  induction reaches with
  | refl => exact initially
  | tail _ step ih => exact kept step ih

/-- What no step of a thread changes of it stays the same in every thread. -/
theorem Reaches.map_eq {β : Type} (view : Local → β)
    (same : ∀ {shared here shared' here'}, action shared here shared' here' →
      view here' = view here) : final.threads.map view = start.threads.map view := by
  induction reaches with
  | refl => rfl
  | tail _ step ih =>
    obtain ⟨front, back, moves⟩ := step
    rw [← ih]
    simp [same moves]

theorem Reaches.shared (Holds : Shared → Prop)
    (kept : ∀ {shared here shared' here'}, action shared here shared' here' →
      Holds shared → Holds shared') (initially : Holds start.shared) : Holds final.shared := by
  refine reaches.invariant (fun system => Holds system.shared) ?_ initially
  intro before after step held
  obtain ⟨front, back, moves⟩ := step
  exact kept moves held

/-- A fact about each thread is kept when the steps of the thread itself keep
it and every step changes the shared state only in a way that it allows. -/
theorem Reaches.each (Rely : Shared → Shared → Prop) (Holds : Shared → Local → Prop)
    (guarantee : ∀ {shared here shared' here'},
      action shared here shared' here' → Rely shared shared')
    (stable : ∀ {shared shared' here}, Rely shared shared' → Holds shared here → Holds shared' here)
    (own : ∀ {shared here shared' here'}, action shared here shared' here' →
      Holds shared here → Holds shared' here')
    (initially : ∀ here ∈ start.threads, Holds start.shared here) :
    ∀ here ∈ final.threads, Holds final.shared here := by
  refine reaches.invariant (fun system => ∀ here ∈ system.threads, Holds system.shared here)
    ?_ initially
  intro before after step held thread member
  obtain ⟨front, back, moves⟩ := step
  rcases mem_append.mp member with inFront | inRest
  · exact stable (guarantee moves) (held thread (mem_append_left _ inFront))
  · rcases mem_cons.mp inRest with rfl | inBack
    · exact own moves (held _ (mem_append_right _ mem_cons_self))
    · exact stable (guarantee moves) (held thread (mem_append_right _ (mem_cons_of_mem _ inBack)))

end

/-- The weight of all threads together. -/
def total (weight : Local → Nat) (system : System Shared Local) : Nat :=
  (system.threads.map weight).sum

/-- A fact that ties the shared state to the weight of all threads is kept when
a step keeps it whatever the others weigh. -/
theorem Reaches.balance (reaches : Reaches action start final)
    (weight : Local → Nat) (Holds : Shared → Nat → Prop)
    (kept : ∀ {shared here shared' here'} (others : Nat),
      action shared here shared' here' → Holds shared (others + weight here) →
        Holds shared' (others + weight here'))
    (initially : Holds start.shared (total weight start)) :
    Holds final.shared (total weight final) := by
  refine reaches.invariant (fun system => Holds system.shared (total weight system)) ?_ initially
  intro before after step held
  obtain ⟨front, back, moves⟩ := step
  have split : ∀ here : Local, ((front ++ here :: back).map weight).sum =
      (front.map weight).sum + (back.map weight).sum + weight here := by
    intro here
    rw [map_append, map_cons, sum_append, sum_cons]
    omega
  unfold total at held ⊢
  rw [split] at held ⊢
  exact kept _ moves held

/-- A thread that runs while the others wait. -/
def Alone (action : Shared → Local → Shared → Local → Prop) :
    Shared × Local → Shared × Local → Prop :=
  ReflTransGen (fun before after => action before.1 before.2 after.1 after.2)

theorem Alone.reaches {before after : Shared × Local}
    (alone : Alone action before after) (front back : List Local) :
    Reaches action ⟨before.1, front ++ before.2 :: back⟩ ⟨after.1, front ++ after.2 :: back⟩ := by
  induction alone with
  | refl => exact .refl
  | tail _ moves ih => exact ih.tail (.turn front back moves)

/-- If a thread can finish alone from wherever it is, then the threads of every
system can all finish, one after the other. -/
theorem exists_finished {Finished : Local → Prop}
    (finishes : ∀ shared here, ∃ shared' here',
      Alone action (shared, here) (shared', here') ∧ Finished here')
    (system : System Shared Local) :
    ∃ final, Reaches action system final ∧ ∀ here ∈ final.threads, Finished here := by
  obtain ⟨shared, threads⟩ := system
  -- the threads in front have finished
  have rest : ∀ (back front : List Local) (shared : Shared), (∀ here ∈ front, Finished here) →
      ∃ final, Reaches action ⟨shared, front ++ back⟩ final ∧
        ∀ here ∈ final.threads, Finished here := by
    intro back
    induction back with
    | nil =>
      intro front shared finished
      refine ⟨_, .refl, ?_⟩
      simpa using finished
    | cons here back ih =>
      intro front shared finished
      obtain ⟨shared', here', alone, ended⟩ := finishes shared here
      obtain ⟨final, reaches, all⟩ := ih (front ++ [here']) shared' (by
        intro thread member
        rcases mem_append.mp member with inFront | last
        · exact finished thread inFront
        · rw [mem_singleton.mp last]
          exact ended)
      refine ⟨final, (alone.reaches front back).trans ?_, all⟩
      rw [append_assoc] at reaches
      exact reaches
  apply rest threads [] shared
  intro here member
  cases member

/-! ### Steps that look at the other threads -/

/-- One of the threads makes a step that may depend on where the others are. -/
inductive WatchedStep (action : List Local → Shared → Local → Shared → Local → Prop) :
    System Shared Local → System Shared Local → Prop
  | turn {shared shared' : Shared} {here here' : Local} (front back : List Local)
      (moves : action (front ++ back) shared here shared' here') :
      WatchedStep action ⟨shared, front ++ here :: back⟩ ⟨shared', front ++ here' :: back⟩

def Watched (action : List Local → Shared → Local → Shared → Local → Prop) :
    System Shared Local → System Shared Local → Prop :=
  ReflTransGen (WatchedStep action)

section Watched

variable {watched : List Local → Shared → Local → Shared → Local → Prop}

/-- Without the condition on the others, a run is one of all interleavings. -/
theorem Watched.reaches (run : Watched watched start final)
    (forget : ∀ {others shared here shared' here'}, watched others shared here shared' here' →
        action shared here shared' here') : Reaches action start final := by
  induction run with
  | refl => exact .refl
  | tail _ step ih =>
    obtain ⟨front, back, moves⟩ := step
    exact ih.tail (.turn front back (forget moves))

/-- A fact for which the order of the threads does not matter is kept when each
step of the first thread keeps it. -/
theorem Watched.symmetric (run : Watched watched start final) (Holds : Shared → List Local → Prop)
    (perm : ∀ {shared threads threads'}, threads.Perm threads' →
      Holds shared threads → Holds shared threads') (kept : ∀ {others shared here shared' here'},
      watched others shared here shared' here' →
        Holds shared (here :: others) → Holds shared' (here' :: others))
    (initially : Holds start.shared start.threads) : Holds final.shared final.threads := by
  induction run with
  | refl => exact initially
  | tail _ step ih =>
    obtain ⟨front, back, moves⟩ := step
    apply perm perm_middle.symm
    apply kept moves
    exact perm perm_middle ih

end Watched

section Play

variable {Choice : Type}

/-- The thread at an index makes the step that the choice selects. -/
def System.move (advance : Choice → List Local → Shared → Local → Option (Shared × Local))
    (system : System Shared Local) (index : Nat) (choice : Choice) : Option (System Shared Local) :=
  match system.threads.drop index with
  | [] => none
  | here :: back =>
    (advance choice (system.threads.take index ++ back) system.shared here).map fun next =>
        ⟨next.1, system.threads.take index ++ next.2 :: back⟩

/-- The run of a schedule, if each of its steps can be made. -/
def System.play (advance : Choice → List Local → Shared → Local → Option (Shared × Local)) :
    List (Nat × Choice) → System Shared Local → Option (System Shared Local)
  | [], system => some system
  | (index, choice) :: schedule, system =>
    (system.move advance index choice).bind (System.play advance schedule)

variable {watched : List Local → Shared → Local → Shared → Local → Prop}
variable {advance : Choice → List Local → Shared → Local →
  Option (Shared × Local)}

section

variable (sound : ∀ choice others shared here next, advance choice others
  shared here = some next → watched others shared here next.1 next.2)
include sound

theorem WatchedStep.of_move {before after : System Shared Local} {index : Nat} {choice : Choice}
    (moved : before.move advance index choice = some after) : WatchedStep watched before after := by
  obtain ⟨shared, threads⟩ := before
  unfold System.move at moved
  split at moved
  · cases moved
  next here back rest =>
    obtain ⟨next, advanced, rfl⟩ := Option.map_eq_some_iff.mp moved
    have whole : threads = threads.take index ++ here :: back := by
      rw [← show threads.drop index = here :: back from rest, take_append_drop]
    have step := WatchedStep.turn (threads.take index) back (sound _ _ _ _ _ advanced)
    rw [← whole] at step
    exact step

theorem Watched.of_play {schedule : List (Nat × Choice)}
    (played : System.play advance schedule start = some final) : Watched watched start final := by
  induction schedule generalizing start with
  | nil =>
    cases played
    exact .refl
  | cons turn schedule ih =>
    obtain ⟨between, moved, rest⟩ := Option.bind_eq_some_iff.mp played
    exact .head (WatchedStep.of_move sound moved) (ih rest)

end

end Play

end Interleaving

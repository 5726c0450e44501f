import Mathlib.Algebra.Ring.Nat

/-!
# Reading items off a growing buffer

A framer recognises the item at the front of a buffer once the buffer holds
enough, whatever arrives later.  Taking items off the front is then independent
of how the input arrives: what has been taken stays taken when more arrives,
and the rest is read together with it.
-/

namespace Framing

open List

/-- The front item and how much of the buffer it is.  What arrives later does
not matter. -/
structure Framer (β γ : Type) where
  front : List β → Option (γ × Nat)
  bounds : ∀ {buffer item size}, front buffer = some (item, size) → 0 < size ∧ size ≤ buffer.length
  stable : ∀ {buffer item size}, front buffer = some (item, size) →
    ∀ more, front (buffer ++ more) = some (item, size)

namespace Framer

variable {β γ : Type} (framer : Framer β γ)

/-- The item is recognised by its own part of the buffer. -/
def Exact (item : γ) : Prop :=
  ∀ {buffer size}, framer.front buffer = some (item, size) →
    ∀ more, framer.front (buffer.take size ++ more) = some (item, size)

/-- Items that are taken off the front, one after another. -/
inductive Takes : List β → List γ → List β → Prop where
  | done (buffer : List β) : Takes buffer [] buffer
  | more {buffer : List β} {item : γ} {size : Nat} {items : List γ}
      {rest : List β} (front : framer.front buffer = some (item, size))
      (takes : Takes (buffer.drop size) items rest) :
      Takes buffer (item :: items) rest

def drainFrom : Nat → List β → List γ × List β
  | 0, buffer => ([], buffer)
  | fuel + 1, buffer =>
    match framer.front buffer with
    | none => ([], buffer)
    | some (item, size) =>
      (item :: (drainFrom fuel (buffer.drop size)).1, (drainFrom fuel (buffer.drop size)).2)

/-- All items at the front, and what is left. -/
def drain (buffer : List β) : List γ × List β :=
  framer.drainFrom buffer.length buffer

variable {framer}

variable {buffer rest : List β} {item : γ} {size : Nat}

theorem length_drop_lt (front : framer.front buffer = some (item, size)) :
    (buffer.drop size).length < buffer.length := by
  obtain ⟨positive, within⟩ := framer.bounds front
  rw [length_drop]
  omega

theorem front_nil : framer.front [] = none := by
  cases front : framer.front [] with
  | none => rfl
  | some found =>
    obtain ⟨positive, within⟩ := framer.bounds front
    exact absurd (Nat.lt_of_lt_of_le positive within) (Nat.not_lt_zero _)

namespace Takes

variable {buffer rest : List β} {items : List γ}

theorem append (takes : framer.Takes buffer items rest) (more : List β) :
    framer.Takes (buffer ++ more) items (rest ++ more) := by
  induction takes with
  | done buffer => exact .done _
  | @more buffer item size items rest front _ induction =>
    refine .more (framer.stable front more) ?_
    rwa [drop_append_of_le_length (framer.bounds front).2]

theorem trans {middle : List β} {first second : List γ} (takes : framer.Takes buffer first middle)
    (further : framer.Takes middle second rest) : framer.Takes buffer (first ++ second) rest := by
  induction takes with
  | done buffer => exact further
  | more front _ induction => exact .more front (induction further)

/-- Items that are recognised by themselves can be cut off. -/
theorem cut (takes : framer.Takes buffer items rest) (exact : ∀ item ∈ items, framer.Exact item) :
    ∃ used, buffer = used ++ rest ∧ framer.Takes used items [] := by
  induction takes with
  | done buffer => exact ⟨[], rfl, .done []⟩
  | @more buffer item size items rest front _ induction =>
    obtain ⟨now, later⟩ := forall_mem_cons.mp exact
    obtain ⟨used, same, takes⟩ := induction later
    refine ⟨buffer.take size ++ used, ?_, .more (now front used) ?_⟩
    · rw [append_assoc, ← same, take_append_drop]
    · rwa [drop_left' (length_take_of_le (framer.bounds front).2)]

theorem unique {other : List β} {others : List γ}
    (takes : framer.Takes buffer items rest) (stuck : framer.front rest = none)
    (takesOther : framer.Takes buffer others other) (stuckOther : framer.front other = none) :
    items = others ∧ rest = other := by
  induction takes generalizing others with
  | done buffer =>
    cases takesOther with
    | done => exact ⟨rfl, rfl⟩
    | more front => cases stuck.symm.trans front
  | more front _ induction =>
    cases takesOther with
    | done => cases stuckOther.symm.trans front
    | more frontOther takes =>
      cases front.symm.trans frontOther
      obtain ⟨rfl, rfl⟩ := induction stuck takes
      exact ⟨rfl, rfl⟩

end Takes

theorem drainFrom_spec (fuel : Nat) (buffer : List β) (enough : buffer.length ≤ fuel) :
    framer.Takes buffer (framer.drainFrom fuel buffer).1 (framer.drainFrom fuel buffer).2 ∧
      framer.front (framer.drainFrom fuel buffer).2 = none := by
  induction fuel generalizing buffer with
  | zero =>
    cases length_eq_zero_iff.mp (Nat.le_zero.mp enough)
    exact ⟨.done [], front_nil⟩
  | succ fuel induction =>
    unfold drainFrom
    split
    next stuck => exact ⟨.done buffer, stuck⟩
    next item size front =>
      have shorter := length_drop_lt front
      obtain ⟨takes, stuck⟩ := induction (buffer.drop size) (by omega)
      exact ⟨.more front takes, stuck⟩

theorem drain_takes (buffer : List β) :
    framer.Takes buffer (framer.drain buffer).1 (framer.drain buffer).2 :=
  (drainFrom_spec buffer.length buffer (Nat.le_refl _)).1

theorem drain_stuck (buffer : List β) : framer.front (framer.drain buffer).2 = none :=
  (drainFrom_spec buffer.length buffer (Nat.le_refl _)).2

theorem Takes.drain_of_stuck {items : List γ} (takes : framer.Takes buffer items rest)
    (stuck : framer.front rest = none) : framer.drain buffer = (items, rest) := by
  obtain ⟨sameItems, sameRest⟩ := takes.unique stuck (drain_takes buffer) (drain_stuck buffer)
  rw [sameItems, sameRest]

/-- Draining goes on from what has been taken. -/
theorem Takes.drain_eq {items : List γ} (takes : framer.Takes buffer items rest) :
    framer.drain buffer = (items ++ (framer.drain rest).1, (framer.drain rest).2) :=
  (takes.trans (drain_takes rest)).drain_of_stuck (drain_stuck rest)

theorem drain_of_front (front : framer.front buffer = some (item, size)) :
    framer.drain buffer = (item :: (framer.drain (buffer.drop size)).1,
        (framer.drain (buffer.drop size)).2) :=
  (Takes.more front (.done _)).drain_eq

theorem drain_of_stuck (stuck : framer.front buffer = none) : framer.drain buffer = ([], buffer) :=
  (Takes.done buffer).drain_of_stuck stuck

/-- What is left is a part of the item that is completed next. -/
theorem prefix_of_stuck {more : List β} (exact : framer.Exact item)
    (stuck : framer.front rest = none) (front : framer.front (rest ++ more) = some (item, size)) :
    rest <+: (rest ++ more).take size := by
  rcases Nat.le_total size rest.length with short | long
  · have complete := exact front (rest.drop size)
    rw [take_append_of_le_length short, take_append_drop] at complete
    cases stuck.symm.trans complete
  · rw [take_append, take_of_length_le long]
    exact prefix_append _ _

theorem drain_append (buffer more : List β) :
    framer.drain (buffer ++ more) = ((framer.drain buffer).1 ++
          (framer.drain ((framer.drain buffer).2 ++ more)).1,
        (framer.drain ((framer.drain buffer).2 ++ more)).2) :=
  ((drain_takes buffer).append more).drain_eq

end Framer

end Framing

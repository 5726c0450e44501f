import FusionRouter.Lib.Framing
import FusionRouter.Providers.Sse

/-!
# Events do not depend on how their text arrives

The earliest delimiter of a buffer stays the earliest whatever arrives later:
where an empty line has been seen, no longer delimiter can begin before it and
end behind it.  So the events are frames, and draining piece by piece drains
the same ones, unless the cap is exceeded.
-/

namespace FusionRouter

namespace Sse

open Framing List

/-! ## The boundary -/

theorem findSseBoundary_cons (letter : Char) (letters : List Char) :
    findSseBoundary (letter :: letters) = if lf.isPrefixOf (letter :: letters) then some (0, 2)
      else if crlf.isPrefixOf (letter :: letters) then some (0, 4)
      else (findSseBoundary letters).map (fun found => (found.1 + 1, found.2)) := by
  unfold findSseBoundary
  rw [find, find]
  cases lf.isPrefixOf (letter :: letters) <;> cases crlf.isPrefixOf (letter :: letters) <;>
    cases find lf letters <;> cases find crlf letters <;> simp
  split <;> simp

/-- The earliest delimiter of a buffer. -/
inductive Boundary : List Char → Nat → Nat → Prop where
  | lf {buf : List Char} (here : lf <+: buf) : Boundary buf 0 2
  | crlf {buf : List Char} (here : crlf <+: buf) : Boundary buf 0 4
  | later {letter : Char} {letters : List Char} {pos delimLen : Nat}
      (notLf : ¬ Sse.lf <+: letter :: letters) (notCrlf : ¬ Sse.crlf <+: letter :: letters)
      (found : Boundary letters pos delimLen) :
      Boundary (letter :: letters) (pos + 1) delimLen

theorem findSseBoundary_eq_some_iff :
    findSseBoundary buf = some (pos, delimLen) ↔ Boundary buf pos delimLen := by
  constructor
  · intro found
    induction buf generalizing pos with
    | nil => cases found
    | cons letter letters induction =>
      rw [findSseBoundary_cons] at found
      split at found
      next here =>
        cases found
        exact .lf ( isPrefixOf_iff_prefix.mp here)
      next notLf =>
        split at found
        next here =>
          cases found
          exact .crlf ( isPrefixOf_iff_prefix.mp here)
        next notCrlf =>
          obtain ⟨⟨start, length⟩, earlier, same⟩ := Option.map_eq_some_iff.mp found
          cases same
          rw [ isPrefixOf_iff_prefix] at notLf notCrlf
          exact .later notLf notCrlf (induction earlier)
  · intro boundary
    induction boundary with
    | lf here =>
      obtain ⟨rest, rfl⟩ := here
      exact (findSseBoundary_cons _ _).trans (if_pos rfl)
    | crlf here =>
      obtain ⟨rest, rfl⟩ := here
      exact (findSseBoundary_cons _ _).trans ((if_neg Bool.false_ne_true).trans (if_pos rfl))
    | later notLf notCrlf _ induction =>
      rw [← isPrefixOf_iff_prefix] at notLf notCrlf
      rw [findSseBoundary_cons, if_neg notLf, if_neg notCrlf, induction]
      rfl

namespace Boundary

theorem bounds (boundary : Boundary buf pos delimLen) :
    2 ≤ delimLen ∧ pos + delimLen ≤ buf.length := by
  induction boundary with
  | lf here => exact ⟨Nat.le_refl 2, here.length_le⟩
  | crlf here => exact ⟨by decide, here.length_le⟩
  | later _ _ _ induction =>
    rw [length_cons]
    omega

theorem prefix_of_take {start letters more : List Char}
    (here : start <+: letters.take size ++ more) (short : start.length ≤ size)
    (within : size ≤ letters.length) : start <+: letters := by
  have taken : start <+: letters.take size := by
    refine prefix_of_prefix_length_le here (prefix_append _ _) ?_
    rw [length_take]
    omega
  exact taken.trans ( take_prefix size letters)

/-- What arrives behind the delimiter does not matter. -/
theorem exact (boundary : Boundary buf pos delimLen) (more : List Char) :
    Boundary (buf.take (pos + delimLen) ++ more) pos delimLen := by
  induction boundary with
  | lf here =>
    obtain ⟨rest, rfl⟩ := here
    exact .lf (prefix_append _ _)
  | crlf here =>
    obtain ⟨rest, rfl⟩ := here
    exact .crlf (prefix_append _ _)
  | @later letter letters pos delimLen notLf notCrlf found induction =>
    obtain ⟨two, within⟩ := found.bounds
    have step : pos + 1 + delimLen = (pos + delimLen) + 1 := by omega
    rw [step, take_succ_cons, cons_append]
    refine .later ?_ ?_ induction
    · intro here
      obtain ⟨same, rest⟩ := cons_prefix_cons.mp here
      refine notLf (cons_prefix_cons.mpr ⟨same, ?_⟩)
      refine prefix_of_take rest ?_ within
      change 1 ≤ _
      omega
    · intro here
      obtain ⟨same, rest⟩ := cons_prefix_cons.mp here
      refine notCrlf (cons_prefix_cons.mpr ⟨same, ?_⟩)
      -- the delimiter behind is either long enough or an empty line at once
      rcases Nat.lt_or_ge (pos + delimLen) 3 with short | long
      · obtain ⟨rfl, rfl⟩ : pos = 0 ∧ delimLen = 2 := by omega
        cases found with
        | lf next =>
          obtain ⟨behind, rfl⟩ := next
          obtain ⟨other, equal⟩ := rest
          cases equal
      · exact prefix_of_take rest long within

end Boundary

/-! ## Events as frames -/

/-- An event with its delimiter. -/
structure SseFrame where
  event : List Char
  delimiter : List Char

namespace SseFrame

def text (frame : SseFrame) : List Char :=
  frame.event ++ frame.delimiter

def chunks (frame : SseFrame) : List SseItem :=
  eventChunks frame.event

def ofBuffer (buf : List Char) (pos delimLen : Nat) : SseFrame :=
  { event := buf.take pos
    delimiter := (buf.take (pos + delimLen)).drop pos }

theorem take_take_add (buf : List Char) (pos delimLen : Nat) :
    (buf.take (pos + delimLen)).take pos = buf.take pos := by
  rw [take_take, Nat.min_eq_left (Nat.le_add_right _ _)]

/-- The frame only depends on its own part of the buffer. -/
theorem ofBuffer_congr (same : buf.take (pos + delimLen) = other.take (pos + delimLen)) :
    ofBuffer buf pos delimLen = ofBuffer other pos delimLen := by
  unfold ofBuffer
  rw [← take_take_add buf pos delimLen, same, take_take_add]

end SseFrame

def front (buf : List Char) : Option (SseFrame × Nat) :=
  (findSseBoundary buf).map (fun found => (.ofBuffer buf found.1 found.2, found.1 + found.2))

theorem front_eq_some_iff :
    front buf = some (frame, size) ↔ ∃ pos delimLen, Boundary buf pos delimLen ∧
        frame = .ofBuffer buf pos delimLen ∧ size = pos + delimLen := by
  unfold front
  rw [Option.map_eq_some_iff]
  constructor
  · rintro ⟨⟨pos, delimLen⟩, found, same⟩
    cases same
    exact ⟨pos, delimLen, findSseBoundary_eq_some_iff.mp found, rfl, rfl⟩
  · rintro ⟨pos, delimLen, boundary, rfl, rfl⟩
    exact ⟨(pos, delimLen), findSseBoundary_eq_some_iff.mpr boundary, rfl⟩

theorem front_exact (here : front buf = some (frame, size)) (more : List Char) :
    front (buf.take size ++ more) = some (frame, size) := by
  obtain ⟨pos, delimLen, boundary, rfl, rfl⟩ := front_eq_some_iff.mp here
  refine front_eq_some_iff.mpr ⟨pos, delimLen, boundary.exact more, SseFrame.ofBuffer_congr ?_, rfl⟩
  exact (take_left' (length_take_of_le boundary.bounds.2)).symm

def framer : Framer Char SseFrame where
  front := front
  bounds here := by
    obtain ⟨pos, delimLen, boundary, rfl, rfl⟩ := front_eq_some_iff.mp here
    have bounds := boundary.bounds
    omega
  stable {buf frame size} here more := by
    have exact := front_exact here (buf.drop size ++ more)
    rwa [← List.append_assoc, List.take_append_drop] at exact

theorem text_of_front (here : front buf = some (frame, size)) : frame.text = buf.take size := by
  obtain ⟨pos, delimLen, -, rfl, rfl⟩ := front_eq_some_iff.mp here
  simp only [SseFrame.ofBuffer, SseFrame.text]
  rw [← SseFrame.take_take_add buf pos delimLen]
  exact take_append_drop _ _

/-! ## Draining -/

def chunksOf (text : List Char) : List SseItem :=
  (framer.drain text).1.flatMap SseFrame.chunks

/-- What is left behind the last event. -/
def leftover (text : List Char) : List Char :=
  (framer.drain text).2

theorem drainLoop_eq (fuel : Nat) (buf : List Char) (enough : buf.length < fuel)
    (fits : byteSize (leftover buf) ≤ maxSseScanBufferBytes) :
    drainLoop fuel buf = (chunksOf buf, leftover buf) := by
  induction fuel generalizing buf with
  | zero => exact absurd enough (Nat.not_lt_zero _)
  | succ fuel induction =>
    rw [drainLoop]
    split
    next pos delimLen found =>
      have here : framer.front buf = some (.ofBuffer buf pos delimLen, pos + delimLen) := by
        change front buf = _
        unfold front
        rw [found]
        rfl
      have shorter := Framer.length_drop_lt here
      have drained := Framer.drain_of_front here
      have rest : leftover buf = leftover (buf.drop (pos + delimLen)) := by
        unfold leftover
        rw [drained]
      rw [rest] at fits
      rw [induction _ (by omega) fits, rest]
      have chunks : chunksOf buf = eventChunks (buf.take pos) ++
          chunksOf (buf.drop (pos + delimLen)) := by
        unfold chunksOf
        rw [drained]
        rfl
      rw [chunks]
    next found =>
      have stuck : framer.front buf = none := by
        change front buf = none
        unfold front
        rw [found]
        rfl
      have drained := Framer.drain_of_stuck stuck
      have rest : leftover buf = buf := congrArg Prod.snd drained
      have chunks : chunksOf buf = [] := by
        unfold chunksOf
        rw [drained]
        rfl
      rw [rest] at fits
      rw [if_neg (Nat.not_lt.mpr fits), chunks, rest]

theorem drainSseEvents_eq (buf : List Char)
    (fits : byteSize (leftover buf) ≤ maxSseScanBufferBytes) :
    drainSseEvents buf = (chunksOf buf, leftover buf) :=
  drainLoop_eq (buf.length + 1) buf (Nat.lt_succ_self _) fits

/-- No event with its delimiter and no unfinished rest exceeds the cap. -/
structure Bounded (text : List Char) : Prop where
  events : ∀ frame, frame ∈ (framer.drain text).1 → byteSize frame.text ≤ maxSseScanBufferBytes
  rest : byteSize (leftover text) ≤ maxSseScanBufferBytes

theorem byteSize_mono (here : start <+: text) : byteSize start ≤ byteSize text := by
  obtain ⟨rest, rfl⟩ := here
  unfold byteSize
  rw [map_append, sum_append]
  exact Nat.le_add_right _ _

theorem leftover_append (text more : List Char) :
    leftover (text ++ more) = leftover (leftover text ++ more) := by
  unfold leftover
  rw [Framer.drain_append]

theorem chunksOf_append (text more : List Char) :
    chunksOf (text ++ more) = chunksOf text ++ chunksOf (leftover text ++ more) := by
  unfold chunksOf
  rw [Framer.drain_append, flatMap_append]
  rfl

theorem Bounded.cut (bounded : Bounded (text ++ more)) :
    byteSize (leftover text) ≤ maxSseScanBufferBytes ∧ Bounded (leftover text ++ more) := by
  have later : Bounded (leftover text ++ more) := by
    refine ⟨?_, ?_⟩
    · intro frame member
      refine bounded.events frame ?_
      rw [Framer.drain_append]
      exact mem_append_right _ member
    · rw [← leftover_append]
      exact bounded.rest
  refine ⟨?_, later⟩
  have stuck : framer.front (leftover text) = none := Framer.drain_stuck text
  cases here : framer.front (leftover text ++ more) with
  | none =>
    have rest : leftover (leftover text ++ more) = leftover text ++ more :=
      congrArg Prod.snd (Framer.drain_of_stuck here)
    have size := later.rest
    rw [rest] at size
    exact (byteSize_mono (prefix_append _ _)).trans size
  | some found =>
    obtain ⟨frame, size⟩ := found
    have inside := Framer.prefix_of_stuck (fun here => front_exact here) stuck here
    have member : frame ∈ (framer.drain (leftover text ++ more)).1 := by
      rw [Framer.drain_of_front here]
      exact mem_cons_self
    have small := later.events frame member
    rw [text_of_front here] at small
    exact (byteSize_mono inside).trans small

theorem drainPieces_eq (buf : List Char) (stuck : framer.front buf = none)
    (pieces : List (List Char)) (bounded : Bounded (buf ++ pieces.flatten)) :
    drainPieces buf pieces =
      (chunksOf (buf ++ pieces.flatten), leftover (buf ++ pieces.flatten)) := by
  induction pieces generalizing buf with
  | nil =>
    rw [flatten_nil, append_nil, chunksOf, leftover, Framer.drain_of_stuck stuck]
    rfl
  | cons piece pieces induction =>
    rw [flatten_cons, ← append_assoc] at bounded ⊢
    obtain ⟨fits, later⟩ := bounded.cut
    rw [drainPieces, drainSseEvents_eq _ fits]
    dsimp only
    have rest : framer.front (leftover (buf ++ piece)) = none := Framer.drain_stuck (buf ++ piece)
    rw [induction _ rest later, chunksOf_append (buf ++ piece), leftover_append (buf ++ piece)]

/-- Draining piece by piece gives what draining all at once gives. -/
theorem drain_independent (pieces : List (List Char)) (bounded : Bounded pieces.flatten) :
    drainPieces [] pieces = drainSseEvents pieces.flatten := by
  rw [drainPieces_eq [] Framer.front_nil pieces bounded, drainSseEvents_eq _ bounded.rest]
  rfl

/-- An empty line that is cut in two. -/
def cutPieces : List (List Char) :=
  [['a', '\n'], ['\n', 'b']]

theorem cutPieces_bounded : Bounded cutPieces.flatten where
  events := by decide
  rest := by decide

theorem cutPieces_drain :
    Bounded cutPieces.flatten ∧ drainPieces [] cutPieces = drainSseEvents cutPieces.flatten :=
  ⟨cutPieces_bounded, drain_independent cutPieces cutPieces_bounded⟩

end Sse

end FusionRouter

import Mathlib.Init

/-!
# Programs that record events

A state monad whose programs record events, and a logic for them.  `Ensures`
relates the result of a program to the events it adds, whatever the state it
starts in; `Emits` is the special case that every added event is allowed and
`Returns` the one that leaves the events open.  A program whose state is a
counter can number its events, and `Numbered` says that it leaves no gap.  A
program that counts the questions among its events hears an answer to each of
them, and `Hears` relates its result to what it has heard.
-/

namespace Trace

open List

/-- A state with the events recorded so far. -/
structure Traced (σ ε : Type) where
  state : σ
  events : List ε

abbrev Program (σ ε α : Type) := StateM (Traced σ ε) α

variable {σ ε α β : Type}

def emit (event : ε) : Program σ ε Unit := fun traced =>
  ((), { traced with events := traced.events ++ [event] })

def update (change : σ → α × σ) : Program σ ε α := fun traced =>
  ((change traced.state).1, { traced with state := (change traced.state).2 })

def read : Program σ ε σ :=
  update (fun state => (state, state))

/-- Count an event and record it under its number. -/
def emitNumbered (event : Nat → ε) : Program Nat ε Unit := do
  let number ← update (fun count => (count + 1, count + 1))
  emit (event number)

/-- The result of a program and the events it records. -/
def run (program : Program σ ε α) (start : σ) : α × List ε :=
  let final := program { state := start, events := [] }
  (final.1, final.2.events)

def Ensures (program : Program σ ε α) (post : α → List ε → Prop) : Prop :=
  ∀ start, ∃ added, (program start).2.events = start.events ++ added ∧ post (program start).1 added

namespace Ensures

variable {post first : α → List ε → Prop} {program : Program σ ε α}

theorem pure {value : α} (holds : post value []) : Ensures (Pure.pure value : Program σ ε α) post :=
  fun start => ⟨[], (append_nil start.events).symm, holds⟩

theorem emit {event : ε} {post : Unit → List ε → Prop}
    (holds : post () [event]) : Ensures (Trace.emit event : Program σ ε Unit) post :=
  fun _ => ⟨[event], rfl, holds⟩

theorem update {change : σ → α × σ} (holds : ∀ state, post (change state).1 []) :
    Ensures (Trace.update change) post :=
  fun start => ⟨[], (append_nil start.events).symm, holds start.state⟩

theorem read : Ensures (Trace.read : Program σ ε σ) (fun _ added => added = []) :=
  Ensures.update (fun _ => rfl)

theorem emitNumbered {event : Nat → ε} {post : Unit → List ε → Prop}
    (holds : ∀ number, post () [event number]) : Ensures (Trace.emitNumbered event) post :=
  fun start => ⟨[event (start.state + 1)], rfl, holds _⟩

theorem bind {next : α → Program σ ε β} {post : β → List ε → Prop} (holds : Ensures program first)
    (rest : ∀ value before, first value before → Ensures (next value) (fun
      result after => post result (before ++ after))) : Ensures (program >>= next) post := by
  intro start
  obtain ⟨before, grown, met⟩ := holds start
  obtain ⟨after, further, done⟩ := rest _ _ met (program start).2
  refine ⟨before ++ after, ?_, done⟩
  rw [← append_assoc, ← grown]
  exact further

theorem mono (holds : Ensures program first)
    (weaker : ∀ value added, first value added → post value added) : Ensures program post := by
  intro start
  obtain ⟨added, grown, met⟩ := holds start
  exact ⟨added, grown, weaker _ _ met⟩

theorem run (holds : Ensures program post) (start : σ) :
    post (Trace.run program start).1 (Trace.run program start).2 := by
  obtain ⟨added, grown, met⟩ := holds { state := start, events := [] }
  have same : (Trace.run program start).2 = added := grown
  rw [same]
  exact met

end Ensures

/-- Every event the program records is allowed. -/
def Emits (allowed : ε → Prop) (program : Program σ ε α) : Prop :=
  Ensures program (fun _ added => ∀ event, event ∈ added → allowed event)

namespace Emits

variable {allowed : ε → Prop}

theorem pure (value : α) : Emits allowed (Pure.pure value : Program σ ε α) :=
  Ensures.pure (by simp)

theorem emit {event : ε} (holds : allowed event) :
    Emits allowed (Trace.emit event : Program σ ε Unit) :=
  Ensures.emit (by simpa using holds)

theorem update (change : σ → α × σ) : Emits allowed (Trace.update change) :=
  Ensures.update (by simp)

variable {program : Program σ ε α}

theorem bind {next : α → Program σ ε β} (first : Emits allowed program)
    (rest : ∀ value, Emits allowed (next value)) : Emits allowed (program >>= next) := by
  refine Ensures.bind first ?_
  intro value before fine
  refine (rest value).mono ?_
  intro result after fineAfter event member
  rcases mem_append.mp member with old | new
  · exact fine event old
  · exact fineAfter event new

theorem mono {wider : ε → Prop} (emits : Emits allowed program)
    (weaker : ∀ event, allowed event → wider event) : Emits wider program :=
  Ensures.mono emits (fun _ _ fine event member => weaker event (fine event member))

end Emits

/-- Whatever the program returns meets the condition. -/
def Returns (post : α → Prop) (program : Program σ ε α) : Prop :=
  ∀ start, post (program start).1

namespace Returns

theorem pure {value : α} {post : α → Prop} (holds : post value) :
    Returns post (Pure.pure value : Program σ ε α) := fun _ => holds

theorem any (program : Program σ ε α) : Returns (fun _ => True) program :=
  fun _ => trivial

variable {program : Program σ ε α}

theorem bind {next : α → Program σ ε β} {first : α → Prop} {post : β → Prop}
    (holds : Returns first program) (rest : ∀ value, first value → Returns post (next value)) :
    Returns post (program >>= next) :=
  fun start => rest _ (holds start) (program start).2

theorem run {post : α → Prop} (holds : Returns post program) (start : σ) :
    post (Trace.run program start).1 := holds _

end Returns

/-- The added events carry the numbers that follow the counter, in order. -/
def Numbered (number : ε → Nat) (program : Program Nat ε α) : Prop :=
  ∀ start, ∃ added, (program start).2.events = start.events ++ added ∧
    added.map number = List.range' (start.state + 1) added.length ∧
    (program start).2.state = start.state + added.length

namespace Numbered

variable {number : ε → Nat}

theorem pure (value : α) : Numbered number (Pure.pure value : Program Nat ε α) :=
  fun start => ⟨[], (append_nil start.events).symm, rfl, rfl⟩

theorem read : Numbered number (Trace.read : Program Nat ε Nat) :=
  fun start => ⟨[], (append_nil start.events).symm, rfl, rfl⟩

theorem emitNumbered {event : Nat → ε} (labelled : ∀ count, number (event count) = count) :
    Numbered number (Trace.emitNumbered event) := by
  intro start
  refine ⟨[event (start.state + 1)], rfl, ?_, rfl⟩
  simp [labelled]

variable {program : Program Nat ε α}

theorem bind {next : α → Program Nat ε β} (first : Numbered number program)
    (rest : ∀ value, Numbered number (next value)) : Numbered number (program >>= next) := by
  intro start
  obtain ⟨before, grown, numbers, count⟩ := first start
  obtain ⟨after, further, following, total⟩ := rest (program start).1 (program start).2
  refine ⟨before ++ after, ?_, ?_, ?_⟩
  · rw [← append_assoc, ← grown]
    exact further
  · rw [map_append, numbers, following, count, length_append, Nat.add_right_comm]
    exact range'_append_1
  · rw [length_append, ← Nat.add_assoc, ← count]
    exact total

theorem run (numbered : Numbered number program) :
    (Trace.run program 0).2.map number = List.range' 1 (Trace.run program 0).2.length := by
  obtain ⟨added, grown, numbers, -⟩ := numbered { state := 0, events := [] }
  have same : (Trace.run program 0).2 = added := grown
  rw [same]
  exact numbers

end Numbered

section Hearing

variable {τ : Type} (asks : ε → Bool) (answer : Nat → ε → τ)

/-- The answers to the questions among the events, the first of which has this
number. -/
def transcript : Nat → List ε → List τ
  | _, [] => []
  | number, event :: events =>
    if asks event then answer number event :: transcript (number + 1) events
    else transcript number events

theorem transcript_append (number : Nat) (left right : List ε) :
    transcript asks answer number (left ++ right) = transcript asks answer number left ++
        transcript asks answer (number + left.countP asks) right := by
  induction left generalizing number with
  | nil => rfl
  | cons event left ih =>
    rw [cons_append, transcript, transcript, countP_cons]
    cases asks event with
    | false => exact ih number
    | true =>
      rw [if_pos rfl, if_pos rfl, if_pos rfl, ih, cons_append,
        Nat.add_comm (left.countP asks), Nat.add_assoc]

theorem length_transcript (number : Nat) (events : List ε) :
    (transcript asks answer number events).length = events.countP asks := by
  induction events generalizing number with
  | nil => rfl
  | cons event events ih =>
    rw [transcript, countP_cons]
    split <;> simp [ih]

variable (count : σ → Nat)

/-- The program counts its questions, and what it returns fits the answers to
them and its events. -/
def Hears (program : Program σ ε α) (post : α → List τ → List ε → Prop) :
    Prop :=
  ∀ start, ∃ added, (program start).2.events = start.events ++ added ∧
    count (program start).2.state = count start.state + added.countP asks ∧ post (program start).1
      (transcript asks answer (count start.state) added) added

namespace Hears

variable {asks answer count}

variable {post first : α → List τ → List ε → Prop} {program : Program σ ε α}

theorem pure {value : α} (holds : post value [] []) :
    Hears asks answer count (Pure.pure value : Program σ ε α) post :=
  fun start => ⟨[], (append_nil start.events).symm, rfl, holds⟩

theorem pure_after {value : α} {heard : List τ} {before : List ε}
    (holds : post value heard before) :
    Hears asks answer count (Pure.pure value : Program σ ε α)
      (fun result later after => post result (heard ++ later) (before ++ after)) := by
  refine pure ?_
  rw [append_nil, append_nil]
  exact holds

theorem emit {event : ε} {post : Unit → List τ → List ε → Prop}
    (silent : asks event = false) (holds : post () [] [event]) :
    Hears asks answer count (Trace.emit event : Program σ ε Unit) post := by
  intro start
  refine ⟨[event], rfl, ?_, ?_⟩
  · simp [Trace.emit, silent]
  · simpa [transcript, silent] using holds

theorem update {change : σ → α × σ} (counted : ∀ state, count (change state).2 = count state)
    (holds : ∀ state, post (change state).1 [] []) :
    Hears asks answer count (Trace.update change) post :=
  fun start => ⟨[], (append_nil start.events).symm, counted start.state, holds start.state⟩

theorem ask {event : ε} {change : σ → α × σ} (question : asks event = true)
    (counted : ∀ state, count (change state).2 = count state + 1)
    (holds : ∀ state, post (change state).1 [answer (count state) event] [event]) :
    Hears asks answer count (do
      Trace.emit event
      Trace.update change) post := by
  intro start
  refine ⟨[event], rfl, ?_, ?_⟩
  · have one : [event].countP asks = 1 := by simp [question]
    rw [one]
    exact counted start.state
  · have only : transcript asks answer (count start.state) [event] =
        [answer (count start.state) event] := by
      simp [transcript, question]
    rw [only]
    exact holds start.state

theorem bind {next : α → Program σ ε β} {post : β → List τ → List ε → Prop}
    (holds : Hears asks answer count program first)
    (rest : ∀ value heard before, first value heard before → Hears asks answer
      count (next value) (fun result later after => post result (heard ++
      later) (before ++ after))) : Hears asks answer count (program >>= next) post := by
  intro start
  obtain ⟨before, grown, counted, met⟩ := holds start
  obtain ⟨after, further, total, done⟩ := rest _ _ _ met (program start).2
  refine ⟨before ++ after, ?_, ?_, ?_⟩
  · rw [← append_assoc, ← grown]
    exact further
  · rw [countP_append, ← Nat.add_assoc, ← counted]
    exact total
  · rw [transcript_append, ← counted]
    exact done

theorem mono (holds : Hears asks answer count program first)
    (weaker : ∀ value heard added, first value heard added → post value heard
      added) : Hears asks answer count program post := by
  intro start
  obtain ⟨added, grown, counted, met⟩ := holds start
  exact ⟨added, grown, counted, weaker _ _ _ met⟩

theorem run (holds : Hears asks answer count program post) (start : σ) :
    post (Trace.run program start).1
      (transcript asks answer (count start) (Trace.run program start).2)
      (Trace.run program start).2 := by
  obtain ⟨added, grown, -, met⟩ := holds { state := start, events := [] }
  have same : (Trace.run program start).2 = added := grown
  rw [same]
  exact met

end Hears

end Hearing

end Trace

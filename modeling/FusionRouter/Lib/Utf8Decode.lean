import Mathlib.Data.List.Basic
import FusionRouter.Lib.Framing

/-!
# Decoding UTF-8

The decoder of a byte sequence that need not be valid.  A first byte says which
bytes may follow; a byte that may not follow breaks the sequence off before it,
and what has been read of it is one replacement character.  An unfinished
sequence at the end is left over, and replaced as a whole when nothing follows.
-/

namespace Utf8

open Framing List

def within (low high : Nat) (byte : UInt8) : Bool :=
  low ≤ byte.toNat && byte.toNat ≤ high

def tail : UInt8 → Bool :=
  within 0x80 0xBF

/-- What may follow a first byte, unless it cannot be one. -/
def tails (first : UInt8) : Option (List (UInt8 → Bool)) :=
  if first.toNat < 0x80 then some []
  else if first.toNat < 0xC2 then none
  else if first.toNat < 0xE0 then some [tail]
  else if first.toNat < 0xE1 then some [within 0xA0 0xBF, tail]
  else if first.toNat < 0xED then some [tail, tail]
  else if first.toNat < 0xEE then some [within 0x80 0x9F, tail]
  else if first.toNat < 0xF0 then some [tail, tail]
  else if first.toNat < 0xF1 then some [within 0x90 0xBF, tail, tail]
  else if first.toNat < 0xF4 then some [tail, tail, tail]
  else if first.toNat < 0xF5 then some [within 0x80 0x8F, tail, tail]
  else none

/-- Whether the bytes follow as they may, and how many have been read then. -/
def follow : Nat → List (UInt8 → Bool) → List UInt8 → Option (Bool × Nat)
  | read, [], _ => some (true, read)
  | _, _ :: _, [] => none
  | read, expects :: later, byte :: bytes =>
    if expects byte then follow (read + 1) later bytes
    else some (false, read)

/-- What stands for bytes that are no character. -/
def replacement : Char :=
  Char.ofNat 0xFFFD

/-- The character of a whole sequence. -/
def scalar : List UInt8 → Char
  | [first] => Char.ofNat first.toNat
  | [first, second] =>
    Char.ofNat (first.toNat % 32 * 64 + second.toNat % 64)
  | [first, second, third] =>
    Char.ofNat ((first.toNat % 16 * 64 + second.toNat % 64) * 64 + third.toNat % 64)
  | [first, second, third, fourth] =>
    Char.ofNat (((first.toNat % 8 * 64 + second.toNat % 64) * 64 +
      third.toNat % 64) * 64 + fourth.toNat % 64)
  | _ => replacement

/-- The character or the invalid sequence at the front. -/
def front : List UInt8 → Option (Option Char × Nat)
  | [] => none
  | first :: bytes =>
    match tails first with
    | none => some (none, 1)
    | some expected =>
      match follow 1 expected bytes with
      | none => none
      | some (true, size) =>
        some (some (scalar ((first :: bytes).take size)), size)
      | some (false, size) => some (none, size)

inductive Follows : Nat → List (UInt8 → Bool) → List UInt8 → Bool → Nat → Prop where
  | whole {read : Nat} {bytes : List UInt8} : Follows read [] bytes true read
  | broken {read : Nat} {expects : UInt8 → Bool} {later : List (UInt8 → Bool)}
      {byte : UInt8} {bytes : List UInt8} (refused : ¬ expects byte = true) :
      Follows read (expects :: later) (byte :: bytes) false read
  | next {read : Nat} {expects : UInt8 → Bool} {later : List (UInt8 → Bool)}
      {byte : UInt8} {bytes : List UInt8} {whole : Bool} {size : Nat}
      (allowed : expects byte = true) (rest : Follows (read + 1) later bytes whole size) :
      Follows read (expects :: later) (byte :: bytes) whole size

variable {expected : List (UInt8 → Bool)} {bytes : List UInt8} {size : Nat}
  {first : UInt8} {item : Option Char}

theorem follow_eq_some_iff {read : Nat} {whole : Bool} :
    follow read expected bytes = some (whole, size) ↔ Follows read expected bytes whole size := by
  constructor
  · intro found
    fun_induction follow read expected bytes with
    | case1 =>
      cases found
      exact .whole
    | case2 => cases found
    | case3 _ _ _ _ _ allowed induction => exact .next allowed (induction found)
    | case4 _ _ _ _ _ refused =>
      cases found
      exact .broken refused
  · intro follows
    induction follows with
    | whole => exact rfl
    | broken refused => rw [follow, if_neg refused]
    | next allowed _ induction => rw [follow, if_pos allowed, induction]

namespace Follows

variable {read : Nat} {expected : List (UInt8 → Bool)} {bytes : List UInt8}
  {size : Nat}

variable {whole : Bool}

theorem take_cons {byte : UInt8} (below : read + 1 ≤ size) :
    (byte :: bytes).take (size - read) = byte :: bytes.take (size - (read + 1)) := by
  have split : size - read = (size - (read + 1)) + 1 := by omega
  rw [split, take_succ_cons]

variable (follows : Follows read expected bytes whole size)
include follows

theorem bounds : read ≤ size ∧ size ≤ read + bytes.length := by
  induction follows with
  | whole | broken => omega
  | next _ _ induction =>
    rw [length_cons]
    omega

theorem append (more : List UInt8) : Follows read expected (bytes ++ more) whole size := by
  induction follows with
  | whole => exact .whole
  | broken refused => exact .broken refused
  | next allowed _ induction => exact .next allowed induction

/-- A whole sequence is recognised by itself. -/
theorem take (complete : whole = true) (more : List UInt8) :
    Follows read expected (bytes.take (size - read) ++ more) true size := by
  induction follows with
  | whole => exact .whole
  | broken => cases complete
  | next allowed rest induction =>
    rw [take_cons rest.bounds.1]
    exact .next allowed (induction complete)

/-- A sequence that is broken off is unfinished by itself. -/
theorem follow_take (broken : whole = false) :
    follow read expected (bytes.take (size - read)) = none := by
  induction follows with
  | whole => cases broken
  | broken =>
    rw [Nat.sub_self]
    rfl
  | next allowed rest induction =>
    rw [take_cons rest.bounds.1, follow, if_pos allowed]
    exact induction broken

end Follows

inductive Found (first : UInt8) (bytes : List UInt8) :
    Option Char → Nat → Prop where
  | alone (unknown : tails first = none) : Found first bytes none 1
  | whole {expected : List (UInt8 → Bool)} {size : Nat} (known : tails first = some expected)
      (follows : Follows 1 expected bytes true size) :
      Found first bytes (some (scalar ((first :: bytes).take size))) size
  | broken {expected : List (UInt8 → Bool)} {size : Nat} (known : tails first = some expected)
      (follows : Follows 1 expected bytes false size) :
      Found first bytes none size

theorem found_of_front (here : front (first :: bytes) = some (item, size)) :
    Found first bytes item size := by
  rw [front] at here
  split at here
  next unknown =>
    cases here
    exact .alone unknown
  next expected known =>
    split at here
    · cases here
    next follows =>
      cases here
      exact .whole known (follow_eq_some_iff.mp follows)
    next follows =>
      cases here
      exact .broken known (follow_eq_some_iff.mp follows)

theorem front_of_found (found : Found first bytes item size) :
    front (first :: bytes) = some (item, size) := by
  cases found with
  | alone unknown => simp only [front, unknown]
  | whole known follows | broken known follows =>
    simp only [front, known, follow_eq_some_iff.mpr follows]

theorem front_bounds (here : front bytes = some (item, size)) : 0 < size ∧ size ≤ bytes.length := by
  cases bytes with
  | nil => cases here
  | cons first bytes =>
    rw [length_cons]
    cases found_of_front here with
    | alone => omega
    | whole known follows | broken known follows =>
      have bounds := follows.bounds
      omega

theorem front_stable (here : front bytes = some (item, size))
    (more : List UInt8) : front (bytes ++ more) = some (item, size) := by
  cases bytes with
  | nil => cases here
  | cons first bytes =>
    refine front_of_found ?_
    cases found_of_front here with
    | alone unknown => exact .alone unknown
    | whole known follows =>
      have bounds := follows.bounds
      have kept : (first :: bytes ++ more).take size = (first :: bytes).take size :=
        take_append_of_le_length (by rw [length_cons]; omega)
      rw [← kept]
      exact .whole known (follows.append more)
    | broken known follows =>
      exact .broken known (follows.append more)

def framer : Framer UInt8 (Option Char) where
  front := front
  bounds := front_bounds
  stable := front_stable

theorem exact_letter (letter : Char) : framer.Exact (some letter) := by
  intro bytes size here more
  cases bytes with
  | nil => cases here
  | cons first bytes =>
    cases found_of_front here with
    | whole known follows =>
      have bounds := follows.bounds
      obtain ⟨later, rfl⟩ : ∃ later, size = later + 1 := ⟨size - 1, by omega⟩
      have again := follows.take rfl more
      rw [Nat.add_sub_cancel] at again
      have found := front_of_found (.whole known again)
      rw [take_succ_cons, take_append_of_le_length, take_take, Nat.min_self] at found
      · rw [take_succ_cons]
        exact found
      · rw [length_take]
        omega

/-! ## Lossy decoding -/

/-- The text of some items, with replacement characters. -/
def render (items : List (Option Char)) : String :=
  String.ofList (items.map (fun item => item.getD replacement))

theorem render_append (first second : List (Option Char)) :
    render (first ++ second) = render first ++ render second := by
  unfold render
  rw [map_append, String.ofList_append]

theorem render_letters (letters : List Char) :
    render (letters.map some) = String.ofList letters := by
  unfold render
  rw [map_map]
  exact congrArg String.ofList (map_id letters)

/-- The text of bytes, valid or not. -/
def lossy (bytes : List UInt8) : String :=
  render ((framer.drain bytes).1 ++
    if (framer.drain bytes).2.isEmpty then [] else [none])

theorem lossy_of_takes {rest : List UInt8} {items : List (Option Char)}
    (takes : framer.Takes bytes items rest) : lossy bytes = render items ++ lossy rest := by
  unfold lossy
  rw [takes.drain_eq, append_assoc, render_append]

theorem lossy_nil : lossy [] = "" := rfl

/-- What has been read of an invalid sequence is replaced as a whole. -/
theorem lossy_take_of_invalid (here : front bytes = some (none, size)) :
    lossy (bytes.take size) = render [none] := by
  cases bytes with
  | nil => cases here
  | cons first bytes =>
    cases found_of_front here with
    | alone unknown =>
      have alone : framer.Takes [first] [none] [] :=
        .more (front_of_found (.alone unknown)) (.done [])
      rw [take_succ_cons, take_zero, lossy_of_takes alone]
      rfl
    | @broken expected _ known follows =>
      have bounds := follows.bounds
      obtain ⟨later, rfl⟩ : ∃ later, size = later + 1 := ⟨size - 1, by omega⟩
      have unfinished := follows.follow_take rfl
      rw [Nat.add_sub_cancel] at unfinished
      have stuck : front (first :: bytes.take later) = none := by
        simp only [front, known, unfinished]
      rw [take_succ_cons, lossy,
        (Framer.Takes.done (first :: bytes.take later)).drain_of_stuck stuck]
      rfl

/-! ## Strict decoding -/

/-- Where decoding stops: the bytes that are valid before, and the length of
the invalid sequence unless it is only unfinished. -/
structure Utf8Error where
  validUpTo : Nat
  errorLen : Option Nat

def fromUtf8Loop : Nat → List UInt8 → Except Utf8Error (List Char)
  | 0, _ => .ok []
  | fuel + 1, bytes =>
    match front bytes with
    | none =>
      if bytes.isEmpty then .ok []
      else .error { validUpTo := 0, errorLen := none }
    | some (none, size) =>
      .error { validUpTo := 0, errorLen := some size }
    | some (some letter, size) =>
      match fromUtf8Loop fuel (bytes.drop size) with
      | .ok letters => .ok (letter :: letters)
      | .error error =>
        .error { error with validUpTo := size + error.validUpTo }

def fromUtf8 (bytes : List UInt8) : Except Utf8Error (List Char) :=
  fromUtf8Loop bytes.length bytes

/-- The characters before an error, and the error behind them. -/
structure StopsAt (bytes : List UInt8) (letters : List Char) (error : Utf8Error) : Prop where
  takes : framer.Takes bytes (letters.map some) (bytes.drop error.validUpTo)
  remains : bytes.drop error.validUpTo ≠ []
  stops : front (bytes.drop error.validUpTo) = error.errorLen.map (fun size => (none, size))

theorem fromUtf8Loop_spec (fuel : Nat) (bytes : List UInt8) (enough : bytes.length ≤ fuel) :
    (∀ letters, fromUtf8Loop fuel bytes = .ok letters → framer.Takes bytes (letters.map some) []) ∧
      ∀ error, fromUtf8Loop fuel bytes = .error error → ∃ letters, StopsAt bytes letters error := by
  fun_induction fromUtf8Loop fuel bytes with
  | case1 bytes =>
    cases length_eq_zero_iff.mp (Nat.le_zero.mp enough)
    exact ⟨fun _ result => Except.ok.inj result ▸ .done [], fun _ result => (by cases result)⟩
  | case2 fuel bytes here empty =>
    cases isEmpty_iff.mp empty
    exact ⟨fun _ result => Except.ok.inj result ▸ .done [], fun _ result => (by cases result)⟩
  | case3 fuel bytes here filled =>
    refine ⟨fun _ result => (by cases result), ?_⟩
    rintro _ ⟨⟩
    exact ⟨[], .done _, by simpa using filled, here⟩
  | case4 fuel bytes size here =>
    refine ⟨fun _ result => (by cases result), ?_⟩
    rintro _ ⟨⟩
    refine ⟨[], .done _, ?_, here⟩
    rintro rfl
    cases here
  | case5 fuel bytes letter size here letters rest induction =>
    have shorter := framer.length_drop_lt here
    refine ⟨?_, fun _ result => (by cases result)⟩
    rintro _ ⟨⟩
    exact .more here ((induction (by omega)).1 letters rest)
  | case6 fuel bytes letter size here error rest induction =>
    have shorter := framer.length_drop_lt here
    refine ⟨fun _ result => (by cases result), ?_⟩
    rintro _ ⟨⟩
    obtain ⟨letters, takes, remains, stops⟩ := (induction (by omega)).2 error rest
    rw [drop_drop] at takes remains stops
    exact ⟨letter :: letters, .more here takes, remains, stops⟩

namespace StopsAt

variable {bytes : List UInt8} {letters : List Char} {error : Utf8Error}

theorem lossy_valid (stopsAt : StopsAt bytes letters error) (more : List UInt8) :
    lossy (bytes.take error.validUpTo ++ more) = render (letters.map some) ++ lossy more := by
  have exact : ∀ item ∈ letters.map some, framer.Exact item := by
    intro item member
    obtain ⟨letter, -, rfl⟩ := mem_map.mp member
    exact exact_letter letter
  obtain ⟨used, same, takes⟩ := stopsAt.takes.cut exact
  have valid : bytes.take error.validUpTo = used := by
    refine (append_left_inj (bytes.drop error.validUpTo)).mp ?_
    rw [take_append_drop]
    exact same
  rw [valid]
  exact lossy_of_takes (takes.append more)

end StopsAt

end Utf8

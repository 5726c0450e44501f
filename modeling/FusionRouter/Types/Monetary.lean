import Mathlib.Data.List.DropRight
import FusionRouter.Types.StreamChunk

/-!
# Amounts of money as decimal texts

An amount is a whole number of nano-dollars in 64 bits. It is printed as
dollars with two to nine fraction digits, and read back from such a text.
-/

namespace FusionRouter

open List
open Nat (ofDigitChars toDigits)

structure NanoUSD where
  nanos : Nat
  fits : nanos ≤ u64Max
deriving Repr, DecidableEq

inductive ParseIntError where
  | empty
  | invalidDigit
  | posOverflow
deriving Repr, DecidableEq

def ParseIntError.text : ParseIntError → String
  | .empty => "cannot parse integer from empty string"
  | .invalidDigit => "invalid digit found in string"
  | .posOverflow => "number too large to fit in target type"

def parseDigits (total : Nat) : List Char → Except ParseIntError Nat
  | [] => .ok total
  | letter :: rest =>
    let next := 10 * total + (letter.toNat - '0'.toNat)
    if letter.isDigit then
      if next ≤ u64Max then parseDigits next rest else .error .posOverflow
    else .error .invalidDigit

/-- `str::parse::<u64>`, which allows a plus sign before the digits. -/
def parseU64 : List Char → Except ParseIntError Nat
  | [] => .error .empty
  | ['+'] => .error .invalidDigit
  | '+' :: digits => parseDigits 0 digits
  | digits => parseDigits 0 digits

namespace NanoUSD

def perDollar : Nat := 1000000000

def wholeDollars (whole : List Char) : Except String Nat :=
  if whole = [] then .ok 0
  else (parseU64 whole).mapError (fun error => "invalid integer part: " ++ error.text)

def fractionNanos (fraction : List Char) : Except String Nat :=
  if 9 < (String.ofList fraction).utf8ByteSize then
    .error ("decimal precision exceeds 9 places: '" ++ String.ofList fraction ++ "'")
  else if fraction.all Char.isDigit then
    (parseU64 (fraction.rightpad 9 '0')).mapError
      (fun error => "invalid fractional part: " ++ error.text)
  else .error "invalid characters in fractional part"

def ofParts (dollars nanos : Nat) : Except String NanoUSD :=
  if fits : dollars * perDollar + nanos ≤ u64Max then .ok ⟨_, fits⟩
  else .error "overflow converting to NanoUSD"

def checkedFromDecimalUsd (usd : String) : Except String NanoUSD :=
  let text := trim usd.toList
  if text = [] then .error "empty string"
  else
    match text.splitOn '.' with
    | [whole] => do ofParts (← wholeDollars whole) 0
    | [whole, fraction] => do
      let dollars ← wholeDollars whole
      ofParts dollars (← fractionNanos fraction)
    | _ => .error "multiple decimal points"

def toDecimalUsd (money : NanoUSD) : String :=
  let dollars := toDigits 10 (money.nanos / perDollar)
  let nanos := money.nanos % perDollar
  if nanos = 0 then String.ofList (dollars ++ ['.', '0', '0'])
  else
    let trimmed := ((toDigits 10 nanos).leftpad 9 '0').rdropWhile (· == '0')
    String.ofList (dollars ++ '.' :: trimmed.rightpad 2 '0')

/-! ## What a text says -/

abbrev Digits (text : List Char) : Prop :=
  ∀ letter ∈ text, letter.isDigit = true

/-- The number of nano-dollars that the fraction digits stand for. -/
def fractionValue (fraction : List Char) : Nat :=
  ofDigitChars 10 fraction 0 * 10 ^ (9 - fraction.length)

/-- An unsigned decimal number with at least one digit and at most nine
fraction digits, and its value in nano-dollars. -/
structure Decimal (text : List Char) (nanos : Nat) : Prop where
  parts : ∃ whole fraction, (text = whole ∧ fraction = [] ∨ text = whole ++ '.' :: fraction) ∧
    Digits (whole ++ fraction) ∧ whole ++ fraction ≠ [] ∧ fraction.length ≤ 9 ∧
    nanos = ofDigitChars 10 whole 0 * perDollar + fractionValue fraction

theorem digits_append : Digits (left ++ right) ↔ Digits left ∧ Digits right :=
  forall_mem_append

theorem digits_toDigits (number : Nat) : Digits (toDigits 10 number) :=
  fun _ => Nat.isDigit_of_mem_toDigits (by decide) (by decide)

theorem digits_zeros (count : Nat) : Digits (replicate count '0') :=
  fun _ member => eq_of_mem_replicate member ▸ rfl

theorem Digits.notMem (digits : Digits text) (other : letter.isDigit = false) : letter ∉ text :=
  fun member => absurd (digits letter member) (by simp [other])

theorem Digits.unsigned (digits : Digits text) : text.head? ≠ some '+' :=
  fun head => digits.notMem rfl (mem_of_head? head)

theorem code_of_isDigit {letter : Char} (digit : letter.isDigit = true) :
    48 ≤ letter.toNat ∧ letter.toNat ≤ 57 := by
  simp only [Char.isDigit, ge_iff_le, Bool.and_eq_true, decide_eq_true_eq,
    UInt32.le_iff_toNat_le] at digit
  exact digit

theorem ofDigitChars_zeros (digits : List Char) (count : Nat) :
    ofDigitChars 10 (digits ++ replicate count '0') 0 =
      ofDigitChars 10 digits 0 * 10 ^ count := by
  rw [Nat.ofDigitChars_append, Nat.ofDigitChars_replicate_zero, Nat.mul_comm]

theorem ofDigitChars_lt (digits : Digits text) : ofDigitChars 10 text 0 < 10 ^ text.length := by
  induction text with
  | nil => simp
  | cons letter rest ih =>
    obtain ⟨first, others⟩ := forall_mem_cons.mp digits
    have small : letter.toNat - '0'.toNat ≤ 9 := Nat.sub_le_sub_right (code_of_isDigit first).2 _
    have leading : 10 ^ rest.length * (10 * 0 + (letter.toNat - '0'.toNat)) ≤
      10 ^ rest.length * 9 := Nat.mul_le_mul_left _ (by omega)
    have trailing := ih others
    rw [Nat.ofDigitChars_cons, Nat.ofDigitChars_eq_ofDigitChars_zero,
      length_cons, Nat.pow_succ]
    omega

theorem utf8Len_digits (digits : Digits text) : String.utf8Len text = text.length := by
  induction text with
  | nil => rfl
  | cons letter rest ih =>
    obtain ⟨first, others⟩ := forall_mem_cons.mp digits
    have narrow : letter.utf8Size = 1 := by
      rw [Char.utf8Size_eq_one_iff, UInt32.le_iff_toNat_le]
      exact (code_of_isDigit first).2.trans (by decide)
    rw [String.utf8Len_cons, ih others, narrow, length_cons]

/-! ## Reading -/

theorem parseDigits_ok_iff (small : total ≤ u64Max) :
    parseDigits total text = .ok value ↔
      Digits text ∧ value ≤ u64Max ∧ value = ofDigitChars 10 text total := by
  induction text generalizing total with
  | nil =>
    simp only [parseDigits, Nat.ofDigitChars_nil, Except.ok.injEq]
    grind
  | cons letter rest ih =>
    simp only [parseDigits, Nat.ofDigitChars_cons, Digits, forall_mem_cons]
    -- The total never shrinks, so an overflow on the way is one at the end.
    have grows : 10 * total + (letter.toNat - '0'.toNat) ≤
        ofDigitChars 10 rest (10 * total + (letter.toNat - '0'.toNat)) := by
      rw [Nat.ofDigitChars_eq_ofDigitChars_zero]
      exact (Nat.le_mul_of_pos_left _ (Nat.pow_pos (by decide))).trans (Nat.le_add_right _ _)
    split
    · split
      · rename_i digit fits
        rw [ih fits, and_iff_right digit]
      · grind
    · grind

/-- A plus sign is skipped where something is behind it. -/
inductive SignedDigits : (text digits : List Char) → Prop where
  | plain : SignedDigits digits digits
  | plus (present : digits ≠ []) : SignedDigits ('+' :: digits) digits

theorem SignedDigits.eq_of_unsigned (signed : SignedDigits text digits)
    (unsigned : text.head? ≠ some '+') : digits = text := by
  cases signed with
  | plain => rfl
  | plus => exact (unsigned rfl).elim

theorem parseU64_ok_iff :
    parseU64 text = .ok value ↔ ∃ digits, SignedDigits text digits ∧ digits ≠ [] ∧ Digits digits ∧
      value ≤ u64Max ∧ value = ofDigitChars 10 digits 0 := by
  have small := Nat.zero_le u64Max
  constructor
  · intro parsed
    unfold parseU64 at parsed
    split at parsed
    · cases parsed
    · cases parsed
    · rename_i digits alone
      have present : digits ≠ [] := fun empty => alone (by rw [empty])
      exact ⟨digits, .plus present, present, (parseDigits_ok_iff small).mp parsed⟩
    · rename_i present _ _
      exact ⟨text, .plain, present, (parseDigits_ok_iff small).mp parsed⟩
  · rintro ⟨digits, signed, present, number⟩
    have parsed := (parseDigits_ok_iff small).mpr number
    cases signed with
    | plain =>
      have unsigned := number.1.unsigned
      unfold parseU64
      split <;> simp_all
    | plus =>
      unfold parseU64
      split <;> simp_all

theorem mapError_ok_iff (result : Except ε α) (f : ε → ε') :
    result.mapError f = .ok value ↔ result = .ok value := by
  cases result <;> simp [Except.mapError]

theorem bind_ok_iff {first : Except ε α} {next : α → Except ε β} :
    (first >>= next) = .ok value ↔ ∃ between, first = .ok between ∧ next between = .ok value := by
  cases first <;> simp [bind, Except.bind]

theorem wholeDollars_ok_iff :
    wholeDollars whole = .ok value ↔ ∃ digits, SignedDigits whole digits ∧ Digits digits ∧
      value ≤ u64Max ∧ value = ofDigitChars 10 digits 0 := by
  unfold wholeDollars
  split
  · rename_i empty
    subst empty
    constructor
    · rintro ⟨⟩
      exact ⟨[], .plain, by simp [Digits], Nat.zero_le _, rfl⟩
    · rintro ⟨digits, ⟨⟩, -, -, rfl⟩
      rfl
  · rename_i written
    rw [mapError_ok_iff, parseU64_ok_iff]
    refine exists_congr fun digits => and_congr_right fun signed => and_iff_right ?_
    cases signed with
    | plain => exact written
    | plus present => exact present

theorem fractionNanos_ok_iff :
    fractionNanos fraction = .ok value ↔ Digits fraction ∧ fraction.length ≤ 9 ∧
        value = fractionValue fraction := by
  unfold fractionNanos
  rw [String.utf8ByteSize_ofList]
  by_cases digits : Digits fraction
  · rw [utf8Len_digits digits]
    split
    · grind
    · rename_i short
      have padded : Digits (fraction.rightpad 9 '0') := digits_append.mpr ⟨digits, digits_zeros _⟩
      have length : (fraction.rightpad 9 '0').length = 9 := by
        rw [length_rightpad]
        omega
      have padded_value : ofDigitChars 10 (fraction.rightpad 9 '0') 0 =
          fractionValue fraction := ofDigitChars_zeros _ _
      have bound := ofDigitChars_lt padded
      rw [length, padded_value] at bound
      rw [if_pos (all_eq_true.mpr digits), mapError_ok_iff,
        parseU64_ok_iff]
      constructor
      · rintro ⟨read, signed, -, -, -, equal⟩
        rw [signed.eq_of_unsigned padded.unsigned] at equal
        exact ⟨digits, Nat.le_of_not_lt short, equal.trans padded_value⟩
      · rintro ⟨-, -, equal⟩
        refine ⟨_, .plain, ne_nil_of_length_pos (by omega), padded, ?_,
          equal.trans padded_value.symm⟩
        rw [equal]
        exact bound.le.trans (by decide)
  · have wrong : ¬fraction.all Char.isDigit = true := by
      rwa [all_eq_true]
    simp only [wrong, digits, false_and, iff_false]
    split <;> simp

@[simp] theorem fractionValue_nil : fractionValue [] = 0 := by
  simp [fractionValue]

theorem ofParts_ok_iff :
    ofParts dollars rest = .ok money ↔ money.nanos = dollars * perDollar + rest := by
  obtain ⟨amount, small⟩ := money
  unfold ofParts
  split
  · simp only [Except.ok.injEq, NanoUSD.mk.injEq]
    exact eq_comm
  · rename_i large
    simp only [reduceCtorEq, false_iff]
    exact fun equal => large (equal ▸ small)

/-- What is read: a text without a point or with one, digits behind the sign
and behind the point. -/
theorem checkedFromDecimalUsd_ok_iff {usd : String} :
    checkedFromDecimalUsd usd = .ok money ↔ trim usd.toList ≠ [] ∧ ∃ whole digits fraction,
      (trim usd.toList = whole ∧ fraction = [] ∨ trim usd.toList = whole ++ '.' :: fraction) ∧
      SignedDigits whole digits ∧ Digits (digits ++ fraction) ∧ fraction.length ≤ 9 ∧
      money.nanos = ofDigitChars 10 digits 0 * perDollar + fractionValue fraction := by
  unfold checkedFromDecimalUsd
  generalize trim usd.toList = text
  constructor
  · intro parsed
    have joined : ['.'].intercalate (text.splitOn '.') = text := intercalate_splitOn '.'
    rw [ite_eq_iff] at parsed
    obtain ⟨-, ⟨⟩⟩ | ⟨present, parsed⟩ := parsed
    refine ⟨present, ?_⟩
    split at parsed
    · rename_i whole split
      obtain ⟨dollars, counted, total⟩ := bind_ok_iff.mp parsed
      obtain ⟨digits, signed, wholeDigits, -, rfl⟩ := wholeDollars_ok_iff.mp counted
      have equal : text = whole := by simpa [split] using joined.symm
      rw [ofParts_ok_iff] at total
      exact ⟨whole, digits, [], .inl ⟨equal, rfl⟩, signed, by simpa using wholeDigits,
        Nat.zero_le _, by rwa [fractionValue_nil]⟩
    · rename_i whole fraction split
      obtain ⟨dollars, counted, parsed⟩ := bind_ok_iff.mp parsed
      obtain ⟨nanos, rest, total⟩ := bind_ok_iff.mp parsed
      obtain ⟨digits, signed, wholeDigits, -, rfl⟩ := wholeDollars_ok_iff.mp counted
      obtain ⟨fractionDigits, short, rfl⟩ := fractionNanos_ok_iff.mp rest
      have equal : text = whole ++ '.' :: fraction := by
        simpa [split] using joined.symm
      exact ⟨whole, digits, fraction, .inr equal, signed,
        digits_append.mpr ⟨wholeDigits, fractionDigits⟩, short, ofParts_ok_iff.mp total⟩
    · simp at parsed
  · rintro ⟨present, whole, digits, fraction, form, signed, numerals, short, total⟩
    obtain ⟨wholeDigits, fractionDigits⟩ := digits_append.mp numerals
    have dollars : wholeDollars whole = .ok (ofDigitChars 10 digits 0) := by
      refine wholeDollars_ok_iff.mpr ⟨digits, signed, wholeDigits, ?_, rfl⟩
      have := money.fits
      unfold perDollar at total
      omega
    have pointless : '.' ∉ whole := by
      cases signed with
      | plain => exact wholeDigits.notMem rfl
      | plus => simpa using wholeDigits.notMem rfl
    rw [if_neg present]
    obtain ⟨rfl, rfl⟩ | rfl := form
    · have split : text.splitOn '.' = [text] := by
        simpa using splitOn_intercalate '.'
          (show ∀ part ∈ [text], '.' ∉ part by simpa using pointless) (by simp)
      rw [fractionValue_nil] at total
      rw [split]
      exact bind_ok_iff.mpr ⟨_, dollars, ofParts_ok_iff.mpr total⟩
    · have split : (whole ++ '.' :: fraction).splitOn '.' = [whole, fraction] := by
        simpa using splitOn_intercalate '.'
          (show ∀ part ∈ [whole, fraction], '.' ∉ part by
            simpa using ⟨pointless, fractionDigits.notMem rfl⟩)
          (by simp)
      rw [split]
      exact bind_ok_iff.mpr ⟨_, dollars, bind_ok_iff.mpr
        ⟨_, fractionNanos_ok_iff.mpr ⟨fractionDigits, short, rfl⟩, ofParts_ok_iff.mpr total⟩⟩

/-- Every decimal number that fits is read, with its value. -/
theorem Decimal.parses {usd : String} (decimal : Decimal (trim usd.toList) money.nanos) :
    checkedFromDecimalUsd usd = .ok money := by
  obtain ⟨whole, fraction, form, digits, present, short, total⟩ := decimal
  refine checkedFromDecimalUsd_ok_iff.mpr
    ⟨?_, whole, whole, fraction, form, .plain, digits, short, total⟩
  obtain ⟨same, rfl⟩ | same := form
  · simpa [same] using present
  · simp [same]

theorem Decimal.unsigned (decimal : Decimal text amount) : text.head? ≠ some '+' := by
  obtain ⟨whole, fraction, form, digits, -⟩ := decimal
  have wholeDigits := (digits_append.mp digits).1
  obtain ⟨rfl, -⟩ | rfl := form
  · exact wholeDigits.unsigned
  · cases whole with
    | nil => simp
    | cons first rest => exact wholeDigits.unsigned

theorem Decimal.ne_point (decimal : Decimal text amount) : text ≠ ['.'] := by
  rintro rfl
  obtain ⟨whole, fraction, form, digits, present, -⟩ := decimal
  obtain ⟨rfl, rfl⟩ | form := form
  · exact digits.notMem rfl (mem_singleton_self '.')
  · cases whole <;> simp_all

/-- A plus sign, and right behind it a digit of a decimal number that fits. -/
def SignedAmount (text : List Char) : Prop :=
  ∃ rest, text = '+' :: rest ∧ rest.head? ≠ some '.' ∧ ∃ money : NanoUSD, Decimal rest money.nanos

/-- The decimal numbers that fit are read, and nothing else, exactly where the
text is not a lone point, both of whose parts are empty, and not such a number
with a plus sign, which is left to `parse::<u64>`. -/
theorem checkedFromDecimalUsd_exact (usd : String) :
    (∀ money, checkedFromDecimalUsd usd = .ok money ↔ Decimal (trim usd.toList) money.nanos) ↔
      trim usd.toList ≠ ['.'] ∧ ¬ SignedAmount (trim usd.toList) := by
  constructor
  · intro exactly
    constructor
    · intro point
      have read : checkedFromDecimalUsd usd = .ok ⟨0, by decide⟩ :=
        checkedFromDecimalUsd_ok_iff.mpr
          ⟨by simp [point], [], [], [], .inr point, .plain, by simp [Digits], by simp, by simp⟩
      exact ((exactly _).mp read).ne_point point
    · rintro ⟨rest, signed, first, money, whole, fraction, form, digits, present, short, total⟩
      have digitFirst : whole ≠ [] := by
        rintro rfl
        obtain ⟨rfl, rfl⟩ | rfl := form
        · exact present rfl
        · exact first rfl
      have read : checkedFromDecimalUsd usd = .ok money := by
        refine checkedFromDecimalUsd_ok_iff.mpr ⟨by simp [signed], '+' :: whole, whole, fraction,
          ?_, .plus digitFirst, digits, short, total⟩
        simpa [signed] using form
      exact ((exactly _).mp read).unsigned (by simp [signed])
  · rintro ⟨numeral, unsigned⟩ money
    refine ⟨fun read => ?_, Decimal.parses⟩
    obtain ⟨present, whole, digits, fraction, form, signed, numerals, short, total⟩ :=
      checkedFromDecimalUsd_ok_iff.mp read
    have some_digit : whole ++ fraction ≠ [] := by
      intro none
      obtain ⟨rfl, rfl⟩ := append_eq_nil_iff.mp none
      obtain ⟨empty, -⟩ | point := form
      · exact present empty
      · exact numeral point
    cases signed with
    | plain => exact ⟨whole, fraction, form, numerals, some_digit, short, total⟩
    | plus digitFirst =>
      refine (unsigned ?_).elim
      obtain ⟨first, more, rfl⟩ := exists_cons_of_ne_nil digitFirst
      have starts : first ≠ '.' := by
        rintro rfl
        exact numerals.notMem rfl (mem_cons_self (a := '.'))
      obtain ⟨written, rfl⟩ | written := form
      · exact ⟨first :: more, written, by simpa using starts, money, first :: more, [],
          .inl ⟨rfl, rfl⟩, numerals, by simp, short, total⟩
      · exact ⟨first :: more ++ '.' :: fraction, written, by simpa using starts, money,
          first :: more, fraction, .inr rfl, numerals, by simp, short, total⟩

/-- A signed amount is read all the same. -/
theorem sign_accepted :
    checkedFromDecimalUsd "+5" = .ok ⟨5000000000, by decide⟩ ∧
      ¬ ∃ nanos, Decimal (trim "+5".toList) nanos := by
  refine ⟨by decide, ?_⟩
  rintro ⟨amount, decimal⟩
  exact decimal.unsigned (show (trim "+5".toList).head? = some '+' by decide)

/-! ## Printing and reading back -/

theorem trim_eq_self (visible : ∀ letter ∈ text, AgentState.isWhiteSpace letter = false) :
    trim text = text := by
  have keep {part : List Char} (seen : ∀ letter ∈ part, AgentState.isWhiteSpace letter = false) :
      part.dropWhile AgentState.isWhiteSpace = part := by
    cases part with
    | nil => rfl
    | cons letter rest =>
      exact dropWhile_cons_of_neg (by simp [seen letter])
  rw [trim, keep visible, keep (by simpa using visible), reverse_reverse]

theorem Digits.visible (digits : Digits text) :
    ∀ letter ∈ text, AgentState.isWhiteSpace letter = false := by
  intro letter member
  have code := code_of_isDigit (digits letter member)
  simp only [AgentState.isWhiteSpace, decide_eq_false_iff_not]
  omega

theorem fractionValue_zeros (short : digits.length + zeros ≤ 9) :
    fractionValue (digits ++ replicate zeros '0') = fractionValue digits := by
  unfold fractionValue
  rw [ofDigitChars_zeros, Nat.mul_assoc, ← Nat.pow_add, length_append, length_replicate]
  congr 2
  omega

theorem exists_zeros (text : List Char) :
    ∃ count, text = text.rdropWhile (· == '0') ++ replicate count '0' := by
  have zeros : text.rtakeWhile (· == '0') =
      replicate (text.rtakeWhile (· == '0')).length '0' :=
    eq_replicate_of_mem fun letter member => by
      simpa using mem_rtakeWhile_imp member
  exact ⟨_, by rw [← zeros, rdropWhile_append_rtakeWhile]⟩

theorem fractionValue_leftpad {nanos : Nat} (below : nanos < 10 ^ 9) :
    ((toDigits 10 nanos).leftpad 9 '0').length = 9 ∧
      fractionValue ((toDigits 10 nanos).leftpad 9 '0') = nanos := by
  have short := (Nat.length_toDigits_le_iff (by decide) (by decide)).mpr below
  have length : ((toDigits 10 nanos).leftpad 9 '0').length = 9 := by
    rw [length_leftpad, max_eq_left short]
  refine ⟨length, ?_⟩
  rw [fractionValue, length, leftpad, Nat.ofDigitChars_append,
    Nat.ofDigitChars_replicate_zero, Nat.mul_zero,
    Nat.ofDigitChars_ten_toDigits, Nat.sub_self, Nat.pow_zero, Nat.mul_one]

/-- The digits printed after the point are worth the nano-dollars that make
no whole dollar. -/
theorem exists_fraction (money : NanoUSD) :
    ∃ fraction, money.toDecimalUsd.toList =
        toDigits 10 (money.nanos / perDollar) ++ '.' :: fraction ∧
      Digits fraction ∧ fraction.length ≤ 9 ∧ fractionValue fraction = money.nanos % perDollar := by
  simp only [toDecimalUsd]
  split
  · rename_i even
    refine ⟨['0', '0'], String.toList_ofList, by simp [Digits], by decide, ?_⟩
    rw [even]
    decide
  have digits : Digits ((toDigits 10 (money.nanos % perDollar)).leftpad 9 '0') :=
    digits_append.mpr ⟨digits_zeros _, digits_toDigits _⟩
  obtain ⟨length, value⟩ := fractionValue_leftpad
    (show money.nanos % perDollar < 10 ^ 9 from Nat.mod_lt _ (by decide))
  generalize (toDigits 10 (money.nanos % perDollar)).leftpad 9 '0' = padded at *
  obtain ⟨count, joined⟩ := exists_zeros padded
  generalize padded.rdropWhile (· == '0') = trimmed at *
  subst joined
  rw [length_append, length_replicate] at length
  refine ⟨_, String.toList_ofList, ?_, ?_, ?_⟩
  · exact digits_append.mpr ⟨(digits_append.mp digits).1, digits_zeros _⟩
  · rw [length_rightpad]
    omega
  · rw [rightpad, fractionValue_zeros (by omega), ← value, fractionValue_zeros length.le]

theorem toDecimalUsd_round_trip (money : NanoUSD) :
    checkedFromDecimalUsd money.toDecimalUsd = .ok money := by
  obtain ⟨fraction, printed, digits, short, value⟩ := exists_fraction money
  have whole := digits_toDigits (money.nanos / perDollar)
  have visible : ∀ letter ∈ money.toDecimalUsd.toList, AgentState.isWhiteSpace letter = false := by
    rw [printed, forall_mem_append, forall_mem_cons]
    exact ⟨whole.visible, by decide, digits.visible⟩
  apply Decimal.parses
  rw [trim_eq_self visible, printed]
  refine ⟨_, fraction, .inr rfl, digits_append.mpr ⟨whole, digits⟩,
    by simp [Nat.toDigits_ne_nil], short, ?_⟩
  rw [value, Nat.ofDigitChars_ten_toDigits, Nat.div_add_mod']

end NanoUSD

end FusionRouter

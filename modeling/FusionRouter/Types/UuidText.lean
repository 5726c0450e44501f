import Mathlib.Tactic.IntervalCases
import Mathlib.Tactic.Ring
import FusionRouter.Types.JsonText

/-!
# UUIDs as texts

`Uuid::parse_str` reads four spellings of a UUID, with digits in either case;
`Display` writes one of them.  Reading undoes writing, and so the text that is
written determines the UUID.
-/

namespace FusionRouter

open List

namespace Uuid

/-- `parse_simple`: 32 hexadecimal digits. -/
def parseSimple (letters : List Char) : Option Uuid :=
  if letters.length = 32 then
    (JsonText.hexNumber letters 0).map (Fin.ofNat (2 ^ 128))
  else none

/-- `parse_hyphenated`: the digits in groups of 8, 4, 4, 4 and 12. -/
def parseHyphenated (letters : List Char) : Option Uuid :=
  if letters.length = 36 ∧ letters[8]? = some '-' ∧ letters[13]? = some '-' ∧
      letters[18]? = some '-' ∧ letters[23]? = some '-' then
    parseSimple (letters.take 8 ++ (letters.drop 9).take 4 ++
      (letters.drop 14).take 4 ++ (letters.drop 19).take 4 ++ letters.drop 24)
  else none

/-- `Uuid::parse_str`: the length decides between the plain digits, the
hyphenated form, the same in braces, and the URN. -/
def parseStr (text : String) : Option Uuid :=
  let letters := text.toList
  if letters.length = 32 then parseSimple letters
  else if letters.length = 36 then parseHyphenated letters
  else if letters.length = 38 then
    if letters.head? = some '\x7b' ∧ letters.getLast? = some '\x7d' then
      parseHyphenated (letters.drop 1).dropLast
    else none
  else if letters.length = 45 then
    if letters.take 9 = "urn:uuid:".toList then
      parseHyphenated (letters.drop 9)
    else none
  else none

theorem hexValue_digitChar (small : digit < 16) :
    JsonText.hexValue (Nat.digitChar digit) = some digit := by
  interval_cases digit <;> decide

def digits (count number : Nat) : List Char :=
  (List.range count).map (fun position => Nat.digitChar (number / 16 ^ (count - 1 - position) % 16))

theorem digits_succ (count number : Nat) :
    digits (count + 1) number =
      Nat.digitChar (number / 16 ^ count % 16) :: digits count number := by
  rw [digits, digits, range_succ_eq_map, map_cons, map_map, Nat.add_sub_cancel, Nat.sub_zero]
  congr 1
  refine map_congr_left (fun position _ => ?_)
  have exponent : count - (position + 1) = count - 1 - position := by omega
  rw [Function.comp_apply, Nat.succ_eq_add_one, exponent]

theorem hexNumber_digits (count number before : Nat) :
    JsonText.hexNumber (digits count number) before =
      some (before * 16 ^ count + number % 16 ^ count) := by
  induction count generalizing before with
  | zero => simp [digits, JsonText.hexNumber, Nat.mod_one]
  | succ count induction =>
    have small : number / 16 ^ count % 16 < 16 := Nat.mod_lt _ (by decide)
    rw [digits_succ, JsonText.hexNumber, hexValue_digitChar small]
    simp only [induction, Option.some.injEq]
    rw [Nat.mod_pow_succ, pow_succ]
    ring

theorem parseSimple_digits (id : Uuid) : parseSimple (digits 32 id.val) = some id := by
  have read := hexNumber_digits 32 id.val 0
  have small : id.val % 16 ^ 32 = id.val := Nat.mod_eq_of_lt id.isLt
  rw [Nat.zero_mul, Nat.zero_add, small] at read
  rw [parseSimple, if_pos (by simp [digits]), read]
  simp

/-- Taking the hyphens out again. -/
theorem parseHyphenated_groups (firstLength : first.length = 8)
    (secondLength : second.length = 4) (thirdLength : third.length = 4)
    (fourthLength : fourth.length = 4) (lastLength : last.length = 12) :
    parseHyphenated (first ++ '-' :: second ++ '-' :: third ++ '-' :: fourth ++ '-' :: last) =
      parseSimple (first ++ second ++ third ++ fourth ++ last) := by
  rw [parseHyphenated, if_pos ?_]
  · simp (disch := omega) [drop_append, firstLength, secondLength,
      thirdLength, fourthLength, drop_of_length_le]
  · simp [firstLength, secondLength, thirdLength, fourthLength, lastLength]

theorem parseStr_hyphenated (id : Uuid) : parseStr (Externals.hyphenated id) = some id := by
  have joined : ∀ start count : Nat, ((digits 32 id.val).drop start).take count ++
        (digits 32 id.val).drop (start + count) = (digits 32 id.val).drop start := by
    intro start count
    rw [← drop_drop, take_append_drop]
  have whole : (digits 32 id.val).take 8 ++ ((digits 32 id.val).drop 8).take 4 ++
      ((digits 32 id.val).drop 12).take 4 ++
      ((digits 32 id.val).drop 16).take 4 ++ (digits 32 id.val).drop 20 = digits 32 id.val := by
    simp only [append_assoc]
    rw [joined 16 4, joined 12 4, joined 8 4, take_append_drop]
  have groups : parseHyphenated (Externals.hyphenated id).toList = some id := by
    rw [← parseSimple_digits, ← whole]
    refine Eq.trans (congrArg parseHyphenated String.toList_ofList)
      (parseHyphenated_groups ?_ ?_ ?_ ?_ ?_) <;> simp
  have long : (Externals.hyphenated id).toList.length = 36 := by
    simp [Externals.hyphenated]
  simp only [parseStr, long, groups]
  rfl

theorem hyphenated_injective : Function.Injective Externals.hyphenated := by
  intro left right same
  have read := congrArg parseStr same
  rwa [parseStr_hyphenated, parseStr_hyphenated, Option.some.injEq] at read

end Uuid

end FusionRouter

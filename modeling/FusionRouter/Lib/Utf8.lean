import Mathlib.Data.String.Basic

/-!
# Cutting text at a byte limit

The longest prefix of a text that fits into a number of UTF-8 bytes.  It ends
at a character boundary, and four bytes hold at least one character.
-/

namespace Utf8

/-- The characters that end within the first `limit` bytes. -/
def takeBytes : Nat → List Char → List Char
  | _, [] => []
  | limit, letter :: letters =>
    if letter.utf8Size ≤ limit then
      letter :: takeBytes (limit - letter.utf8Size) letters
    else []

theorem takeBytes_prefix (limit : Nat) (letters : List Char) :
    takeBytes limit letters <+: letters := by
  induction letters generalizing limit with
  | nil => exact List.prefix_rfl
  | cons letter letters ih =>
    rw [takeBytes]
    split
    · exact (List.prefix_cons_inj letter).mpr (ih _)
    · exact List.nil_prefix

theorem utf8Len_takeBytes (limit : Nat) (letters : List Char) :
    String.utf8Len (takeBytes limit letters) ≤ limit := by
  induction letters generalizing limit with
  | nil => exact Nat.zero_le _
  | cons letter letters ih =>
    rw [takeBytes]
    split
    next fits =>
      have rest := ih (limit - letter.utf8Size)
      rw [String.utf8Len_cons]
      omega
    next => exact Nat.zero_le _

theorem takeBytes_ne_nil {limit : Nat} {letters : List Char}
    (holdsOne : 4 ≤ limit) (nonempty : letters ≠ []) : takeBytes limit letters ≠ [] := by
  cases letters with
  | nil => exact (nonempty rfl).elim
  | cons letter letters =>
    have fits : letter.utf8Size ≤ limit := Nat.le_trans letter.utf8Size_le_four holdsOne
    rw [takeBytes, if_pos fits]
    exact List.cons_ne_nil _ _

theorem fromUTF8_toUTF8 (text : String) : String.fromUTF8? text.toUTF8 = some text := by
  rw [String.toUTF8_eq_toByteArray, String.fromUTF8?, dif_pos text.isValidUTF8]
  rfl

end Utf8

import Mathlib.Data.String.Basic
import FusionRouter.Lib.OrderedMap
import FusionRouter.Types.Json

/-!
# Reading JSON texts

The texts that `serde_json` reads.  `Json.read` returns the tree of a text with
the fields of every object as they stand there; what becomes of the tree is up
to the type that is deserialized.  The main result is that reading undoes
writing.
-/

namespace FusionRouter

open List Nat

namespace JsonText

def isSpace (letter : Char) : Bool :=
  letter = ' ' || letter = '\n' || letter = '\t' || letter = '\r'

def skipSpace (text : List Char) : List Char :=
  text.dropWhile isSpace

def expect (word text : List Char) : Option (List Char) :=
  if word.isPrefixOf text then some (text.drop word.length) else none

def hexValue (letter : Char) : Option Nat :=
  if '0' ≤ letter ∧ letter ≤ '9' then some (letter.toNat - 48)
  else if 'a' ≤ letter ∧ letter ≤ 'f' then some (letter.toNat - 87)
  else if 'A' ≤ letter ∧ letter ≤ 'F' then some (letter.toNat - 55)
  else none

/-- The value of hexadecimal digits, the first one highest. -/
def hexNumber : List Char → Nat → Option Nat
  | [], value => some value
  | letter :: rest, value =>
    match hexValue letter with
    | none => none
    | some digit => hexNumber rest (16 * value + digit)

def shortEscape (letter : Char) : Option Char :=
  if letter = '"' then some '"'
  else if letter = '\\' then some '\\'
  else if letter = '/' then some '/'
  else if letter = 'b' then some (Char.ofNat 8)
  else if letter = 'f' then some (Char.ofNat 12)
  else if letter = 'n' then some '\n'
  else if letter = 'r' then some '\r'
  else if letter = 't' then some '\t'
  else none

def isHighSurrogate (unit : Nat) : Bool :=
  decide (0xD800 ≤ unit ∧ unit < 0xDC00)

def isLowSurrogate (unit : Nat) : Bool :=
  decide (0xDC00 ≤ unit ∧ unit < 0xE000)

/-- Put a letter in front of what was read. -/
def push (letter : Char) (result : List Char × List Char) : List Char × List Char :=
  (letter :: result.1, result.2)

/-- The content of a string and the text after it; the opening quote is
read. -/
def readString : List Char → Option (List Char × List Char)
  | [] => none
  | letter :: rest =>
    if letter = '"' then some ([], rest)
    else if letter = '\\' then
      match rest with
      | [] => none
      | kind :: more =>
        if kind = 'u' then
          match more with
          | a :: b :: c :: d :: tail =>
            match hexNumber [a, b, c, d] 0 with
            | none => none
            | some unit =>
              if isHighSurrogate unit then
                match tail with
                | slash :: mark :: e :: f :: g :: h :: last =>
                  if slash = '\\' ∧ mark = 'u' then
                    match hexNumber [e, f, g, h] 0 with
                    | none => none
                    | some low =>
                      if isLowSurrogate low then
                        (readString last).map (push (Char.ofNat
                          (0x10000 + (unit - 0xD800) * 0x400 + (low - 0xDC00))))
                      else none
                  else none
                | _ => none
              else if isLowSurrogate unit then none
              else (readString tail).map (push (Char.ofNat unit))
          | _ => none
        else
          match shortEscape kind with
          | none => none
          | some escaped => (readString more).map (push escaped)
    else if letter.toNat < 32 then none
    else (readString rest).map (push letter)

def isNumberLetter (letter : Char) : Bool :=
  letter.isDigit || letter = '-' || letter = '+' || letter = '.' || letter = 'e' || letter = 'E'

def isWhole (digits : List Char) : Bool :=
  digits != [] && digits.all Char.isDigit && (digits.head? != some '0' || digits.length = 1)

def isExponent (text : List Char) : Bool :=
  match text with
  | [] => false
  | mark :: rest =>
    let digits := if rest.head? = some '+' ∨ rest.head? = some '-' then
      rest.drop 1 else rest
    (mark = 'e' || mark = 'E') && digits != [] && digits.all Char.isDigit

/-- The part of a number after its whole part: a fraction, an exponent or
both. -/
def isFraction (text : List Char) : Bool :=
  if text.head? = some '.' then
    let digits := (text.drop 1).takeWhile Char.isDigit
    let rest := (text.drop 1).dropWhile Char.isDigit
    digits != [] && (rest = [] || isExponent rest)
  else isExponent text

def isFloat (text : List Char) : Bool :=
  isWhole (text.takeWhile Char.isDigit) && isFraction (text.dropWhile Char.isDigit)

/-- What a float writes without its sign rounds to no infinity of `f64`: its
digits are scaled by the exponent, less the number of digits behind the point. -/
def isFinite (token : List Char) : Bool :=
  let mantissa := token.takeWhile fun letter => letter ≠ 'e' ∧ letter ≠ 'E'
  let digits := Nat.ofDigitChars 10 (mantissa.filter Char.isDigit) 0
  let exponent := token.drop (mantissa.length + 1)
  let power := Nat.ofDigitChars 10 (exponent.filter Char.isDigit) 0
  let behind := ((mantissa.dropWhile (· ≠ '.')).drop 1).length
  if exponent.head? = some '-' then digits < (2 ^ 1024 - 2 ^ 970) * 10 ^ (power + behind)
  else digits * 10 ^ power < (2 ^ 1024 - 2 ^ 970) * 10 ^ behind

/-- The number that a token writes.  `-0` is a float. -/
def numberOf (token : List Char) : Option JsonNumber :=
  let kept := if isFinite token then some (JsonNumber.float (String.ofList token)) else none
  if token.head? = some '-' then
    let text := token.drop 1
    if isWhole text then
      let magnitude := Nat.ofDigitChars 10 text 0
      if 0 < magnitude ∧ magnitude ≤ 2 ^ 63 then some (.negative magnitude)
      else kept
    else if isFloat text then kept
    else none
  else if isWhole token then
    let value := Nat.ofDigitChars 10 token 0
    if value ≤ u64Max then some (.unsigned value) else kept
  else if isFloat token then kept
  else none

/-- A number is never followed by one of its own letters in a text that is
accepted, so it ends where they end. -/
def readNumber (text : List Char) : Option (Json × List Char) :=
  (numberOf (text.takeWhile isNumberLetter)).map
    (fun number => (.number number, text.dropWhile isNumberLetter))

mutual

def readValue : Nat → List Char → Option (Json × List Char)
  | 0, _ => none
  | fuel + 1, text =>
    match skipSpace text with
    | [] => none
    | letter :: rest =>
      if letter = 'n' then
        (expect ['u', 'l', 'l'] rest).map (fun rest => (.null, rest))
      else if letter = 't' then
        (expect ['r', 'u', 'e'] rest).map (fun rest => (.bool true, rest))
      else if letter = 'f' then
        (expect ['a', 'l', 's', 'e'] rest).map (fun rest => (.bool false, rest))
      else if letter = '"' then
        (readString rest).map (fun result => (.string (String.ofList result.1), result.2))
      else if letter = '[' then
        match expect [']'] (skipSpace rest) with
        | some rest => some (.array [], rest)
        | none =>
          (readItems fuel rest).map (fun result => (.array result.1, result.2))
      else if letter = '\x7b' then
        match expect ['\x7d'] (skipSpace rest) with
        | some rest => some (.object [], rest)
        | none =>
          (readFields fuel rest).map (fun result => (.object result.1, result.2))
      else readNumber (letter :: rest)

/-- The items of an array that has one, up to the bracket. -/
def readItems : Nat → List Char → Option (List Json × List Char)
  | 0, _ => none
  | fuel + 1, text =>
    match readValue fuel text with
    | none => none
    | some (item, rest) =>
      match skipSpace rest with
      | [] => none
      | mark :: more =>
        if mark = ',' then
          (readItems fuel more).map (fun result => (item :: result.1, result.2))
        else if mark = ']' then some ([item], more)
        else none

/-- The fields of an object that has one, up to the brace. -/
def readFields : Nat → List Char → Option (List (String × Json) × List Char)
  | 0, _ => none
  | fuel + 1, text =>
    match (expect ['"'] (skipSpace text)).bind readString with
    | none => none
    | some (key, afterKey) =>
      match (expect [':'] (skipSpace afterKey)).bind (readValue fuel) with
      | none => none
      | some (value, rest) =>
        match skipSpace rest with
        | [] => none
        | mark :: more =>
          if mark = ',' then
            (readFields fuel more).map (fun result =>
              ((String.ofList key, value) :: result.1, result.2))
          else if mark = '\x7d' then
            some ([(String.ofList key, value)], more)
          else none

end

theorem skipSpace_cons (visible : isSpace letter = false) :
    skipSpace (letter :: rest) = letter :: rest := by
  simp [skipSpace, visible]

theorem expect_append (word rest : List Char) : expect word (word ++ rest) = some rest := by
  simp [expect]

theorem hexNumber_control (small : code < 32) :
    hexNumber ['0', '0', Nat.digitChar (code / 16), Nat.digitChar (code % 16)] 0 = some code := by
  revert code
  decide

theorem readString_short (rest : List Char) (short : shortEscape kind = some escaped) :
    readString ('\\' :: kind :: rest) = (readString rest).map (push escaped) := by
  have other : kind ≠ 'u' := by
    rintro rfl
    cases short
  rw [readString.eq_def]
  simp [short, other]

theorem readString_escape (letter : Char) (rest : List Char) :
    readString (Json.escape letter ++ rest) = (readString rest).map (push letter) := by
  have named : ∀ {kind : Char} {code : Nat}, letter.toNat = code →
      shortEscape kind = some (Char.ofNat code) → readString ('\\' :: kind :: rest) =
        (readString rest).map (push letter) := by
    rintro kind _ rfl short
    rw [readString_short rest short, Char.ofNat_toNat]
  unfold Json.escape
  split
  next quote =>
    subst quote
    exact readString_short rest rfl
  split
  next slash =>
    subst slash
    exact readString_short rest rfl
  split
  next code => exact named code rfl
  split
  next code => exact named code rfl
  split
  next code => exact named code rfl
  split
  next code => exact named code rfl
  split
  next code => exact named code rfl
  split
  next small =>
    have high : isHighSurrogate letter.toNat = false := by
      simp [isHighSurrogate]
      omega
    have low : isLowSurrogate letter.toNat = false := by
      simp [isLowSurrogate]
      omega
    simp [readString, hexNumber_control small, high, low]
  next quote slash _ _ _ _ _ printable =>
    rw [singleton_append, readString.eq_def]
    simp [quote, slash, printable]

theorem readString_quoted (text rest : List Char) :
    readString (text.flatMap Json.escape ++ '"' :: rest) = some (text, rest) := by
  induction text with
  | nil =>
    rw [flatMap_nil, nil_append, readString.eq_def]
    rfl
  | cons letter text induction =>
    rw [flatMap_cons, append_assoc, readString_escape, induction]
    rfl

/-- What may stand after a value: no letter of a number. -/
def Follows (rest : List Char) : Prop :=
  ∀ letter, rest.head? = some letter → isNumberLetter letter = false

theorem readNumber_append (letters : ∀ letter ∈ token, isNumberLetter letter = true)
    (follows : Follows rest) (written : numberOf token = some number) :
    readNumber (token ++ rest) = some (.number number, rest) := by
  have stops : rest.takeWhile isNumberLetter = [] ∧ rest.dropWhile isNumberLetter = rest := by
    cases rest with
    | nil => simp
    | cons letter rest => simp [follows letter rfl]
  simp [readNumber, takeWhile_append_of_pos letters,
    dropWhile_append_of_pos letters, stops, written]

theorem head?_toDigits {number : Nat} (positive : 0 < number) :
    (Nat.toDigits 10 number).head? ≠ some '0' := by
  induction number using Nat.strong_induction_on with
  | _ number induction =>
    by_cases small : number < 10
    · have nonzero : ∀ digit, digit < 10 → 0 < digit → digitChar digit ≠ '0' := by decide
      rw [toDigits_of_lt_base small]
      simpa using nonzero number small positive
    · rw [Nat.toDigits_of_base_le (by decide) (Nat.le_of_not_lt small),
        head?_append_of_ne_nil _ toDigits_ne_nil]
      exact induction (number / 10) (by omega) (by omega)

theorem isWhole_toDigits (number : Nat) : isWhole (Nat.toDigits 10 number) = true := by
  have digits : (toDigits 10 number).all Char.isDigit = true := all_eq_true.mpr fun _ member =>
      isDigit_of_mem_toDigits (by decide) (by decide) member
  rcases Nat.eq_zero_or_pos number with rfl | positive
  · rfl
  · simp [isWhole, digits, head?_toDigits positive, toDigits_ne_nil]

theorem isNumberLetter_toDigits {number : Nat} (member : letter ∈ Nat.toDigits 10 number) :
    isNumberLetter letter = true := by
  simp [isNumberLetter, isDigit_of_mem_toDigits (by decide) (by decide) member]

/-- A number starts with a digit or a sign. -/
def StartsNumber (letter : Char) : Prop :=
  letter = '-' ∨ letter.isDigit = true

theorem startsNumber_of_numberOf (written : numberOf token = some number) :
    ∃ letter rest, token = letter :: rest ∧ StartsNumber letter := by
  cases token with
  | nil => cases written
  | cons letter rest =>
    refine ⟨letter, rest, rfl, ?_⟩
    by_contra other
    obtain ⟨sign, digit⟩ := not_or.mp other
    simp [numberOf, isWhole, isFloat, sign, digit] at written

end JsonText

/-- The numbers of `serde_json`: integers of 64 bits, and floats as they are
written. -/
def JsonNumber.WellFormed : JsonNumber → Prop
  | .unsigned value => value ≤ u64Max
  | .negative magnitude => 0 < magnitude ∧ magnitude ≤ 2 ^ 63
  | .float text =>
    (∀ letter, letter ∈ text.toList → JsonText.isNumberLetter letter = true) ∧
    JsonText.numberOf text.toList = some (.float text)

namespace Json

/-- What every `serde_json::Value` is: its objects are B-tree maps and its
numbers are in range. -/
inductive WellFormed : Json → Prop where
  | null : WellFormed .null
  | bool (value : Bool) : WellFormed (.bool value)
  | number {value : JsonNumber} (valid : value.WellFormed) :
      WellFormed (.number value)
  | string (value : String) : WellFormed (.string value)
  | array {items : List Json} (each : ∀ item, item ∈ items → WellFormed item) :
      WellFormed (.array items)
  | object {fields : List (String × Json)} (ordered : OrderedMap.Ordered fields)
      (each : ∀ entry, entry ∈ fields → WellFormed entry.2) :
      WellFormed (.object fields)

/-- The numbers of a tree are in range; its objects may repeat keys. -/
inductive NumbersValid : Json → Prop where
  | null : NumbersValid .null
  | bool (value : Bool) : NumbersValid (.bool value)
  | number {value : JsonNumber} (valid : value.WellFormed) :
      NumbersValid (.number value)
  | string (value : String) : NumbersValid (.string value)
  | array {items : List Json} (each : ∀ item, item ∈ items → NumbersValid item) :
      NumbersValid (.array items)
  | object {fields : List (String × Json)} (each : ∀ entry, entry ∈ fields → NumbersValid entry.2) :
      NumbersValid (.object fields)

theorem wellFormed_empty : (Json.object []).WellFormed :=
  .object List.Pairwise.nil (by simp)

attribute [simp] NumbersValid.null NumbersValid.string

@[simp]
theorem numbersValid_unsigned_iff :
    (Json.number (.unsigned value)).NumbersValid ↔ value ≤ u64Max := by
  constructor
  · intro numbers
    cases numbers with
    | number valid => exact valid
  · exact fun valid => .number valid

@[simp]
theorem numbersValid_array_iff :
    (Json.array items).NumbersValid ↔ ∀ item ∈ items, item.NumbersValid := by
  constructor
  · intro numbers
    cases numbers with
    | array each => exact each
  · exact .array

@[simp]
theorem numbersValid_object_iff :
    (Json.object fields).NumbersValid ↔ ∀ entry ∈ fields, entry.2.NumbersValid := by
  constructor
  · intro numbers
    cases numbers with
    | object each => exact each
  · exact .object

/-- Induction over values, with the hypothesis for every item and every
field. -/
theorem inductionOn {motive : Json → Prop} (null : motive .null)
    (bool : ∀ value, motive (.bool value)) (number : ∀ value, motive (.number value))
    (string : ∀ value, motive (.string value))
    (array : ∀ items, (∀ item ∈ items, motive item) → motive (.array items))
    (object : ∀ fields : List (String × Json),
      (∀ entry ∈ fields, motive entry.2) → motive (.object fields))
    (value : Json) : motive value := by
  refine @Json.rec motive (fun items => ∀ item ∈ items, motive item)
    (fun fields => ∀ entry ∈ fields, motive entry.2)
    (fun entry => motive entry.2) null bool number string array object ?_ ?_ ?_ ?_ ?_ value
  · intro item member
    cases member
  · intro head tail first rest
    exact forall_mem_cons.mpr ⟨first, rest⟩
  · intro entry member
    cases member
  · intro head tail first rest
    exact forall_mem_cons.mpr ⟨first, rest⟩
  · intro key value holds
    exact holds

theorem WellFormed.numbersValid {value : Json}
    (wellFormed : value.WellFormed) : value.NumbersValid := by
  induction wellFormed with
  | null => exact .null
  | bool value => exact .bool value
  | number valid => exact .number valid
  | string value => exact .string value
  | array each induction => exact .array induction
  | object ordered each induction => exact .object induction

end Json

namespace JsonText

open Json (compact compactItems compactFields commas escape quote)

theorem numberText_read (valid : number.WellFormed) :
    numberOf (Json.number number).compact.toList = some number ∧
      ∀ letter ∈ (Json.number number).compact.toList, isNumberLetter letter = true := by
  cases number with
  | unsigned value =>
    have text : (Json.number (.unsigned value)).compact.toList = toDigits 10 value := by
      simp [compact]
    rw [text]
    refine ⟨?_, fun letter => isNumberLetter_toDigits⟩
    have plain : (toDigits 10 value).head? ≠ some '-' := by
      intro minus
      have digit := isDigit_of_mem_toDigits (by decide) (by decide) (mem_of_mem_head? minus)
      cases digit
    have bound : value ≤ u64Max := valid
    simp [numberOf, plain, isWhole_toDigits, bound, ofDigitChars_toDigits]
  | negative magnitude =>
    have text : (Json.number (.negative magnitude)).compact.toList =
        '-' :: toDigits 10 magnitude := by
      simp [compact]
    rw [text]
    refine ⟨?_, ?_⟩
    · have bounds : 0 < magnitude ∧ magnitude ≤ 2 ^ 63 := valid
      simp only [numberOf, head?_cons, drop_one, tail_cons, isWhole_toDigits, if_true]
      rw [ofDigitChars_toDigits (by decide) (by decide), if_pos bounds]
    · intro letter member
      rcases mem_cons.mp member with rfl | digit
      · rfl
      · exact isNumberLetter_toDigits digit
  | float text => exact ⟨valid.2, valid.1⟩

variable {value : Json}

theorem isSpace_of_startsNumber (starts : StartsNumber letter) : isSpace letter = false := by
  by_contra space
  simp only [isSpace, Bool.or_eq_true, decide_eq_true_eq, or_assoc, Bool.not_eq_false] at space
  rcases space with rfl | rfl | rfl | rfl <;> simp [StartsNumber] at starts

theorem readValue_number (fuel : Nat) (rest : List Char) (starts : StartsNumber letter) :
    readValue (fuel + 1) (letter :: rest) = readNumber (letter :: rest) := by
  have differs : ∀ other : Char, ¬ StartsNumber other → letter ≠ other := by
    rintro other refused rfl
    exact refused starts
  have n := differs 'n' (by simp [StartsNumber])
  have t := differs 't' (by simp [StartsNumber])
  have f := differs 'f' (by simp [StartsNumber])
  have quote := differs '"' (by simp [StartsNumber])
  have bracket := differs '[' (by simp [StartsNumber])
  have brace := differs '\x7b' (by simp [StartsNumber])
  simp [readValue, skipSpace_cons (isSpace_of_startsNumber starts), n, t, f, quote, bracket, brace]

/-- The text of the value is read as the value, whatever stands after it. -/
def Reads (value : Json) : Prop :=
  ∀ (fuel : Nat) (rest : List Char), 2 * value.compact.toList.length ≤ fuel → Follows rest →
      readValue fuel (value.compact.toList ++ rest) = some (value, rest)

theorem follows_cons (rest : List Char) (other : isNumberLetter mark = false) :
    Follows (mark :: rest) := by
  intro letter head
  cases head
  exact other

theorem string_text (content : String) :
    (Json.string content).compact.toList =
      '"' :: (content.toList.flatMap escape ++ ['"']) := by
  simp [compact, quote]

theorem array_text (items : List Json) :
    (Json.array items).compact.toList =
      '[' :: ((commas (compactItems items)).toList ++ [']']) := by
  simp [compact]

theorem object_text (fields : List (String × Json)) :
    (Json.object fields).compact.toList =
      '\x7b' :: ((commas (compactFields fields)).toList ++ ['\x7d']) := by
  simp [compact]

/-- The first letter of a text is neither a space nor a closing bracket. -/
theorem compact_starts (numbers : value.NumbersValid) :
    ∃ letter rest, value.compact.toList = letter :: rest ∧
      isSpace letter = false ∧ letter ≠ ']' := by
  cases numbers with
  | null => exact ⟨_, _, rfl, rfl, by decide⟩
  | bool flag => cases flag <;> exact ⟨_, _, rfl, rfl, by decide⟩
  | number valid =>
    obtain ⟨letter, rest, text, starts⟩ := startsNumber_of_numberOf (numberText_read valid).1
    refine ⟨letter, rest, text, isSpace_of_startsNumber starts, ?_⟩
    rintro rfl
    simp [StartsNumber] at starts
  | string content => exact ⟨_, _, string_text content, rfl, by decide⟩
  | array each => exact ⟨_, _, array_text _, rfl, by decide⟩
  | object each => exact ⟨_, _, object_text _, rfl, by decide⟩

theorem items_text (item second : Json) (more : List Json) :
    (commas (compactItems (item :: second :: more))).toList =
      item.compact.toList ++ ',' :: (commas (compactItems (second :: more))).toList := by
  simp [compactItems, commas]

theorem readItems_step (read : readValue fuel text = some (item, mark :: more))
    (visible : isSpace mark = false) :
    readItems (fuel + 1) text = if mark = ',' then
        (readItems fuel more).map (fun result => (item :: result.1, result.2))
      else if mark = ']' then some ([item], more)
      else none := by
  simp [readItems, read, skipSpace_cons visible]

theorem readItems_compact (each : ∀ item ∈ items, Reads item)
    (nonempty : items ≠ []) (fuel : Nat) (rest : List Char)
    (enough : 2 * (commas (compactItems items)).toList.length < fuel) :
    readItems fuel ((commas (compactItems items)).toList ++
      ']' :: rest) = some (items, rest) := by
  induction items generalizing fuel with
  | nil => exact (nonempty rfl).elim
  | cons item items induction =>
    obtain ⟨fuel, rfl⟩ := Nat.exists_add_one_eq.mpr (Nat.zero_lt_of_lt enough)
    have first := each item List.mem_cons_self
    cases items with
    | nil =>
      change 2 * item.compact.toList.length < fuel + 1 at enough
      have read := first fuel (']' :: rest) (by omega) (follows_cons rest rfl)
      exact readItems_step read rfl
    | cons second more =>
      rw [items_text, List.append_assoc, List.cons_append]
      rw [items_text, List.length_append, List.length_cons] at enough
      have read := first fuel (',' :: ((commas (compactItems
        (second :: more))).toList ++ ']' :: rest)) (by omega) (follows_cons _ rfl)
      have later := induction (fun item member => each item (List.mem_cons_of_mem _ member))
        (by simp) fuel (by omega)
      rw [readItems_step read rfl, if_pos rfl, later]
      rfl

theorem fields_text (key : String) (value : Json)
    (second : String × Json) (more : List (String × Json)) :
    (commas (compactFields ((key, value) :: second :: more))).toList =
      '"' :: (key.toList.flatMap escape ++ '"' :: ':' ::
        (value.compact.toList ++ ',' ::
          (commas (compactFields (second :: more))).toList)) := by
  simp [compactFields, commas, quote]

theorem lastField_text (key : String) (value : Json) :
    (commas (compactFields [(key, value)])).toList =
      '"' :: (key.toList.flatMap escape ++ '"' :: ':' :: value.compact.toList) := by
  simp [compactFields, commas, quote]

theorem readFields_step (read : readValue fuel text = some (value, mark :: more))
    (visible : isSpace mark = false) :
    readFields (fuel + 1) ('"' :: (key.toList.flatMap escape ++
        '"' :: ':' :: text)) = if mark = ',' then
        (readFields fuel more).map (fun result => ((key, value) :: result.1, result.2))
      else if mark = '\x7d' then some ([(key, value)], more)
      else none := by
  have quote : ∀ rest, expect ['"'] (skipSpace ('"' :: rest)) = some rest := by
    intro rest
    rw [skipSpace_cons rfl]
    exact expect_append ['"'] rest
  have colon : ∀ rest, expect [':'] (skipSpace (':' :: rest)) = some rest := by
    intro rest
    rw [skipSpace_cons rfl]
    exact expect_append [':'] rest
  simp [readFields, quote, colon, readString_quoted, read, skipSpace_cons visible]

theorem readFields_compact (each : ∀ entry ∈ fields, Reads entry.2)
    (nonempty : fields ≠ []) (fuel : Nat) (rest : List Char)
    (enough : 2 * (commas (compactFields fields)).toList.length < fuel) :
    readFields fuel ((commas (compactFields fields)).toList ++
      '\x7d' :: rest) = some (fields, rest) := by
  induction fields generalizing fuel with
  | nil => exact (nonempty rfl).elim
  | cons entry fields induction =>
    obtain ⟨key, value⟩ := entry
    obtain ⟨fuel, rfl⟩ := exists_add_one_eq.mpr (zero_lt_of_lt enough)
    have first : Reads value := each (key, value) mem_cons_self
    cases fields with
    | nil =>
      rw [lastField_text] at enough ⊢
      simp only [length_cons, length_append] at enough
      simp only [cons_append, append_assoc]
      have read := first fuel ('\x7d' :: rest) (by omega) (follows_cons rest rfl)
      exact readFields_step read rfl
    | cons second more =>
      rw [fields_text] at enough ⊢
      simp only [length_cons, length_append] at enough
      simp only [cons_append, append_assoc]
      have read := first fuel (',' :: ((commas (compactFields
        (second :: more))).toList ++ '\x7d' :: rest)) (by omega) (follows_cons _ rfl)
      have later := induction (fun entry member => each entry (mem_cons_of_mem _ member))
        (by simp) fuel (by omega)
      rw [readFields_step read rfl, if_pos rfl, later]
      rfl

theorem readValue_array {rest : List Char} (more : expect [']'] (skipSpace text) = none)
    (read : readItems fuel text = some (items, rest)) :
    readValue (fuel + 1) ('[' :: text) = some (.array items, rest) := by
  have bracket : skipSpace ('[' :: text) = '[' :: text := skipSpace_cons rfl
  simp [readValue, bracket, more, read]

theorem readValue_object (more : expect ['\x7d'] (skipSpace text) = none)
    (read : readFields fuel text = some (fields, rest)) :
    readValue (fuel + 1) ('\x7b' :: text) = some (.object fields, rest) := by
  have brace : skipSpace ('\x7b' :: text) = '\x7b' :: text := skipSpace_cons rfl
  simp [readValue, brace, more, read]

theorem expect_of_ne (rest : List Char) (visible : isSpace letter = false)
    (different : letter ≠ mark) : expect [mark] (skipSpace (letter :: rest)) = none := by
  rw [skipSpace_cons visible]
  simp [expect, different.symm]

theorem reads_array (valid : ∀ item ∈ items, item.NumbersValid)
    (each : ∀ item ∈ items, Reads item) : Reads (.array items) := by
  intro fuel rest enough _
  rw [array_text] at enough ⊢
  obtain ⟨fuel, rfl⟩ := exists_add_one_eq.mpr (lt_of_lt_of_le (by simp) enough)
  simp only [length_cons, length_append, length_nil] at enough
  simp only [cons_append, append_assoc, nil_append]
  cases items with
  | nil => rfl
  | cons item items =>
    obtain ⟨letter, text, starts, visible, different⟩ := compact_starts (valid item mem_cons_self)
    refine readValue_array ?_ (readItems_compact each (by simp) fuel rest (by omega))
    cases items with
    | nil =>
      simp only [compactItems, commas, starts, cons_append]
      exact expect_of_ne _ visible different
    | cons second more =>
      rw [items_text, starts, cons_append, cons_append]
      exact expect_of_ne _ visible different

theorem reads_object (each : ∀ entry ∈ fields, Reads entry.2) : Reads (.object fields) := by
  intro fuel rest enough _
  rw [object_text] at enough ⊢
  obtain ⟨fuel, rfl⟩ := exists_add_one_eq.mpr (lt_of_lt_of_le (by simp) enough)
  simp only [length_cons, length_append, length_nil] at enough
  simp only [cons_append, append_assoc, nil_append]
  cases fields with
  | nil => rfl
  | cons entry fields =>
    obtain ⟨key, value⟩ := entry
    refine readValue_object ?_ (readFields_compact each (by simp) fuel rest (by omega))
    cases fields with
    | nil =>
      rw [lastField_text]
      exact expect_of_ne _ rfl (by decide)
    | cons second more =>
      rw [fields_text]
      exact expect_of_ne _ rfl (by decide)

theorem reads (numbers : value.NumbersValid) : Reads value := by
  induction numbers with
  | null =>
    intro fuel rest enough _
    obtain ⟨fuel, rfl⟩ := Nat.exists_eq_add_of_le enough
    rw [add_comm]
    rfl
  | bool value =>
    intro fuel rest enough _
    obtain ⟨fuel, rfl⟩ := Nat.exists_eq_add_of_le enough
    rw [add_comm]
    cases value <;> rfl
  | number valid =>
    intro fuel rest enough follows
    obtain ⟨written, letters⟩ := numberText_read valid
    obtain ⟨letter, text, starts, first⟩ := startsNumber_of_numberOf written
    have read := readNumber_append letters follows written
    rw [starts] at enough read ⊢
    obtain ⟨fuel, rfl⟩ := exists_add_one_eq.mpr (lt_of_lt_of_le (by simp) enough)
    rw [cons_append] at read ⊢
    rw [readValue_number fuel _ first, read]
  | string value =>
    intro fuel rest enough _
    rw [string_text] at enough ⊢
    obtain ⟨fuel, rfl⟩ := exists_add_one_eq.mpr (lt_of_lt_of_le (by simp) enough)
    have quote : ∀ text, skipSpace ('"' :: text) = '"' :: text := fun _ => skipSpace_cons rfl
    simp [readValue, quote, readString_quoted]
  | array each induction => exact reads_array each induction
  | object each induction => exact reads_object induction

end JsonText

/-- The tree of a text that holds one value and nothing else.  Every round of
the reader but the first consumes a letter, at most one in two does not. -/
def Json.read (text : String) : Option Json :=
  match JsonText.readValue (2 * text.toList.length + 2) text.toList with
  | none => none
  | some (value, rest) =>
    if JsonText.skipSpace rest = [] then some value else none

theorem Json.read_compact (numbers : value.NumbersValid) : read value.compact = some value := by
  have found := JsonText.reads numbers
    (2 * value.compact.toList.length + 2) [] (by omega) (by simp [JsonText.Follows])
  rw [append_nil] at found
  simp [read, found, JsonText.skipSpace]

end FusionRouter

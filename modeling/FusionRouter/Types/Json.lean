import Mathlib.Data.Fintype.Card
import Mathlib.Data.Nat.Cast.Basic

/-!
# Identifiers, JSON values and hash tables

The value types every crate of the workspace shares.  A hash map is the
function that looks its keys up: nothing in the modelled code depends on more
than lookups, insertions and, where it iterates, on an order that the standard
library leaves open.
-/

namespace FusionRouter

/-- A UUID.  Its order is the byte order of the 128-bit value. -/
abbrev Uuid := Fin (2 ^ 128)

-- named, so that every module that writes or compares ids refers to the same two proofs
instance Uuid.instNeZero : NeZero (2 ^ 128) :=
  ⟨by decide⟩

instance Uuid.instLawfulBEq : LawfulBEq Uuid :=
  inferInstance

/-- The largest `u64`. -/
abbrev u64Max : Nat := 2 ^ 64 - 1

def saturatingAdd (left right : Nat) : Nat :=
  min (left + right) u64Max

def saturatingMul (left right : Nat) : Nat :=
  min (left * right) u64Max

theorem saturatingAdd_of_lt (small : left + right ≤ u64Max) :
    saturatingAdd left right = left + right := Nat.min_eq_left small

theorem saturatingAdd_le (left right : Nat) :
    saturatingAdd left right ≤ u64Max := Nat.min_le_right _ _

/-- A hash map seen through its lookups. -/
abbrev Table (κ ν : Type) := κ → Option ν

namespace Table

variable {κ ν : Type}

def empty : Table κ ν :=
  fun _ => none

def insert [DecidableEq κ] (table : Table κ ν) (key : κ) (value : ν) : Table κ ν :=
  fun other => if other = key then some value else table other

@[simp] theorem insert_same [DecidableEq κ] (table : Table κ ν) (key : κ) (value : ν) :
    table.insert key value key = some value := by
  simp [insert]

theorem insert_of_ne [DecidableEq κ] (table : Table κ ν) (value : ν)
    (different : other ≠ key) : table.insert key value other = table other := by
  simp [insert, different]

theorem insert_apply [DecidableEq κ] (table : Table κ ν) (key other : κ) (value : ν) :
    table.insert key value other = if other = key then some value else table other := rfl

def remove [DecidableEq κ] (table : Table κ ν) (key : κ) : Table κ ν :=
  fun other => if other = key then none else table other

theorem remove_apply [DecidableEq κ] (table : Table κ ν) (key other : κ) :
    table.remove key other = if other = key then none else table other := rfl

theorem foldl_insert_apply [DecidableEq κ] (keys : List κ) (value : ν)
    (table : Table κ ν) (other : κ) :
    keys.foldl (fun table key => insert table key value) table other =
      if other ∈ keys then some value else table other := by
  induction keys generalizing table with
  | nil => simp
  | cons key keys ih =>
    rw [List.foldl_cons, ih]
    by_cases later : other ∈ keys
    · simp [later]
    · by_cases same : other = key <;> simp [insert_apply, later, same]

end Table

/-- A JSON number.  A float, and an integer that fits neither a `u64` nor an
`i64`, is held by its text, where the source holds the `f64` that it reads. -/
inductive JsonNumber where
  | unsigned (value : Nat)
  | negative (magnitude : Nat)
  | float (text : String)
deriving Repr, DecidableEq

/-- `serde_json::Value`. -/
inductive Json where
  | null
  | bool (value : Bool)
  | number (value : JsonNumber)
  | string (value : String)
  | array (items : List Json)
  | object (fields : List (String × Json))
deriving Repr

namespace Json

def asU64 : Json → Option Nat
  | .number (.unsigned value) => if value ≤ u64Max then some value else none
  | _ => none

def asStr : Json → Option String
  | .string value => some value
  | _ => none

def asBool : Json → Option Bool
  | .bool value => some value
  | _ => none

def asArray : Json → Option (List Json)
  | .array items => some items
  | _ => none

/-- `Value::get` with a string key. -/
def get (key : String) : Json → Option Json
  | .object fields => fields.lookup key
  | _ => none

/-- How `serde_json` writes one character of a string. -/
def escape (letter : Char) : List Char :=
  if letter = '"' then ['\\', '"']
  else if letter = '\\' then ['\\', '\\']
  else if letter.toNat = 8 then ['\\', 'b']
  else if letter.toNat = 9 then ['\\', 't']
  else if letter.toNat = 10 then ['\\', 'n']
  else if letter.toNat = 12 then ['\\', 'f']
  else if letter.toNat = 13 then ['\\', 'r']
  else if letter.toNat < 32 then
    ['\\', 'u', '0', '0', Nat.digitChar (letter.toNat / 16), Nat.digitChar (letter.toNat % 16)]
  else [letter]

def quote (text : String) : String :=
  "\"" ++ String.ofList (text.toList.flatMap escape) ++ "\""

def commas : List String → String
  | [] => ""
  | [last] => last
  | first :: rest => first ++ "," ++ commas rest

mutual

def compact : Json → String
  | .null => "null"
  | .bool value => toString value
  | .number (.unsigned value) => toString value
  | .number (.negative magnitude) => "-" ++ toString magnitude
  | .number (.float text) => text
  | .string value => quote value
  | .array items => "[" ++ commas (compactItems items) ++ "]"
  | .object fields => "\x7b" ++ commas (compactFields fields) ++ "\x7d"

def compactItems : List Json → List String
  | [] => []
  | item :: items => compact item :: compactItems items

def compactFields : List (String × Json) → List String
  | [] => []
  | (key, value) :: fields =>
    (quote key ++ ":" ++ compact value) :: compactFields fields

end

end Json

/-- What the code takes from the `uuid` and `serde_json` crates, and the
iteration order of hash tables, which the standard library leaves open. -/
structure Externals where
  /-- `Uuid::new_v5`. -/
  uuidV5 : Uuid → String → Uuid
  /-- The namespace `Uuid::NAMESPACE_URL`. -/
  namespaceUrl : Uuid
  /-- `Display` of a UUID. -/
  uuidText : Uuid → String
  /-- `Debug` of a string. -/
  debugText : String → String
  /-- `Display` of a JSON value. -/
  jsonText : Json → String
  /-- The order in which a hash table with these keys is walked. -/
  hashOrder : List Uuid → List Uuid
  hashOrder_perm : ∀ keys, (hashOrder keys).Perm keys

namespace Externals

/-- The hyphenated lower-case form of a UUID. -/
def hyphenated (id : Uuid) : String :=
  let digits := (List.range 32).map
    (fun position => Nat.digitChar (id.val / 16 ^ (31 - position) % 16))
  String.ofList (digits.take 8 ++ '-' :: (digits.drop 8).take 4 ++
    '-' :: (digits.drop 12).take 4 ++ '-' :: (digits.drop 16).take 4 ++ '-' :: digits.drop 20)

def quoted (text : String) : String :=
  "\"" ++ text ++ "\""

/-- A sample of the external behaviour: tables are walked in list order, and
`Debug` is that of strings without escapes. -/
def sample (uuidV5 : Uuid → String → Uuid) : Externals :=
  { uuidV5 := uuidV5
    namespaceUrl := 0x6ba7b8119dad11d180b400c04fd430c8
    uuidText := hyphenated
    debugText := quoted
    jsonText := Json.compact
    hashOrder := id
    hashOrder_perm := fun _ => .rfl }

end Externals

end FusionRouter

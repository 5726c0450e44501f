import FusionRouter.Types.JsonValue

/-!
# Deserializing

What `serde` makes of a JSON tree for the types that several crates share: an
enumeration without data, a map from strings to strings, and a struct by its
fields.
-/

namespace FusionRouter

/-- An enumeration without data: the name of a variant, alone or as the only
key of an object with the value `null`. -/
def Json.variant {α : Type} (names : List (String × α)) : Json → Option α
  | .string name => names.lookup name
  | .object [(name, .null)] => names.lookup name
  | _ => none

/-- The tree of a text, with the fields of every object as they stand
there. -/
structure JsonTree where
  json : Json
  numbers : json.NumbersValid

namespace JsonTree

def read (text : String) : Option JsonTree :=
  (Json.read text).pbind (fun json found => some ⟨json, (Json.read_valid found).1⟩)

theorem read_compact {json : Json} (numbers : json.NumbersValid) :
    read json.compact = some ⟨json, numbers⟩ :=
  Option.pbind_eq_some_iff.mpr ⟨json, Json.read_compact numbers, rfl⟩

def string (tree : JsonTree) : Option String :=
  tree.json.asStr

/-- An unsigned integer up to a bound. -/
def unsigned (bound : Nat) (tree : JsonTree) : Option Nat :=
  (tree.json.asU64).filter (fun value => value ≤ bound)

def items : JsonTree → Option (List JsonTree)
  | ⟨.array items, numbers⟩ =>
    some (items.pmap JsonTree.mk (Json.numbersValid_array_iff.mp numbers))
  | _ => none

def fields : JsonTree → Option (List (String × JsonTree))
  | ⟨.object fields, numbers⟩ =>
    some (fields.pmap (fun entry valid => (entry.1, ⟨entry.2, valid⟩))
      (Json.numbersValid_object_iff.mp numbers))
  | _ => none

/-- `Vec<T>`. -/
def vector {α : Type} (element : JsonTree → Option α) (tree : JsonTree) : Option (List α) :=
  tree.items.bind (List.mapM element)

/-- `Option<T>`, which is `None` for `null` and for a missing field. -/
def optional {α : Type} (content : JsonTree → Option α) :
    Option JsonTree → Option (Option α)
  | none => some none
  | some ⟨.null, _⟩ => some none
  | some tree => (content tree).map some

/-- The field of this name; a struct may not have it twice. -/
def field (fields : List (String × JsonTree)) (name : String) : Option (Option JsonTree) :=
  match fields.filter (fun entry => entry.1 = name) with
  | [] => some none
  | [entry] => some (some entry.2)
  | _ => none

/-- The fields of a struct, from an object or from an array with all of them.
With `deny_unknown_fields` an object has no others. -/
def struct (names : List String) (denyUnknown : Bool) (tree : JsonTree) :
    Option (List (Option JsonTree)) :=
  match tree.fields, tree.items with
  | some fields, _ =>
    if denyUnknown ∧ fields.any (fun entry => entry.1 ∉ names) then none
    else names.mapM (field fields)
  | none, some items =>
    if items.length = names.length then some (items.map some) else none
  | none, none => none

end JsonTree

/-- `HashMap<String, String>`, by its entries in the order of their keys. -/
structure StringMap where
  entries : List (String × String)
  ordered : OrderedMap.Ordered entries
deriving DecidableEq

namespace StringMap

def empty : StringMap :=
  ⟨[], List.Pairwise.nil⟩

def insert (map : StringMap) (key value : String) : StringMap :=
  ⟨OrderedMap.insert key value map.entries, map.ordered.insert key value⟩

def textOf (walk : List (String × String)) : String :=
  (Json.object (walk.map (fun entry => (entry.1, .string entry.2)))).compact

/-- The later of two entries with one key counts. -/
def readEntries : List (String × Json) → StringMap → Option StringMap
  | [], map => some map
  | (key, .string value) :: fields, map =>
    readEntries fields (map.insert key value)
  | _ :: _, _ => none

/-- `serde_json::from_str::<HashMap<String, String>>`. -/
def fromStr (text : String) : Option StringMap :=
  match Json.read text with
  | some (.object fields) => readEntries fields empty
  | _ => none

theorem ext_lookup {left right : StringMap}
    (agree : ∀ key, left.entries.lookup key = right.entries.lookup key) : left = right := by
  obtain ⟨leftEntries, leftOrdered⟩ := left
  obtain ⟨rightEntries, rightOrdered⟩ := right
  obtain rfl : leftEntries = rightEntries := leftOrdered.ext rightOrdered agree
  rfl

variable {walk : List (String × String)}

theorem readEntries_strings (distinct : walk.Pairwise (fun left right => left.1 ≠ right.1))
    (map : StringMap) :
    ∃ result, readEntries (walk.map (fun entry => (entry.1, .string entry.2))) map =
        some result ∧ ∀ key, result.entries.lookup key =
        (walk.lookup key).or (map.entries.lookup key) := by
  induction walk generalizing map with
  | nil => exact ⟨map, rfl, fun _ => rfl⟩
  | cons entry walk induction =>
    obtain ⟨first, value⟩ := entry
    obtain ⟨apart, rest⟩ := List.pairwise_cons.mp distinct
    obtain ⟨result, read, lookups⟩ := induction rest (map.insert first value)
    refine ⟨result, read, ?_⟩
    intro key
    rw [lookups, List.lookup_cons]
    by_cases same : key = first
    · subst same
      have absent : walk.lookup key = none := by
        rw [List.lookup_eq_none_iff]
        intro entry member
        exact bne_iff_ne.mpr (apart entry member)
      simp [absent, insert, OrderedMap.lookup_insert_same]
    · rw [beq_false_of_ne same]
      simp only [insert, OrderedMap.lookup_insert_of_ne same]

/-- A map is read back in whatever order it was walked. -/
theorem fromStr_textOf (map : StringMap) (permuted : walk.Perm map.entries) :
    fromStr (textOf walk) = some map := by
  have distinct : walk.Pairwise (fun left right => left.1 ≠ right.1) := by
    refine (permuted.pairwise_iff ?_).mpr map.ordered.distinct
    intro left right different
    exact different.symm
  have text : Json.read (textOf walk) = some (Json.object
      (walk.map (fun entry => (entry.1, .string entry.2)))) := by
    refine Json.read_compact (.object ?_)
    intro entry member
    obtain ⟨original, -, rfl⟩ := List.mem_map.mp member
    exact .string _
  obtain ⟨result, read, lookups⟩ := readEntries_strings distinct empty
  rw [fromStr, text]
  refine read.trans (congrArg some (ext_lookup ?_))
  intro key
  rw [lookups]
  refine Option.ext (fun value => ?_)
  simp only [empty, List.lookup_nil, Option.or_none,
    OrderedMap.lookup_eq_some_iff distinct, map.ordered.lookup_eq_some_iff, permuted.mem_iff]

end StringMap

end FusionRouter

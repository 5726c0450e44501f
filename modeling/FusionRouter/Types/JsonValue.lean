import FusionRouter.Types.JsonText

/-!
# JSON values

`serde_json::Value` as a type of its own: a tree whose objects are B-tree maps
and whose numbers are in range.  Every text that is read gives one, and every
one that is written is read back, up to the nesting that the reader allows.
-/

namespace FusionRouter

namespace JsonText

theorem wellFormed_of_numberOf (letters : ∀ letter ∈ token, isNumberLetter letter = true)
    (written : numberOf token = some number) : number.WellFormed := by
  have kept : (if isFinite token then some (JsonNumber.float (String.ofList token)) else none) =
      some number → number.WellFormed := by
    intro read
    split at read
    · cases read
      exact ⟨by simpa using letters, by simpa using written⟩
    · cases read
  have found := written
  unfold numberOf at found
  dsimp only at found
  split at found
  · split at found
    · split at found
      next bounds =>
        cases found
        exact bounds
      · exact kept found
    · split at found
      · exact kept found
      · cases found
  · split at found
    · split at found
      next bound =>
        cases found
        exact bound
      · exact kept found
    · split at found
      · exact kept found
      · cases found

/-- Where a text ends.  Outside of its strings JSON has no backtick. -/
inductive Place where
  | outside
  | inside
  | escaped
  | broken

def Place.next : Place → Char → Place
  | outside, letter => if letter = '"' then inside else if letter = '`' then broken else outside
  | inside, letter => if letter = '"' then outside else if letter = '\\' then escaped else inside
  | escaped, _ => inside
  | broken, _ => broken

open Place

def place (text : List Char) : Place :=
  text.foldl next outside

theorem place_dropWhile {p : Char → Bool} (quote : p '"' = false) (tick : p '`' = false)
    (text : List Char) : place (text.dropWhile p) = place text := by
  induction text with
  | nil => rfl
  | cons letter text induction =>
    rw [List.dropWhile_cons]
    split
    next passed =>
      have plain : letter ≠ '"' ∧ letter ≠ '`' := by
        constructor <;> rintro rfl <;> simp_all
      simpa [place, next, plain] using induction
    · rfl

theorem place_skipSpace (text : List Char) : place (skipSpace text) = place text :=
  place_dropWhile rfl rfl text

theorem expect_eq (found : expect word text = some rest) : text = word ++ rest := by
  unfold expect at found
  split at found
  next starts =>
    cases found
    obtain ⟨tail, rfl⟩ := List.isPrefixOf_iff_prefix.mp starts
    simp
  · cases found

theorem hexNumber_plain (number : hexNumber digits value = some unit) :
    ∀ digit ∈ digits, digit ≠ '"' ∧ digit ≠ '\\' := by
  fun_induction hexNumber digits value with
  | case1 => simp
  | case2 => cases number
  | case3 letter digits value digit found induction =>
    have plain : letter ≠ '"' ∧ letter ≠ '\\' := by
      constructor <;> rintro rfl <;> cases found
    simpa [plain] using induction number

theorem readString_place (text : List Char) :
    ∀ rest ∈ (readString text).map Prod.snd, text.foldl next inside = place rest := by
  fun_induction readString text with
  | case6 _ _ _ _ _ high _ _ _ _ _ _ _ _ escape _ low _ _ induction =>
    simpa [Function.comp_def, next, place, push, escape, hexNumber_plain high, hexNumber_plain low]
      using induction
  | case11 _ _ _ _ _ _ code _ _ _ induction =>
    simpa [Function.comp_def, next, place, push, hexNumber_plain code] using induction
  | case14 _ _ _ _ _ _ induction =>
    simpa [Function.comp_def, next, place, push] using induction
  | case16 _ _ quote slash _ induction =>
    simpa [Function.comp_def, next, place, push, quote, slash] using induction
  | _ => simp_all [place, next]

theorem readNumber_valid (read : readNumber text = some (value, rest)) :
    value.NumbersValid ∧ place text = place rest := by
  obtain ⟨number, written, same⟩ := Option.map_eq_some_iff.mp read
  cases same
  refine ⟨.number (wellFormed_of_numberOf ?_ written), (place_dropWhile rfl rfl _).symm⟩
  intro letter member
  exact List.all_eq_true.mp List.all_takeWhile letter member

/-- What the three readers return with this fuel has valid numbers, and they
stop where they begin, outside of strings. -/
structure ReadsValid (fuel : Nat) : Prop where
  value : ∀ {text value rest}, readValue fuel text = some (value, rest) →
    value.NumbersValid ∧ place text = place rest
  items : ∀ {text items rest}, readItems fuel text = some (items, rest) →
    (∀ item ∈ items, item.NumbersValid) ∧ place text = place rest
  fields : ∀ {text fields rest}, readFields fuel text = some (fields, rest) →
    (∀ entry ∈ fields, entry.2.NumbersValid) ∧ place text = place rest

theorem ReadsValid.readValue (valid : ReadsValid fuel) {value : Json}
    (read : readValue (fuel + 1) text = some (value, rest)) :
    value.NumbersValid ∧ place text = place rest := by
  rw [← place_skipSpace]
  unfold JsonText.readValue at read
  split at read
  · cases read
  next letter tail found =>
  rw [found]
  split at read
  next here =>
    obtain ⟨_, matched, same⟩ := Option.map_eq_some_iff.mp read
    cases same
    rw [here, expect_eq matched]
    exact ⟨.null, rfl⟩
  split at read
  next here =>
    obtain ⟨_, matched, same⟩ := Option.map_eq_some_iff.mp read
    cases same
    rw [here, expect_eq matched]
    exact ⟨.bool true, rfl⟩
  split at read
  next here =>
    obtain ⟨_, matched, same⟩ := Option.map_eq_some_iff.mp read
    cases same
    rw [here, expect_eq matched]
    exact ⟨.bool false, rfl⟩
  split at read
  next here =>
    obtain ⟨_, inner, same⟩ := Option.map_eq_some_iff.mp read
    cases same
    rw [here]
    exact ⟨.string _, readString_place _ _ (by rw [inner]; rfl)⟩
  split at read
  next here =>
    rw [here]
    split at read
    next closed =>
      cases read
      refine ⟨.array (by simp), ?_⟩
      exact (place_skipSpace tail).symm.trans (by rw [expect_eq closed]; rfl)
    · obtain ⟨_, inner, same⟩ := Option.map_eq_some_iff.mp read
      cases same
      exact ⟨.array (valid.items inner).1, (valid.items inner).2⟩
  split at read
  next here =>
    rw [here]
    split at read
    next closed =>
      cases read
      refine ⟨.object (by simp), ?_⟩
      exact (place_skipSpace tail).symm.trans (by rw [expect_eq closed]; rfl)
    · obtain ⟨_, inner, same⟩ := Option.map_eq_some_iff.mp read
      cases same
      exact ⟨.object (valid.fields inner).1, (valid.fields inner).2⟩
  · exact readNumber_valid read

theorem ReadsValid.readItems (valid : ReadsValid fuel) {items : List Json}
    (read : readItems (fuel + 1) text = some (items, rest)) :
    (∀ item ∈ items, item.NumbersValid) ∧ place text = place rest := by
  unfold JsonText.readItems at read
  split at read
  · cases read
  next item after first =>
    rw [(valid.value first).2, ← place_skipSpace]
    split at read
    · cases read
    next found =>
      rw [found]
      split at read
      next comma =>
        obtain ⟨_, inner, same⟩ := Option.map_eq_some_iff.mp read
        cases same
        rw [comma]
        exact ⟨List.forall_mem_cons.mpr ⟨(valid.value first).1, (valid.items inner).1⟩,
          (valid.items inner).2⟩
      · split at read
        next close =>
          cases read
          rw [close]
          exact ⟨by simpa using (valid.value first).1, rfl⟩
        · cases read

theorem ReadsValid.readFields (valid : ReadsValid fuel) {fields : List (String × Json)}
    (read : readFields (fuel + 1) text = some (fields, rest)) :
    (∀ entry ∈ fields, entry.2.NumbersValid) ∧ place text = place rest := by
  unfold JsonText.readFields at read
  split at read
  · cases read
  next key after named =>
    obtain ⟨quoted, opened, name⟩ := Option.bind_eq_some_iff.mp named
    have same : place text = place after := by
      rw [← place_skipSpace, expect_eq opened]
      exact readString_place quoted after (by rw [name]; rfl)
    rw [same, ← place_skipSpace]
    split at read
    · cases read
    next value _ first =>
      obtain ⟨_, colon, found⟩ := Option.bind_eq_some_iff.mp first
      rw [expect_eq colon]
      obtain ⟨valued, same⟩ := valid.value found
      replace same := same.trans (place_skipSpace _).symm
      split at read
      · cases read
      next follows =>
        rw [follows] at same
        split at read
        next comma =>
          obtain ⟨_, inner, written⟩ := Option.map_eq_some_iff.mp read
          cases written
          rw [comma] at same
          exact ⟨List.forall_mem_cons.mpr ⟨valued, (valid.fields inner).1⟩,
            same.trans (valid.fields inner).2⟩
        · split at read
          next close =>
            cases read
            rw [close] at same
            exact ⟨by simpa using valued, same⟩
          · cases read

theorem readsValid (fuel : Nat) : ReadsValid fuel := by
  induction fuel with
  | zero =>
    refine ⟨?_, ?_, ?_⟩
    all_goals
      intro _ _ _ read
      simp [JsonText.readValue, JsonText.readItems, JsonText.readFields] at read
  | succ fuel induction =>
    exact ⟨induction.readValue, induction.readItems, induction.readFields⟩

end JsonText

namespace Json

theorem read_valid (found : read text = some value) :
    value.NumbersValid ∧ JsonText.place text.toList = .outside := by
  unfold read at found
  split at found
  · cases found
  next value rest first =>
    obtain ⟨valid, same⟩ := (JsonText.readsValid _).value first
    split at found
    next ended =>
      cases found
      exact ⟨valid, same.trans (by rw [← JsonText.place_skipSpace, ended]; rfl)⟩
    · cases found

mutual

/-- How deep arrays and objects are nested. -/
def depth : Json → Nat
  | .array items => depthItems items + 1
  | .object fields => depthFields fields + 1
  | _ => 0

def depthItems : List Json → Nat
  | [] => 0
  | item :: items => max (depth item) (depthItems items)

def depthFields : List (String × Json) → Nat
  | [] => 0
  | (_, value) :: fields => max (depth value) (depthFields fields)

end

mutual

/-- Every object becomes a B-tree map; of two fields with one key the later
one counts. -/
def normalize : Json → Json
  | .array items => .array (normalizeItems items)
  | .object fields => .object (normalizeFields fields [])
  | value => value

def normalizeItems : List Json → List Json
  | [] => []
  | item :: items => normalize item :: normalizeItems items

def normalizeFields :
    List (String × Json) → List (String × Json) → List (String × Json)
  | [], map => map
  | (key, value) :: fields, map =>
    normalizeFields fields (OrderedMap.insert key (normalize value) map)

end

theorem normalizeItems_wellFormed (each : ∀ item ∈ items, (normalize item).WellFormed) :
    ∀ item ∈ normalizeItems items, item.WellFormed := by
  induction items with
  | nil => simp [normalizeItems]
  | cons item items induction =>
    obtain ⟨first, rest⟩ := List.forall_mem_cons.mp each
    exact List.forall_mem_cons.mpr ⟨first, induction rest⟩

theorem normalizeFields_wellFormed (each : ∀ entry ∈ fields, (normalize entry.2).WellFormed)
    (ordered : OrderedMap.Ordered map) (held : ∀ entry ∈ map, entry.2.WellFormed) :
    (Json.object (normalizeFields fields map)).WellFormed := by
  induction fields generalizing map with
  | nil => exact .object ordered held
  | cons entry fields induction =>
    obtain ⟨first, rest⟩ := List.forall_mem_cons.mp each
    refine induction rest (ordered.insert _ _) ?_
    intro other member
    rcases OrderedMap.mem_insert member with rfl | old
    · exact first
    · exact held other old

theorem wellFormed_normalize {value : Json} (valid : value.NumbersValid) :
    value.normalize.WellFormed := by
  induction valid with
  | null => exact .null
  | bool value => exact .bool value
  | number wellFormed => exact .number wellFormed
  | string value => exact .string value
  | array each induction => exact .array (normalizeItems_wellFormed induction)
  | object each induction =>
    exact normalizeFields_wellFormed induction List.Pairwise.nil (by simp)

theorem normalizeItems_eq (each : ∀ item ∈ items, normalize item = item) :
    normalizeItems items = items := by
  induction items with
  | nil => rfl
  | cons item items induction =>
    obtain ⟨first, rest⟩ := List.forall_mem_cons.mp each
    rw [normalizeItems, first, induction rest]

theorem normalizeFields_eq (each : ∀ entry ∈ fields, normalize entry.2 = entry.2)
    (ordered : OrderedMap.Ordered (map ++ fields)) :
    normalizeFields fields map = map ++ fields := by
  induction fields generalizing map with
  | nil => simp [normalizeFields]
  | cons entry fields induction =>
    obtain ⟨key, value⟩ := entry
    obtain ⟨first, rest⟩ := List.forall_mem_cons.mp each
    have last : OrderedMap.insert key value map = map ++ [(key, value)] := by
      refine OrderedMap.insert_last ?_
      intro other member
      exact (List.pairwise_append.mp ordered).2.2 other member (key, value) List.mem_cons_self
    have tail : normalizeFields fields (map ++ [(key, value)]) = map ++ [(key, value)] ++ fields :=
      induction rest (by simpa using ordered)
    rw [normalizeFields, first, last, tail]
    simp

theorem normalize_eq {value : Json} (wellFormed : value.WellFormed) : value.normalize = value := by
  induction wellFormed with
  | null | bool value | number | string value => rfl
  | array each induction => rw [normalize, normalizeItems_eq induction]
  | object ordered each induction =>
    rw [normalize, normalizeFields_eq induction (by simpa using ordered)]
    rfl

end Json

/-- `serde_json::Value`. -/
structure JsonValue where
  json : Json
  wellFormed : json.WellFormed

namespace JsonValue

/-- The deepest nesting that `serde_json` reads. -/
def maxDepth : Nat := 127

/-- `serde_json::from_str::<Value>`. -/
def fromStr (text : String) : Option JsonValue :=
  (Json.read text).pbind (fun value found =>
    if value.depth ≤ maxDepth then
      some ⟨value.normalize, Json.wellFormed_normalize (Json.read_valid found).1⟩
    else none)

theorem fromStr_of_read (read : Json.read text = some value) :
    fromStr text = if value.depth ≤ maxDepth then
        some ⟨value.normalize, Json.wellFormed_normalize (Json.read_valid read).1⟩
      else none := by
  split
  next shallow => exact Option.pbind_eq_some_iff.mpr ⟨value, read, if_pos shallow⟩
  next deep => exact Option.pbind_eq_none_iff.mpr (Or.inr ⟨value, read, if_neg deep⟩)

/-- `serde_json::to_string`. -/
def toText (value : JsonValue) : String :=
  value.json.compact

/-- A written value is read back unless it is nested too deeply. -/
theorem fromStr_toText (value : JsonValue) :
    fromStr value.toText = if value.json.depth ≤ maxDepth then some value else none := by
  rw [toText, fromStr_of_read (Json.read_compact value.wellFormed.numbersValid)]
  simp only [Json.normalize_eq value.wellFormed]

end JsonValue

/-- A reader that gives back every value that is written, with its floats. -/
structure JsonReader where
  fromStr : String → Option JsonValue
  fromStr_toText : ∀ value : JsonValue, fromStr value.toText =
    if value.json.depth ≤ JsonValue.maxDepth then some value else none

end FusionRouter

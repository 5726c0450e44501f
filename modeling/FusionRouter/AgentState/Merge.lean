import FusionRouter.Types.JsonValue

/-!
# Merging state patches

`merge_state` of the agent state crate.  A `null` in a patch deletes a key, an
object merges into the object it meets, everything else replaces.  The spec
lemma `mergeState_object_iff` says key by key what a merge of two objects is;
the laws of the merge are read off it along paths.
-/

namespace FusionRouter

namespace Json

def follow : List String → Json → Option Json
  | [], value => some value
  | key :: path, value => (value.get key).bind (follow path)

def isNull : Json → Bool
  | .null => true
  | _ => false

def isObject : Json → Bool
  | .object _ => true
  | _ => false

/-- No object that is reached without passing through an array has a
null-valued key. -/
def NullFree (value : Json) : Prop :=
  ∀ path key, value.follow (path ++ [key]) ≠ some .null

variable {value : Json}

theorem isNull_eq_true_iff : value.isNull = true ↔ value = .null := by
  cases value <;> simp [isNull]

@[simp] theorem follow_nil (value : Json) : value.follow [] = some value := rfl

@[simp] theorem follow_object (key : String) (path : List String) (fields : List (String × Json)) :
    (Json.object fields).follow (key :: path) = (fields.lookup key).bind (follow path) := rfl

theorem follow_append (value : Json) (front rest : List String) :
    value.follow (front ++ rest) = (value.follow front).bind (follow rest) := by
  induction front generalizing value with
  | nil => rfl
  | cons key front induction =>
    simp only [List.cons_append, follow, Option.bind_assoc]
    congr 1
    funext inner
    exact induction inner

theorem follow_leaf (leaf : value.isObject = false) (key : String)
    (path : List String) : value.follow (key :: path) = none := by
  cases value with
  | object fields => cases leaf
  | _ => rfl

theorem WellFormed.lookup (wellFormed : (Json.object fields).WellFormed)
    (found : fields.lookup key = some value) : value.WellFormed := by
  cases wellFormed with
  | object ordered each =>
    exact each _ (ordered.lookup_eq_some_iff.mp found)

theorem WellFormed.follow {inner : Json} (wellFormed : value.WellFormed)
    (found : value.follow path = some inner) :
    inner.WellFormed := by
  induction path generalizing value with
  | nil =>
    cases found
    exact wellFormed
  | cons key path induction =>
    cases value with
    | object fields =>
      obtain ⟨next, here, deeper⟩ := Option.bind_eq_some_iff.mp found
      exact induction (wellFormed.lookup here) deeper
    | _ => cases found

theorem WellFormed.ordered (wellFormed : (Json.object fields).WellFormed) :
    OrderedMap.Ordered fields := by
  cases wellFormed with
  | object ordered each => exact ordered

end Json

namespace AgentState

inductive StateError where
  | notAnObject (message : String)
  | schemaViolation (message : String)
  | mergeError (message : String)
  | patchValidation (message : String)
deriving Repr, DecidableEq

def typeOf : Json → String
  | .null => "null"
  | .bool _ => "bool"
  | .number _ => "number"
  | .string _ => "string"
  | .array _ => "array"
  | .object _ => "object"

def ambiguous (key : String) (baseVal : Json) : StateError :=
  .mergeError ("ambiguous merge: patch key '" ++ key ++
    "' is object but base is " ++ typeOf baseVal)

mutual

def mergeState : Json → Json → Except StateError Json
  | _, .null =>
    .error (.mergeError "top-level null patch is not a valid StatePatch")
  | .object baseMap, .object patchMap =>
    match mergeKeys baseMap patchMap baseMap with
    | .error error => .error error
    | .ok merged => .ok (.object merged)
  | _, patch => .ok patch

/-- The loop over the keys of the patch, in their order. -/
def mergeKeys (baseMap : List (String × Json)) :
    List (String × Json) → List (String × Json) → Except StateError (List (String × Json))
  | [], merged => .ok merged
  | (key, patchVal) :: rest, merged =>
    if patchVal.isNull then
      mergeKeys baseMap rest (OrderedMap.erase key merged)
    else
      match baseMap.lookup key with
      | some baseVal =>
        if baseVal.isObject && patchVal.isObject then
          match mergeState baseVal patchVal with
          | .error error => .error error
          | .ok value =>
            mergeKeys baseMap rest (OrderedMap.insert key value merged)
        else if patchVal.isObject then .error (ambiguous key baseVal)
        else mergeKeys baseMap rest (OrderedMap.insert key patchVal merged)
      | none =>
        mergeKeys baseMap rest (OrderedMap.insert key patchVal merged)

end

def Merges (base patch result : Json) : Prop :=
  mergeState base patch = .ok result

/-- What a key with this base value holds once this patch value is merged
into it, where two objects join by `joins`. -/
inductive Lands (joins : Json → Json → Json → Prop) :
    Option Json → Json → Option Json → Prop where
  | deleted (base : Option Json) : Lands joins base .null none
  | fresh {patch : Json} (present : patch ≠ .null) :
      Lands joins none patch patch
  | replaced (base : Json) {patch : Json} (present : patch ≠ .null)
      (leaf : patch.isObject = false) : Lands joins (some base) patch patch
  | merged {base patch : List (String × Json)} {value : Json}
      (joined : joins (.object base) (.object patch) value) :
      Lands joins (some (.object base)) (.object patch) value

theorem Lands.imp {base landed : Option Json} (lands : Lands joins base patch landed)
    (implies : ∀ baseVal value, base = some baseVal → joins baseVal patch value
      → others baseVal patch value) : Lands others base patch landed := by
  cases lands with
  | deleted => exact .deleted base
  | fresh present => exact .fresh present
  | replaced baseVal present leaf => exact .replaced baseVal present leaf
  | merged joined => exact .merged (implies _ _ rfl joined)

def put (key : String) : Option Json → List (String × Json) → List (String × Json)
  | none, fields => OrderedMap.erase key fields
  | some value, fields => OrderedMap.insert key value fields

theorem lookup_put_same (key : String) (value : Option Json) (fields : List (String × Json)) :
    (put key value fields).lookup key = value := by
  cases value with
  | none => exact OrderedMap.lookup_erase_same key fields
  | some value => exact OrderedMap.lookup_insert_same key value fields

theorem lookup_put_of_ne (different : other ≠ key) (value : Option Json)
    (fields : List (String × Json)) :
    (put key value fields).lookup other = fields.lookup other := by
  cases value with
  | none => exact OrderedMap.lookup_erase_of_ne different fields
  | some value => exact OrderedMap.lookup_insert_of_ne different value fields

theorem ordered_put (ordered : OrderedMap.Ordered fields) (key : String)
    (value : Option Json) : OrderedMap.Ordered (put key value fields) := by
  cases value with
  | none => exact ordered.erase key
  | some value => exact ordered.insert key value

theorem mergeKeys_cons_iff :
    mergeKeys baseMap ((key, patchVal) :: rest) merged = .ok result ↔
      ∃ value, Lands Merges (baseMap.lookup key) patchVal value ∧
        mergeKeys baseMap rest (put key value merged) = .ok result := by
  constructor
  · intro loop
    rw [mergeKeys] at loop
    split at loop
    next null =>
      rw [Json.isNull_eq_true_iff.mp null]
      exact ⟨none, .deleted _, loop⟩
    next notNull =>
      have present : patchVal ≠ .null := mt Json.isNull_eq_true_iff.mpr notNull
      split at loop
      next baseVal found =>
        rw [found]
        split at loop
        next objects =>
          rw [Bool.and_eq_true] at objects
          split at loop
          · cases loop
          next value merges =>
            cases baseVal with
            | object base =>
              cases patchVal with
              | object patch => exact ⟨value, .merged merges, loop⟩
              | _ => cases objects.2
            | _ => cases objects.1
        · split at loop
          · cases loop
          next leaf =>
            exact ⟨patchVal, .replaced baseVal present (Bool.not_eq_true _ ▸ leaf), loop⟩
      next missing =>
        rw [missing]
        exact ⟨patchVal, .fresh present, loop⟩
  · rintro ⟨value, lands, loop⟩
    rw [mergeKeys]
    generalize baseMap.lookup key = found at lands ⊢
    cases lands with
    | deleted => exact loop
    | fresh present =>
      rw [if_neg (mt Json.isNull_eq_true_iff.mp present)]
      exact loop
    | replaced base present leaf =>
      rw [if_neg (mt Json.isNull_eq_true_iff.mp present)]
      simp only [leaf, Bool.and_false, Bool.false_eq_true, if_false]
      exact loop
    | merged merges =>
      rw [Merges] at merges
      simp only [Json.isNull, Json.isObject, Bool.and_self, if_true,
        Bool.false_eq_true, if_false, merges]
      exact loop

/-- What the loop over the remaining keys of the patch leaves behind. -/
theorem mergeKeys_iff (patchOrdered : OrderedMap.Ordered patchMap)
    (ordered : OrderedMap.Ordered merged) :
    mergeKeys baseMap patchMap merged = .ok result ↔ OrderedMap.Ordered result ∧
        (∀ key, patchMap.lookup key = none → result.lookup key = merged.lookup key) ∧
        ∀ key patchVal, patchMap.lookup key = some patchVal →
          Lands Merges (baseMap.lookup key) patchVal (result.lookup key) := by
  induction patchMap generalizing merged with
  | nil =>
    rw [mergeKeys]
    constructor
    · intro same
      cases same
      exact ⟨ordered, fun _ _ => rfl, fun _ _ found => by cases found⟩
    · rintro ⟨resultOrdered, same, -⟩
      rw [ordered.ext resultOrdered (fun key => (same key rfl).symm)]
  | cons entry rest induction =>
    obtain ⟨first, firstVal⟩ := entry
    obtain ⟨below, restOrdered⟩ := List.pairwise_cons.mp patchOrdered
    have absent : rest.lookup first = none := by
      rw [List.lookup_eq_none_iff]
      intro entry member
      exact bne_iff_ne.mpr (below entry member).ne
    rw [mergeKeys_cons_iff]
    constructor
    · rintro ⟨value, lands, loop⟩
      obtain ⟨resultOrdered, kept, landed⟩ :=
        (induction restOrdered (ordered_put ordered first value)).mp loop
      refine ⟨resultOrdered, ?_, ?_⟩
      · intro key missing
        rw [List.lookup_cons] at missing
        by_cases same : key = first
        · simp [same] at missing
        · rw [beq_false_of_ne same] at missing
          rw [kept key missing, lookup_put_of_ne same]
      · intro key patchVal found
        rw [List.lookup_cons] at found
        by_cases same : key = first
        · subst same
          rw [beq_self_eq_true] at found
          cases found
          rw [kept key absent, lookup_put_same]
          exact lands
        · rw [beq_false_of_ne same] at found
          exact landed key patchVal found
    · rintro ⟨resultOrdered, kept, landed⟩
      refine ⟨result.lookup first, landed first firstVal (by simp), ?_⟩
      refine (induction restOrdered (ordered_put ordered _ _)).mpr ⟨resultOrdered, ?_, ?_⟩
      · intro key missing
        by_cases same : key = first
        · subst same
          rw [lookup_put_same]
        · rw [lookup_put_of_ne same]
          refine kept key ?_
          rw [List.lookup_cons, beq_false_of_ne same, missing]
      · intro key patchVal found
        refine landed key patchVal ?_
        have different : key ≠ first := by
          rintro rfl
          rw [absent] at found
          cases found
        rw [List.lookup_cons, beq_false_of_ne different, found]

theorem mergeState_object_iff (baseOrdered : OrderedMap.Ordered baseMap)
    (patchOrdered : OrderedMap.Ordered patchMap) :
    mergeState (.object baseMap) (.object patchMap) = .ok value ↔
      ∃ result, value = .object result ∧ OrderedMap.Ordered result ∧
        (∀ key, patchMap.lookup key = none → result.lookup key = baseMap.lookup key) ∧
        ∀ key patchVal, patchMap.lookup key = some patchVal →
          Lands Merges (baseMap.lookup key) patchVal (result.lookup key) := by
  rw [mergeState]
  constructor
  · intro merged
    split at merged
    · cases merged
    next result loop =>
      cases merged
      exact ⟨result, rfl, (mergeKeys_iff patchOrdered baseOrdered).mp loop⟩
  · rintro ⟨result, rfl, spec⟩
    rw [(mergeKeys_iff patchOrdered baseOrdered).mpr spec]

theorem mergeState_leaf (present : patch ≠ .null)
    (leaf : patch.isObject = false) : mergeState base patch = .ok patch := by
  cases patch with
  | null => exact (present rfl).elim
  | object fields => cases leaf
  | _ => cases base <;> rfl

theorem mergeState_of_leaf (leaf : base.isObject = false) (patchMap : List (String × Json)) :
    mergeState base (.object patchMap) = .ok (.object patchMap) := by
  cases base with
  | object fields => cases leaf
  | _ => rfl

@[elab_as_elim]
theorem merge_induction
    (leaf : ∀ base patch, patch ≠ .null → patch.isObject = false → motive base patch patch)
    (cloned : ∀ base patchMap, base.isObject = false → (Json.object
      patchMap).WellFormed → motive base (.object patchMap) (.object patchMap))
    (objects : ∀ baseMap patchMap result, Merges (.object baseMap) (.object
      patchMap) (.object result) → OrderedMap.Ordered patchMap →
      OrderedMap.Ordered result → (∀ key, patchMap.lookup key = none →
      result.lookup key = baseMap.lookup key) → (∀ key patchVal,
      patchMap.lookup key = some patchVal → patchVal.WellFormed ∧ Lands motive
      (baseMap.lookup key) patchVal (result.lookup key)) → motive (.object
      baseMap) (.object patchMap) (.object result)) {result : Json}
    (baseWellFormed : base.WellFormed) (patchWellFormed : patch.WellFormed)
    (merges : Merges base patch result) : motive base patch result := by
  have plain : ∀ {base patch result : Json}, patch ≠ .null →
      patch.isObject = false → Merges base patch result → motive base patch result := by
    intro base patch result present notObject merges
    rw [Merges, mergeState_leaf present notObject] at merges
    rw [← Except.ok.inj merges]
    exact leaf base patch present notObject
  induction patchWellFormed generalizing base result with
  | null =>
    rw [Merges, mergeState] at merges
    cases merges
  | bool | number | string | array => exact plain (by simp) rfl merges
  | @object patchMap patchOrdered each induction =>
    by_cases object : base.isObject = true
    · cases base with
      | object baseMap =>
        obtain ⟨fields, rfl, ordered, kept, landed⟩ :=
          (mergeState_object_iff baseWellFormed.ordered patchOrdered).mp merges
        refine objects baseMap patchMap fields merges patchOrdered ordered kept ?_
        intro key patchVal found
        have member : (key, patchVal) ∈ patchMap := patchOrdered.lookup_eq_some_iff.mp found
        refine ⟨each _ member, (landed key patchVal found).imp ?_⟩
        intro baseVal value present joined
        exact induction (key, patchVal) member (baseWellFormed.lookup present) joined
      | _ => cases object
    · rw [Bool.not_eq_true] at object
      rw [Merges, mergeState_of_leaf object] at merges
      cases merges
      exact cloned base patchMap object (.object patchOrdered each)

end AgentState

end FusionRouter

import FusionRouter.AgentState.Merge

/-!
# The laws of merging

Along a path the patch either says nothing, or deletes, or sets a value, or
merges an object.  A subtree that only the patch has is cloned as it stands,
so a `null` inside it is stored and not applied.  Exactly the patches whose
nulls all sit in objects that the state has obey the laws, and exactly these
can be merged a second time without effect.
-/

namespace FusionRouter

open Json

namespace Json

variable {value : Json}

theorem NullFree.lookup (nullFree : (Json.object fields).NullFree)
    (found : fields.lookup key = some value) : value ≠ .null ∧ value.NullFree := by
  refine ⟨?_, ?_⟩
  · rintro rfl
    exact nullFree [] key (by simp [found])
  · intro path last null
    exact nullFree (key :: path) last (by simp [found, null])

theorem nullFree_object_iff :
    (Json.object fields).NullFree ↔ ∀ key value, fields.lookup key = some value →
        value ≠ .null ∧ value.NullFree := by
  constructor
  · intro nullFree key value found
    exact nullFree.lookup found
  · intro each path last null
    cases path with
    | nil =>
      obtain ⟨value, found, here⟩ := Option.bind_eq_some_iff.mp null
      exact (each last value found).1 (Option.some.inj here)
    | cons key path =>
      obtain ⟨value, found, deeper⟩ := Option.bind_eq_some_iff.mp null
      exact (each key value found).2 path last deeper

theorem NullFree.follow {inner : Json} (nullFree : value.NullFree)
    (found : value.follow path = some inner) :
    inner.NullFree := by
  intro deeper key null
  refine nullFree (path ++ deeper) key ?_
  rw [List.append_assoc, follow_append, found]
  exact null

theorem NullFree.follow_ne (nullFree : value.NullFree) (present : value ≠ .null)
    (path : List String) : value.follow path ≠ some .null := by
  intro null
  rcases List.eq_nil_or_concat path with rfl | ⟨front, key, rfl⟩
  · exact present (Option.some.inj null)
  · exact nullFree front key (List.concat_eq_append ▸ null)

theorem follow_leaf_ne_object (leaf : value.isObject = false)
    (path : List String) (fields : List (String × Json)) :
    value.follow path ≠ some (.object fields) := by
  intro found
  cases path with
  | nil =>
    cases found
    cases leaf
  | cons key path =>
    rw [follow_leaf leaf] at found
    cases found

end Json

namespace AgentState

/-- Every null of the patch sits in an object that the base has at the same
path. -/
def NullsLand (base : Option Json) (patch : Json) : Prop :=
  ∀ path key, patch.follow (path ++ [key]) = some .null →
    ∃ fields, base.bind (Json.follow path) = some (.object fields)

variable {baseMap patchMap inner : List (String × Json)}
  {patchVal patch value : Json}

theorem NullsLand.lookup (land : NullsLand (some (.object baseMap)) (.object patchMap))
    (found : patchMap.lookup key = some patchVal) : NullsLand (baseMap.lookup key) patchVal := by
  intro path last null
  exact land (key :: path) last (by simp [found, null])

theorem nullsLand_object_iff :
    NullsLand (some (.object baseMap)) (.object patchMap) ↔
      ∀ key patchVal, patchMap.lookup key = some patchVal →
        NullsLand (baseMap.lookup key) patchVal := by
  refine ⟨fun land key patchVal => land.lookup, ?_⟩
  intro each path last null
  cases path with
  | nil => exact ⟨baseMap, rfl⟩
  | cons key path =>
    obtain ⟨patchVal, found, deeper⟩ := Option.bind_eq_some_iff.mp null
    exact each key patchVal found path last deeper

theorem nullsLand_none_iff : NullsLand none patch ↔ patch.NullFree := by
  constructor
  · intro land path key null
    obtain ⟨_, found⟩ := land path key null
    cases found
  · intro nullFree path key null
    exact (nullFree path key null).elim

theorem nullsLand_leaf_iff (leaf : base.isObject = false) :
    NullsLand (some base) patch ↔ patch.NullFree := by
  constructor
  · intro land path key null
    obtain ⟨fields, found⟩ := land path key null
    exact follow_leaf_ne_object leaf path fields found
  · intro nullFree path key null
    exact (nullFree path key null).elim

theorem nullsLand_of_leaf (base : Option Json) (leaf : patch.isObject = false) :
    NullsLand base patch := by
  intro path key null
  cases path with
  | nil =>
    rw [List.nil_append, follow_leaf leaf] at null
    cases null
  | cons first path =>
    rw [List.cons_append, follow_leaf leaf] at null
    cases null

/-- The patch says something about the path: it has a value there, or one that
is no object on the way. -/
def Touches (patch : Json) (path : List String) : Prop :=
  ∃ front rest value, path = front ++ rest ∧
    patch.follow front = some value ∧ (rest = [] ∨ value.isObject = false)

theorem Touches.cons {key : String} (found : patchMap.lookup key = some patchVal)
    (touches : Touches patchVal path) : Touches (.object patchMap) (key :: path) := by
  obtain ⟨front, rest, value, rfl, reached, ends⟩ := touches
  exact ⟨key :: front, rest, value, rfl, by simp [found, reached], ends⟩

theorem touches_of_follow (found : patch.follow path = some value) : Touches patch path :=
  ⟨path, [], value, (List.append_nil path).symm, found, Or.inl rfl⟩

theorem touches_of_leaf (leaf : patch.isObject = false) (path : List String) :
    Touches patch path := ⟨[], path, patch, rfl, rfl, Or.inr leaf⟩

/-- The laws of a merge: a state without null keys gets none, a path that the
patch sets has that value, a path that it sets to null is absent, objects merge
with what the state has at their path, and all other paths are as before. -/
structure MergeLaws (base patch result : Json) : Prop where
  nullFree : result.NullFree
  sets : ∀ path value, patch.follow path = some value → value ≠ .null →
    value.isObject = false → result.follow path = some value
  deletes : ∀ path, patch.follow path = some .null → result.follow path = none
  merges : ∀ path inner, patch.follow path = some (.object inner) →
    ∃ merged, Merges ((base.follow path).getD (.object [])) (.object inner)
      merged ∧ result.follow path = some merged
  keeps : ∀ path, ¬ Touches patch path → result.follow path = base.follow path

theorem nullFree_of_leaf (leaf : value.isObject = false) :
    value.NullFree :=
  nullsLand_none_iff.mp (nullsLand_of_leaf none leaf)

theorem merges_empty (ordered : OrderedMap.Ordered patchMap)
    (nullFree : (Json.object patchMap).NullFree) :
    Merges (.object []) (.object patchMap) (.object patchMap) := by
  refine (mergeState_object_iff List.Pairwise.nil ordered).mpr
    ⟨patchMap, rfl, ordered, fun key missing => missing, ?_⟩
  intro key patchVal found
  rw [found]
  exact .fresh (nullFree.lookup found).1

theorem merges_subtree (wellFormed : value.WellFormed) (nullFree : value.NullFree)
    (found : value.follow path = some (.object inner)) :
    Merges (.object []) (.object inner) (.object inner) :=
  merges_empty (wellFormed.follow found).ordered (nullFree.follow found)

section

variable (path inner) (baseWellFormed : base.WellFormed)
  (patchWellFormed : patch.WellFormed) (merges : Merges base patch result)
include baseWellFormed patchWellFormed merges

theorem follow_set (found : patch.follow path = some value)
    (present : value ≠ .null) (leaf : value.isObject = false) :
    result.follow path = some value := by
  revert path
  refine merge_induction ?_ ?_ ?_ baseWellFormed patchWellFormed merges
  · intro _ patch _ _ path found
    exact found
  · intro _ patchMap _ _ path found
    exact found
  · intro baseMap patchMap result _ _ _ _ landed path found
    cases path with
    | nil =>
      cases found
      cases leaf
    | cons key path =>
      obtain ⟨patchVal, here, deeper⟩ := Option.bind_eq_some_iff.mp found
      have lands := (landed key patchVal here).2
      rw [follow_object]
      generalize baseMap.lookup key = before at lands
      generalize result.lookup key = after at lands
      cases lands with
      | deleted =>
        cases path with
        | nil =>
          cases deeper
          exact (present rfl).elim
        | cons key path => cases deeper
      | fresh | replaced => exact deeper
      | merged joined => exact joined path deeper

theorem follow_kept (untouched : ¬ Touches patch path) : result.follow path = base.follow path := by
  revert path
  refine merge_induction ?_ ?_ ?_ baseWellFormed patchWellFormed merges
  · intro base patch _ leaf path untouched
    exact (untouched (touches_of_leaf leaf path)).elim
  · intro base patchMap leaf _ path untouched
    cases path with
    | nil => exact (untouched (touches_of_follow rfl)).elim
    | cons key path =>
      rw [follow_leaf leaf]
      cases found : (object patchMap).follow (key :: path) with
      | none => rfl
      | some value => exact (untouched (touches_of_follow found)).elim
  · intro baseMap patchMap result _ _ _ kept landed path untouched
    cases path with
    | nil => exact (untouched (touches_of_follow rfl)).elim
    | cons key path =>
      rw [follow_object, follow_object]
      cases here : patchMap.lookup key with
      | none => rw [kept key here]
      | some patchVal =>
        have deeper : ¬ Touches patchVal path := fun touches => untouched (touches.cons here)
        have lands := (landed key patchVal here).2
        generalize baseMap.lookup key = before at lands
        generalize result.lookup key = after at lands
        cases lands with
        | deleted => exact (deeper (touches_of_leaf rfl path)).elim
        | fresh =>
          cases found : patchVal.follow path with
          | none => exact found
          | some value => exact (deeper (touches_of_follow found)).elim
        | replaced _ _ leaf => exact (deeper (touches_of_leaf leaf path)).elim
        | merged joined => exact joined path deeper

theorem follow_deleted (land : NullsLand (some base) patch)
    (found : patch.follow path = some .null) : result.follow path = none := by
  revert path land
  refine merge_induction ?_ ?_ ?_ baseWellFormed patchWellFormed merges
  · intro _ patch present leaf path _ found
    exact ((nullFree_of_leaf leaf).follow_ne present path found).elim
  · intro base patchMap leaf _ path land found
    have nullFree := (nullsLand_leaf_iff leaf).mp land
    exact (nullFree.follow_ne (by simp) path found).elim
  · intro baseMap patchMap result _ _ _ _ landed path land found
    cases path with
    | nil => cases found
    | cons key path =>
      obtain ⟨patchVal, here, deeper⟩ := Option.bind_eq_some_iff.mp found
      have lands := (landed key patchVal here).2
      have inner := land.lookup here
      rw [follow_object]
      generalize baseMap.lookup key = before at lands inner
      generalize result.lookup key = after at lands
      cases lands with
      | deleted => rfl
      | fresh present =>
        have nullFree := nullsLand_none_iff.mp inner
        exact (nullFree.follow_ne present path deeper).elim
      | replaced _ present leaf =>
        exact ((nullFree_of_leaf leaf).follow_ne present path deeper).elim
      | merged joined => exact joined path inner deeper

theorem nullFree_merge (land : NullsLand (some base) patch)
    (nullFree : base.NullFree) : result ≠ .null ∧ result.NullFree := by
  revert land nullFree
  refine merge_induction ?_ ?_ ?_ baseWellFormed patchWellFormed merges
  · intro _ patch present leaf _ _
    exact ⟨present, nullFree_of_leaf leaf⟩
  · intro base patchMap leaf _ land _
    exact ⟨by simp, (nullsLand_leaf_iff leaf).mp land⟩
  · intro baseMap patchMap result _ _ _ kept landed land nullFree
    refine ⟨by simp, nullFree_object_iff.mpr ?_⟩
    intro key value holds
    cases here : patchMap.lookup key with
    | none => exact nullFree.lookup (kept key here ▸ holds)
    | some patchVal =>
      have lands := (landed key patchVal here).2
      have inner := land.lookup here
      have outer : ∀ value, baseMap.lookup key = some value →
          value.NullFree := fun value found => (nullFree.lookup found).2
      rw [holds] at lands
      generalize baseMap.lookup key = before at lands inner outer
      cases lands with
      | fresh present => exact ⟨present, nullsLand_none_iff.mp inner⟩
      | replaced _ present leaf => exact ⟨present, nullFree_of_leaf leaf⟩
      | merged joined => exact joined inner (outer _ rfl)

theorem follow_merged (land : NullsLand (some base) patch)
    (found : patch.follow path = some (.object inner)) :
    ∃ merged, Merges ((base.follow path).getD (.object [])) (.object inner)
      merged ∧ result.follow path = some merged := by
  revert path inner land
  refine merge_induction ?_ ?_ ?_ baseWellFormed patchWellFormed merges
  · intro _ patch _ leaf inner path _ found
    exact (follow_leaf_ne_object leaf path inner found).elim
  · intro base patchMap leaf wellFormed inner path land found
    have nullFree := (nullsLand_leaf_iff leaf).mp land
    refine ⟨.object inner, ?_, found⟩
    cases path with
    | nil => exact mergeState_of_leaf leaf inner
    | cons key path =>
      rw [follow_leaf leaf]
      exact merges_subtree wellFormed nullFree found
  · intro baseMap patchMap result merges _ _ _ landed inner path land found
    cases path with
    | nil =>
      cases found
      exact ⟨.object result, merges, rfl⟩
    | cons key path =>
      obtain ⟨patchVal, here, deeper⟩ := Option.bind_eq_some_iff.mp found
      obtain ⟨wellFormed, lands⟩ := landed key patchVal here
      have land := land.lookup here
      rw [follow_object, follow_object]
      generalize baseMap.lookup key = before at lands land
      generalize result.lookup key = after at lands
      cases lands with
      | deleted =>
        exact (follow_leaf_ne_object rfl path inner deeper).elim
      | fresh =>
        exact ⟨.object inner, merges_subtree wellFormed (nullsLand_none_iff.mp land) deeper, deeper⟩
      | replaced _ _ leaf =>
        exact (follow_leaf_ne_object leaf path inner deeper).elim
      | merged joined => exact joined inner path land deeper

/-- A null that meets no object is stored. -/
theorem follow_stored (found : patch.follow (path ++ [last]) = some .null)
    (missing : ∀ fields, base.follow path ≠ some (.object fields)) :
    result.follow (path ++ [last]) = some .null := by
  revert path
  refine merge_induction ?_ ?_ ?_ baseWellFormed patchWellFormed merges
  · intro _ patch _ _ path found _
    exact found
  · intro _ patchMap _ _ path found _
    exact found
  · intro baseMap patchMap result _ _ _ _ landed path found missing
    cases path with
    | nil => exact (missing baseMap rfl).elim
    | cons key path =>
      obtain ⟨patchVal, here, deeper⟩ := Option.bind_eq_some_iff.mp found
      have lands := (landed key patchVal here).2
      rw [List.cons_append, follow_object]
      simp only [follow_object] at missing
      generalize baseMap.lookup key = before at lands missing
      generalize result.lookup key = after at lands
      cases lands with
      | deleted =>
        cases path with
        | nil | cons key path => cases deeper
      | fresh | replaced => exact deeper
      | merged joined => exact joined path deeper missing

end

namespace MergeSample

def empty : JsonValue :=
  ⟨.object [], Json.wellFormed_empty⟩

def single (key : String) (value : JsonValue) : JsonValue :=
  ⟨.object [(key, value.json)], .object (List.pairwise_singleton _ _)
    (by simpa using value.wellFormed)⟩

def one : JsonValue :=
  ⟨.number (.unsigned 1), .number (by simp [JsonNumber.WellFormed, u64Max])⟩

def null : JsonValue :=
  ⟨.null, .null⟩

/-- Deletes the key `b` of the object `a`. -/
def deletion : JsonValue :=
  single "a" (single "b" null)

theorem lookup_single {key other : String} (here : [(key, value)].lookup other = some found) :
    other = key ∧ found = value := by
  rw [List.lookup_cons] at here
  split at here
  next same => exact ⟨beq_iff_eq.mp same, (Option.some.inj here).symm⟩
  · cases here

theorem nullFree_single {key : String} {value : JsonValue}
    (present : value.json ≠ .null) (nullFree : value.json.NullFree) :
    (single key value).json.NullFree := by
  refine nullFree_object_iff.mpr ?_
  intro other found here
  rw [(lookup_single here).2]
  exact ⟨present, nullFree⟩

/-- The nulls of the deletion land where there is an object at `a`. -/
theorem deletion_lands : NullsLand (some (single "a" (single "b" one)).json) deletion.json := by
  refine nullsLand_object_iff.mpr ?_
  intro key patchVal here
  obtain ⟨rfl, rfl⟩ := lookup_single here
  refine nullsLand_object_iff.mpr ?_
  intro key patchVal here
  rw [(lookup_single here).2]
  exact nullsLand_of_leaf _ rfl

end MergeSample

/-- A merge into a state without null keys obeys the laws exactly when every
null of the patch sits in an object that the state has. -/
theorem merge_laws_iff (base patch : JsonValue) (result : Json) (nullFree : base.json.NullFree)
    (merged : mergeState base.json patch.json = .ok result) :
    MergeLaws base.json patch.json result ↔ NullsLand (some base.json) patch.json := by
  constructor
  · intro laws path key null
    by_contra missing
    have stored := follow_stored path base.wellFormed patch.wellFormed merged
      null (fun fields found => missing ⟨fields, found⟩)
    rw [laws.deletes _ null] at stored
    cases stored
  · intro land
    exact
      { nullFree := (nullFree_merge base.wellFormed patch.wellFormed merged
          land nullFree).2
        sets := fun path _ => follow_set path base.wellFormed patch.wellFormed merged
        deletes := fun path => follow_deleted path base.wellFormed patch.wellFormed merged land
        merges := fun path inner => follow_merged inner path base.wellFormed
          patch.wellFormed merged land
        keeps := fun path => follow_kept path base.wellFormed patch.wellFormed merged }

/-- Deleting a key that the state has. -/
theorem MergeSample.present_key_deleted :
    (single "a" (single "b" one)).json.NullFree ∧
      mergeState (single "a" (single "b" one)).json deletion.json = .ok (single "a" empty).json ∧
      MergeLaws (single "a" (single "b" one)).json deletion.json (single "a" empty).json := by
  have nullFree : (single "a" (single "b" one)).json.NullFree := by
    refine nullFree_single (by simp [single]) (nullFree_single ?_ ?_)
    · simp [one]
    · exact nullFree_of_leaf rfl
  have merged : mergeState (single "a" (single "b" one)).json deletion.json =
      .ok (single "a" empty).json := rfl
  exact ⟨nullFree, merged, (merge_laws_iff _ _ _ nullFree merged).mpr deletion_lands⟩

/-- The empty state takes the deletion as it stands: the path that is set to
null is there. -/
theorem MergeSample.absent_key_stored :
    ¬ ∀ (base patch : JsonValue) (result : Json), base.json.NullFree → patch.json.isObject = true →
        mergeState base.json patch.json = .ok result → MergeLaws base.json patch.json result := by
  intro obeys
  have nullFree : empty.json.NullFree := nullFree_object_iff.mpr (fun _ _ here => by cases here)
  have laws := obeys empty deletion deletion.json nullFree rfl rfl
  have absent := laws.deletes ["a", "b"] rfl
  cases absent

theorem lands_object_iff (object : value.isObject = true) :
    Lands Merges (some value) (.object patchMap) (some value) ↔
      Merges value (.object patchMap) value := by
  cases value with
  | object fields =>
    constructor
    · intro lands
      cases lands with
      | replaced _ _ leaf => cases leaf
      | merged joined => exact joined
    · exact .merged
  | _ => cases object

theorem lands_self_iff
    (self : value.isObject = true → (Merges value value value ↔ value.NullFree)) :
    Lands Merges (some value) value (some value) ↔ value ≠ .null ∧ value.NullFree := by
  by_cases object : value.isObject = true
  · rw [← self object]
    cases value with
    | object fields =>
      rw [lands_object_iff object]
      simp
    | _ => cases object
  · rw [Bool.not_eq_true] at object
    constructor
    · intro lands
      cases lands with
      | replaced _ present _ => exact ⟨present, nullFree_of_leaf object⟩
      | merged => cases object
    · rintro ⟨present, -⟩
      exact .replaced value present object

theorem merges_self_iff (wellFormed : value.WellFormed) (object : value.isObject = true) :
    Merges value value value ↔ value.NullFree := by
  induction wellFormed with
  | @object fields ordered wellFormed induction =>
    have each : ∀ key value, fields.lookup key = some value →
        (Lands Merges (some value) value (some value) ↔ value ≠ .null ∧ value.NullFree) := by
      intro key value found
      have member := ordered.lookup_eq_some_iff.mp found
      exact lands_self_iff (induction (key, value) member)
    rw [Merges, mergeState_object_iff ordered ordered, nullFree_object_iff]
    constructor
    · rintro ⟨_, same, -, -, landed⟩ key value found
      cases same
      rw [← each key value found, ← found]
      exact landed key value found
    · intro present
      refine ⟨fields, rfl, ordered, fun _ _ => rfl, ?_⟩
      intro key value found
      rw [found, each key value found]
      exact present key value found
  | _ => cases object

/-- Merging a patch a second time changes nothing exactly when every null of
the patch sits in an object that the state has. -/
theorem merge_again_iff (base patch : JsonValue) (result : Json)
    (merged : mergeState base.json patch.json = .ok result) :
    mergeState result patch.json = .ok result ↔ NullsLand (some base.json) patch.json := by
  refine (merge_induction (motive := fun base patch result =>
    (patch.isObject = true → result.isObject = true) ∧
      (Merges result patch result ↔ NullsLand (some base) patch))
    ?_ ?_ ?_ base.wellFormed patch.wellFormed merged).2
  · intro base patch present leaf
    exact ⟨id, iff_of_true (mergeState_leaf present leaf) (nullsLand_of_leaf _ leaf)⟩
  · intro base patchMap leaf wellFormed
    refine ⟨id, ?_⟩
    rw [merges_self_iff wellFormed rfl, nullsLand_leaf_iff leaf]
  · intro baseMap patchMap result _ patchOrdered ordered _ landed
    refine ⟨fun _ => rfl, ?_⟩
    have each : ∀ key patchVal, patchMap.lookup key = some patchVal →
        (Lands Merges (result.lookup key) patchVal (result.lookup key) ↔
          NullsLand (baseMap.lookup key) patchVal) := by
      intro key patchVal found
      obtain ⟨wellFormed, lands⟩ := landed key patchVal found
      have self := lands_self_iff (merges_self_iff wellFormed)
      generalize baseMap.lookup key = before at lands
      generalize result.lookup key = after at lands
      cases lands with
      | deleted => exact iff_of_true (.deleted _) (nullsLand_of_leaf _ rfl)
      | fresh present =>
        rw [self, nullsLand_none_iff]
        exact and_iff_right present
      | replaced _ present leaf =>
        exact iff_of_true (self.mpr ⟨present, nullFree_of_leaf leaf⟩) (nullsLand_of_leaf _ leaf)
      | merged joined => rw [lands_object_iff (joined.1 rfl), joined.2]
    rw [Merges, mergeState_object_iff ordered patchOrdered, nullsLand_object_iff]
    constructor
    · rintro ⟨_, same, -, -, landed⟩ key patchVal found
      cases same
      exact (each key patchVal found).mp (landed key patchVal found)
    · intro land
      refine ⟨result, rfl, ordered, fun _ _ => rfl, ?_⟩
      intro key patchVal found
      exact (each key patchVal found).mpr (land key patchVal found)

theorem MergeSample.present_key_deleted_again :
    mergeState (single "a" (single "b" one)).json deletion.json = .ok (single "a" empty).json ∧
      mergeState (single "a" empty).json deletion.json = .ok (single "a" empty).json := by
  have merged : mergeState (single "a" (single "b" one)).json deletion.json =
      .ok (single "a" empty).json := rfl
  exact ⟨merged, (merge_again_iff _ _ _ merged).mpr deletion_lands⟩

/-- The null that the first merge stored is applied by the second. -/
theorem MergeSample.absent_key_deleted_later :
    ¬ ∀ (base patch : JsonValue) (result : Json), mergeState base.json patch.json = .ok result →
        mergeState result patch.json = .ok result := by
  intro again
  have second := again empty deletion deletion.json rfl
  have applied : mergeState deletion.json deletion.json = .ok (single "a" empty).json := rfl
  rw [applied] at second
  cases second

end AgentState

end FusionRouter

import Mathlib.Data.List.AList

/-!
# Finite maps that are walked

Association lists over one value type, with the operations that go over all
entries: listing the values and keeping those that pass a test.
-/

/-- A finite map from keys to values of one type. -/
abbrev FiniteMap (κ ν : Type) := AList (fun _ : κ => ν)

namespace FiniteMap

variable {κ ν : Type} [DecidableEq κ]

omit [DecidableEq κ] in
theorem nodupKeys_filter (map : FiniteMap κ ν) (keep : ν → Bool) :
    (map.entries.filter (fun entry => keep entry.2)).NodupKeys :=
  map.nodupKeys.sublist List.filter_sublist

def values (map : FiniteMap κ ν) : List ν :=
  map.entries.map Sigma.snd

/-- Drop the entries whose value fails the test. -/
def retain (keep : ν → Bool) (map : FiniteMap κ ν) : FiniteMap κ ν :=
  ⟨map.entries.filter (fun entry => keep entry.2), nodupKeys_filter map keep⟩

theorem mem_values_of_lookup {map : FiniteMap κ ν} {key : κ} {value : ν}
    (found : map.lookup key = some value) : value ∈ values map := by
  have entry : (⟨key, value⟩ : (_ : κ) × ν) ∈ map.entries := AList.mem_lookup_iff.mp found
  exact List.mem_map.mpr ⟨_, entry, rfl⟩

theorem lookup_retain {map : FiniteMap κ ν} {keep : ν → Bool} {key : κ} {value : ν} :
    (retain keep map).lookup key = some value ↔
      map.lookup key = some value ∧ keep value = true := by
  constructor
  · intro found
    have entry : (⟨key, value⟩ : (_ : κ) × ν) ∈ map.entries.filter (fun entry => keep entry.2) :=
      AList.mem_lookup_iff.mp found
    obtain ⟨member, passes⟩ := List.mem_filter.mp entry
    exact ⟨AList.mem_lookup_iff.mpr member, passes⟩
  · rintro ⟨found, passes⟩
    apply AList.mem_lookup_iff.mpr
    exact List.mem_filter.mpr ⟨AList.mem_lookup_iff.mp found, passes⟩

end FiniteMap

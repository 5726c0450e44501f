import FusionRouter.Types.Json

/-!
# Path containment

`canonicalize_within` canonicalizes a root and a candidate and compares them
name by name.  How a path is canonicalized is a parameter: the plugin and file
tools follow the links of a file tree.
-/

namespace FusionRouter

/-- The names from the root of the file system down to an entry. -/
abbrev CanonicalPath := List String

inductive PathError (Path : Type) where
  | rootMissing (root : Path)
  | candidateMissing (candidate : Path)
  | escape (candidate : Path)
deriving Repr, DecidableEq

section

variable {Path : Type} (canonicalize : Path → Option CanonicalPath)

def canonicalizeWithin (root candidate : Path) : Except (PathError Path) CanonicalPath :=
  match canonicalize root with
  | none => .error (.rootMissing root)
  | some rootCanonical =>
    match canonicalize candidate with
    | none => .error (.candidateMissing candidate)
    | some candidateCanonical =>
      if rootCanonical <+: candidateCanonical then .ok candidateCanonical
      else .error (.escape candidate)

def LiesWithin (root : Path) (canonical : CanonicalPath) : Prop :=
  ∃ rootCanonical, canonicalize root = some rootCanonical ∧ rootCanonical <+: canonical

variable {canonicalize}

theorem canonicalizeWithin_eq_ok :
    canonicalizeWithin canonicalize root candidate = .ok canonical ↔
      canonicalize candidate = some canonical ∧ LiesWithin canonicalize root canonical := by
  unfold canonicalizeWithin LiesWithin
  cases canonicalize root with
  | none => simp
  | some rootCanonical =>
    cases canonicalize candidate with
    | none => simp
    | some candidateCanonical =>
      by_cases inside : rootCanonical <+: candidateCanonical
      · simp only [inside, if_true, Except.ok.injEq, Option.some.injEq, exists_eq_left']
        constructor
        · rintro rfl
          exact ⟨rfl, inside⟩
        · exact And.left
      · simp only [inside, if_false, Option.some.injEq, exists_eq_left', reduceCtorEq, false_iff]
        rintro ⟨rfl, within⟩
        exact inside within

end

end FusionRouter

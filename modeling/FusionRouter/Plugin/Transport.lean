import FusionRouter.Lib.Files
import FusionRouter.Security.Paths

/-!
# External plugin commands

`validate_external_command` first canonicalizes the binary, which for a relative
path starts at the working directory of the process, and then falls back to a
lexical check of the path below the plugin directory.
-/

namespace FusionRouter

open Files

inductive ExternalCommandError where
  | empty
  /-- The binary is rejected by path containment. -/
  | rejected (error : PathError PathName)
  /-- The binary escapes the plugin directory. -/
  | escapes (binary : String)
deriving Repr, DecidableEq

section

variable {Content : Type} (tree : FileTree Content) (workingDir : CanonicalPath)
variable (pluginDir : PathName)

def validateExternalCommand :
    List String → Except ExternalCommandError PathName
  | [] => .error .empty
  | binary :: _ =>
    if (PathName.parse binary).absolute then
      match canonicalizeWithin (tree.canonicalize workingDir) pluginDir (PathName.parse binary) with
      | .error error => .error (.rejected error)
      | .ok canonical => .ok (.ofNames canonical)
    else
      match canonicalizeWithin (tree.canonicalize workingDir) pluginDir (PathName.parse binary) with
      | .ok canonical => .ok (.ofNames canonical)
      | .error _ =>
        -- the binary may not be installed yet
        if (pluginDir.join (PathName.parse binary)).normalize.StartsWith pluginDir then
          .ok (pluginDir.join (PathName.parse binary)).normalize
        else .error (.escapes binary)

def ResolvesInside (path : PathName) : Prop :=
  ∃ canonical, tree.canonicalize workingDir path = some canonical ∧
    LiesWithin (tree.canonicalize workingDir) pluginDir canonical

def LeadsOutside (path : PathName) : Prop :=
  ∃ canonical, tree.canonicalize workingDir path = some canonical ∧
    ¬ LiesWithin (tree.canonicalize workingDir) pluginDir canonical

/-- Every link that the segments meet leads to a place below the root. -/
def LinksStay (root : CanonicalPath) : CanonicalPath → List Segment → Prop
  | _, [] => True
  | place, .current :: rest => LinksStay root place rest
  | place, .parent :: rest => LinksStay root place.dropLast rest
  | place, .name text :: rest =>
    match tree.entry (place ++ [text]) with
    | some (.link target) => ∃ next,
        tree.resolve FileTree.maxLinks (if target.absolute then [] else place)
          target.segments = some next ∧ root <+: next ∧ LinksStay root next rest
    | _ => LinksStay root (place ++ [text]) rest

/-- The binary exists inside the plugin directory without leaving it through
links. -/
def InPlugin (binary : PathName) : Prop :=
  ResolvesInside tree workingDir pluginDir (pluginDir.join binary) ∧
    ∀ root, tree.canonicalize workingDir pluginDir = some root →
      LinksStay tree root root binary.segments

/-- What is accepted lies inside the plugin directory, and what a relative path
names there is accepted. -/
def ContainedPlugin (command : List String) : Prop :=
  (∀ path, validateExternalCommand tree workingDir pluginDir command =
      .ok path → ¬ LeadsOutside tree workingDir pluginDir path) ∧
    ∀ binary rest, command = binary :: rest → (PathName.parse binary).absolute = false →
      InPlugin tree workingDir pluginDir (PathName.parse binary) →
      ∃ path, validateExternalCommand tree workingDir pluginDir command = .ok path

/-- A relative binary that does not already name something in the plugin
directory from the working directory: if its normalized path starts with the
plugin directory, no link leads it outside, and if not, the binary is not in the
plugin directory. -/
def PlacedPlugin (command : List String) : Prop :=
  ∀ binary rest, command = binary :: rest → (PathName.parse binary).absolute = false →
    ¬ ResolvesInside tree workingDir pluginDir (PathName.parse binary) →
    if (pluginDir.join (PathName.parse binary)).normalize.StartsWith pluginDir then
      ¬ LeadsOutside tree workingDir pluginDir (pluginDir.join (PathName.parse binary)).normalize
    else ¬ InPlugin tree workingDir pluginDir (PathName.parse binary)

end

section

variable {Content : Type}

theorem not_leadsOutside_canonical
    (within : canonicalizeWithin (tree.canonicalize workingDir) pluginDir path = .ok canonical) :
    ¬ LeadsOutside tree workingDir pluginDir (.ofNames canonical) := by
  obtain ⟨found, inside⟩ := canonicalizeWithin_eq_ok.mp within
  rintro ⟨other, resolved, outside⟩
  rw [FileTree.canonicalize_ofNames (FileTree.settled_of_canonicalize found)] at resolved
  cases resolved
  exact outside inside

theorem resolvesInside_iff :
    ResolvesInside tree workingDir pluginDir path ↔
      ∃ canonical, canonicalizeWithin (tree.canonicalize workingDir) pluginDir
        path = .ok canonical := by
  constructor
  · rintro ⟨canonical, found, inside⟩
    exact ⟨canonical, canonicalizeWithin_eq_ok.mpr ⟨found, inside⟩⟩
  · rintro ⟨canonical, within⟩
    exact ⟨canonical, canonicalizeWithin_eq_ok.mp within⟩

/-- An absolute path is accepted only if it is canonical and inside. -/
theorem containedPlugin_absolute (absolute : (PathName.parse binary).absolute = true) :
    ContainedPlugin tree workingDir pluginDir (binary :: rest) := by
  refine ⟨?_, ?_⟩
  · intro path accepted
    rw [validateExternalCommand, if_pos absolute] at accepted
    split at accepted
    · cases accepted
    next canonical within =>
      cases accepted
      exact not_leadsOutside_canonical within
  · intro _ _ same relative
    cases same
    rw [absolute] at relative
    cases relative

theorem containedPlugin_inside
    (inside : ResolvesInside tree workingDir pluginDir (PathName.parse binary)) :
    ContainedPlugin tree workingDir pluginDir (binary :: rest) := by
  obtain ⟨canonical, within⟩ := resolvesInside_iff.mp inside
  have accepts : validateExternalCommand tree workingDir pluginDir
      (binary :: rest) = .ok (.ofNames canonical) := by
    rw [validateExternalCommand, within]
    split <;> rfl
  refine ⟨?_, ?_⟩
  · intro path accepted
    rw [accepts] at accepted
    cases accepted
    exact not_leadsOutside_canonical within
  · intro _ _ _ _ _
    exact ⟨_, accepts⟩

theorem containedPlugin_fallback_iff (relative : (PathName.parse binary).absolute = false)
    (elsewhere : ¬ ResolvesInside tree workingDir pluginDir (PathName.parse binary)) :
    ContainedPlugin tree workingDir pluginDir (binary :: rest) ↔
      if (pluginDir.join (PathName.parse binary)).normalize.StartsWith pluginDir then
        ¬ LeadsOutside tree workingDir pluginDir (pluginDir.join (PathName.parse binary)).normalize
      else ¬ InPlugin tree workingDir pluginDir (PathName.parse binary) := by
  unfold ContainedPlugin
  rw [validateExternalCommand, relative, if_neg Bool.false_ne_true]
  rcases within : canonicalizeWithin (tree.canonicalize workingDir) pluginDir
      (PathName.parse binary) with error | canonical
  rotate_left
  · exact (elsewhere (resolvesInside_iff.mpr ⟨_, within⟩)).elim
  dsimp only
  split
  · constructor
    · rintro ⟨sound, -⟩
      exact sound _ rfl
    · intro stays
      refine ⟨?_, fun _ _ _ _ _ => ⟨_, rfl⟩⟩
      intro path accepted
      cases accepted
      exact stays
  · constructor
    · rintro ⟨-, complete⟩ inPlugin
      obtain ⟨path, accepted⟩ := complete _ _ rfl relative inPlugin
      cases accepted
    · intro absent
      refine ⟨?_, ?_⟩
      · intro path accepted
        cases accepted
      · intro _ _ same _ inPlugin
        cases same
        exact (absent inPlugin).elim

end

/-- An external plugin is contained exactly if it is well placed. -/
theorem external_plugin_iff {Content : Type} (tree : FileTree Content)
    (workingDir : CanonicalPath) (pluginDir : PathName) (command : List String) :
    ContainedPlugin tree workingDir pluginDir command ↔
      PlacedPlugin tree workingDir pluginDir command := by
  constructor
  · intro contained binary rest same relative elsewhere
    cases same
    exact (containedPlugin_fallback_iff relative elsewhere).mp contained
  · intro placed
    cases command with
    | nil =>
      refine ⟨?_, ?_⟩
      · intro path accepted
        cases accepted
      · intro binary rest impossible
        cases impossible
    | cons binary rest =>
      cases kind : (PathName.parse binary).absolute with
      | true => exact containedPlugin_absolute kind
      | false =>
        by_cases inside : ResolvesInside tree workingDir pluginDir (PathName.parse binary)
        · exact containedPlugin_inside inside
        · exact (containedPlugin_fallback_iff kind inside).mpr (placed binary rest rfl kind inside)

namespace PluginSample

/-- A plugin directory with a binary and a link to a shell. -/
def tree : FileTree Unit :=
  .ofEntries
    [(["plugins"], .directory), (["plugins", "tool"], .file ()),
      (["plugins", "run"], .link (.parse "/bin/sh")), (["bin"], .directory),
      (["bin", "sh"], .file ())] (by decide)

theorem root_absolute : tree.canonicalize [] (.parse "/plugins") = some ["plugins"] := by
  decide

theorem root_dotted : tree.canonicalize [] (.parse "./plugins") = some ["plugins"] := by
  decide

/-- From the working directory `/`, the link out of the plugin directory is
accepted, and the binary in the directory is refused if the directory is written
with a dot. -/
theorem link_accepted_and_dot_refused :
    ¬ ContainedPlugin tree [] (.parse "/plugins") ["run"] ∧
      ¬ ContainedPlugin tree [] (.parse "./plugins") ["tool"] := by
  refine ⟨?_, ?_⟩
  · rintro ⟨sound, -⟩
    have accepted : validateExternalCommand tree [] (.parse "/plugins")
        ["run"] = .ok (.parse "/plugins/run") := by decide +kernel
    have shell : tree.canonicalize [] (.parse "/plugins/run") =
        some ["bin", "sh"] := by decide +kernel
    refine sound _ accepted ⟨_, shell, ?_⟩
    rintro ⟨root, found, below⟩
    rw [root_absolute] at found
    cases found
    exact absurd below (by decide)
  · rintro ⟨-, complete⟩
    have refused : validateExternalCommand tree [] (.parse "./plugins")
        ["tool"] = .error (.escapes "tool") := by decide +kernel
    have resolved : tree.canonicalize [] (PathName.join (.parse "./plugins") (.parse "tool")) =
        some ["plugins", "tool"] := by decide +kernel
    have inside : ResolvesInside tree [] (.parse "./plugins")
        (PathName.join (.parse "./plugins") (.parse "tool")) :=
      ⟨_, resolved, _, root_dotted, by decide⟩
    have stays : ∀ root, tree.canonicalize [] (.parse "./plugins") = some root →
        LinksStay tree root root (PathName.parse "tool").segments := by
      intro root found
      rw [root_dotted] at found
      cases found
      trivial
    obtain ⟨path, accepted⟩ := complete "tool" [] rfl (by decide) ⟨inside, stays⟩
    rw [refused] at accepted
    cases accepted

end PluginSample

end FusionRouter

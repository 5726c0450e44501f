import FusionRouter.Lib.Files
import FusionRouter.Security.Paths

/-!
# The filesystem connector

The connector canonicalizes its path within a trust root.  Of the declared
permissions it looks at the kinds only, so that any filesystem permission opens
the whole root, and so does one for the network.
-/

namespace FusionRouter

open Files

inductive Permission where
  | network
  | filesystem (path : String)
  | http (endpoint : String)
  | secrets (name : String)
  | environment (name : String)
deriving Repr, DecidableEq

structure ConnectorError where
  connector : String
  capability : String
  reason : String
  retryable : Bool
deriving Repr, DecidableEq

/-- How the host canonicalizes and reads. -/
structure FileHost where
  canonicalize : PathName → Option CanonicalPath
  readToString : CanonicalPath → Except String String

structure FilesystemPlugin where
  host : FileHost
  root : String

def Permission.opensFiles : Permission → Bool
  | .network | .filesystem _ => true
  | _ => false

namespace FilesystemPlugin

def failure (capability reason : String) : ConnectorError :=
  { connector := "filesystem"
    capability := capability
    reason := reason
    retryable := false }

variable (plugin : FilesystemPlugin)

def errorText (path : String) : PathError PathName → String
  | .rootMissing _ => "trust root does not exist: " ++ plugin.root
  | .candidateMissing _ =>
    "candidate path does not exist or is inaccessible: " ++ path
  | .escape _ => "path escapes trust root: " ++ path

def locate (path : PathName) : Except (PathError PathName) CanonicalPath :=
  canonicalizeWithin plugin.host.canonicalize (.parse plugin.root) path

/-- The content of the file, once its path is among the inputs. -/
def read (capability : String) (permissions : List Permission)
    (path : String) : Except ConnectorError String :=
  match plugin.locate (.parse path) with
  | .error error => .error (failure capability
      ("path rejected (Law 10): " ++ plugin.errorText path error))
  | .ok canonical =>
    if permissions ≠ [] ∧ ¬ permissions.any Permission.opensFiles then
      .error (failure capability "filesystem read is not covered by declared permissions")
    else
      match plugin.host.readToString canonical with
      | .error error =>
        .error (failure capability ("failed to read file: " ++ error))
      | .ok content => .ok content

def execute (capability : String) (permissions : List Permission)
    (input : Json) : Except ConnectorError String :=
  match (input.get "path").bind Json.asStr with
  | none => .error (failure capability "Missing 'path' field")
  | some path => plugin.read capability permissions path

/-- A filesystem permission resolves to the file or to one of its ancestors
inside the root. -/
def Covered (permissions : List Permission) (canonical : CanonicalPath) :
    Prop :=
  ∃ path, .filesystem path ∈ permissions ∧ ∃ granted,
    plugin.locate (PathName.join (.parse plugin.root) (.parse path)) =
      .ok granted ∧ granted <+: canonical

end FilesystemPlugin

/-- For a file that can be read, the permissions bound the access exactly if
none is for files or the network, or if one of them covers the file. -/
theorem permissions_bound_access (plugin : FilesystemPlugin)
    (capability : String) (permissions : List Permission) (input : Json)
    (declared : permissions ≠ []) (path content : String) (canonical : CanonicalPath)
    (given : (input.get "path").bind Json.asStr = some path)
    (located : plugin.locate (.parse path) = .ok canonical)
    (readable : plugin.host.readToString canonical = .ok content) :
    (plugin.execute capability permissions input = .ok content →
        plugin.Covered permissions canonical) ↔
      (∀ permission ∈ permissions, permission.opensFiles = false) ∨
        plugin.Covered permissions canonical := by
  have passed : plugin.execute capability permissions input = .ok content ↔
      permissions.any Permission.opensFiles = true := by
    unfold FilesystemPlugin.execute FilesystemPlugin.read
    simp [given, located, readable, declared]
  rw [passed]
  by_cases covered : plugin.Covered permissions canonical <;> simp [covered]

namespace FilesystemSample

/-- Two directories below a root, with a file in one of them. -/
def plugin : FilesystemPlugin :=
  { host :=
      { canonicalize := fun path =>
          if path = .parse "/srv" then some ["srv"]
          else if path = .parse "/srv/public" then some ["srv", "public"]
          else if path = .parse "/srv/private/key" then
            some ["srv", "private", "key"]
          else none
        readToString := fun _ => .ok "secret" }
    root := "/srv" }

def input : Json := .object [("path", .string "/srv/private/key")]

end FilesystemSample

open FilesystemSample in
theorem http_permission_refused :
    plugin.execute "fs.read" [.http "api"] input ≠ .ok "secret" ∧
      (plugin.execute "fs.read" [.http "api"] input = .ok "secret" →
        plugin.Covered [.http "api"] ["srv", "private", "key"]) :=
  ⟨by decide, (permissions_bound_access plugin "fs.read" [.http "api"] input (by decide)
    "/srv/private/key" "secret" _ rfl (by decide) rfl).mpr (Or.inl (by decide))⟩

open FilesystemSample in
/-- The permission is for another directory. -/
theorem uncovered_file_read :
    plugin.execute "fs.read" [.filesystem "public"] input = .ok "secret" ∧
      ¬ plugin.Covered [.filesystem "public"] ["srv", "private", "key"] := by
  refine ⟨by decide, ?_⟩
  rintro ⟨path, member, granted, located, covers⟩
  cases List.mem_singleton.mp member
  have same : granted = ["srv", "public"] := Except.ok.inj (located.symm.trans (by decide))
  subst same
  exact absurd covers (by decide)

end FusionRouter

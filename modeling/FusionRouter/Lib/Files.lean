import Mathlib.Algebra.Ring.Nat
import Mathlib.Data.List.Induction

/-!
# File trees with symbolic links

A path is resolved segment by segment, following at most a number of links, to
the names that lead from the root to an entry without any link.  Lexical
normalization removes `.` and `..` from the text of a path without looking at
the tree; the two agree where no link is met.
-/

namespace Files

open List

/-- A piece of a path between slashes; an empty piece reads like `.`. -/
inductive Segment where
  | current
  | parent
  | name (text : String)
deriving Repr, DecidableEq

structure PathName where
  absolute : Bool
  segments : List Segment
deriving Repr, DecidableEq

def Segment.ofText (text : String) : Segment :=
  if text = "" ∨ text = "." then .current
  else if text = ".." then .parent
  else .name text

def PathName.parse (text : String) : PathName :=
  match text.toList with
  | [] => { absolute := false, segments := [] }
  | '/' :: rest =>
    { absolute := true
      segments := (rest.splitOn '/').map (fun piece => Segment.ofText (String.ofList piece)) }
  | letters =>
    { absolute := false
      segments := (letters.splitOn '/').map (fun piece => Segment.ofText (String.ofList piece)) }

/-- The absolute path of the names. -/
def PathName.ofNames (names : List String) : PathName :=
  { absolute := true, segments := names.map .name }

/-- The second path, read from the directory of the first. -/
def PathName.join (base path : PathName) : PathName :=
  if path.absolute then path
  else { base with segments := base.segments ++ path.segments }

/-! ### Components and lexical normalization -/

inductive Component where
  | rootDir
  | curDir
  | parentDir
  | normal (name : String)
deriving Repr, DecidableEq

def Segment.component? : Segment → Option Component
  | .current => none
  | .parent => some .parentDir
  | .name text => some (.normal text)

/-- The components of a path: `.` counts only at the start of a relative
path. -/
def PathName.components (path : PathName) : List Component :=
  if path.absolute then
    .rootDir :: path.segments.filterMap Segment.component?
  else
    match path.segments with
    | .current :: rest => .curDir :: rest.filterMap Segment.component?
    | segments => segments.filterMap Segment.component?

/-- `path.starts_with(base)`, component by component. -/
def PathName.StartsWith (path base : PathName) : Prop :=
  base.components <+: path.components

instance (path base : PathName) : Decidable (path.StartsWith base) :=
  inferInstanceAs (Decidable (_ <+: _))

/-- The effect of a component on the names of a normalized path. -/
def Component.normalize (names : List String) : Component → List String
  | .rootDir => []
  | .curDir => names
  | .parentDir => names.dropLast
  | .normal name => names ++ [name]

/-- The path without `.` and `..`. -/
def PathName.normalize (path : PathName) : PathName :=
  { absolute := path.absolute
    segments := (path.components.foldl Component.normalize []).map .name }

/-! ### Trees -/

inductive Entry (Content : Type) where
  | directory
  | file (content : Content)
  | link (target : PathName)
deriving Repr, DecidableEq

def Entry.isDirectory {Content : Type} : Entry Content → Bool
  | .directory => true
  | _ => false

theorem Entry.any_isDirectory {Content : Type} {found : Option (Entry Content)} :
    found.any Entry.isDirectory = true ↔ found = some .directory := by
  cases found with
  | none => simp
  | some entry => cases entry <;> simp [Entry.isDirectory]

/-- The entries of a file system by their names from the root. -/
structure FileTree (Content : Type) where
  entry : List String → Option (Entry Content)
  root : entry [] = some .directory
  parent : ∀ names name, entry (names ++ [name]) ≠ none → entry names = some .directory

variable {Content : Type}

namespace FileTree

/-- The tree of a list of entries. -/
def ofEntries (entries : List (List String × Entry Content))
    (closed : ∀ entry ∈ entries, entry.1.dropLast = [] ∨
      (entries.lookup entry.1.dropLast).any Entry.isDirectory = true) : FileTree Content :=
  { entry := fun names =>
      if names = [] then some .directory else entries.lookup names
    root := rfl
    parent := by
      intro names name found
      rw [if_neg (List.append_ne_nil_of_right_ne_nil _ (List.cons_ne_nil _ _))] at found
      obtain ⟨entry, present⟩ := Option.ne_none_iff_exists'.mp found
      have member : (names ++ [name], entry) ∈ entries := by
        obtain ⟨before, after, rfl, -⟩ := List.lookup_eq_some_iff.mp present
        simp
      rcases closed _ member with top | below
      · rw [List.dropLast_concat] at top
        rw [if_pos top]
      · rw [List.dropLast_concat] at below
        split
        · rfl
        · exact Entry.any_isDirectory.mp below }

def isDirectory (tree : FileTree Content) (place : List String) : Bool :=
  (tree.entry place).any Entry.isDirectory

/-- Follows the segments from a place; what is left after a link is handed
on. -/
def walkWith (tree : FileTree Content)
    (follow : List String → List Segment → Option (List String)) :
    List String → List Segment → Option (List String)
  | place, [] => some place
  | place, segment :: rest =>
    if tree.isDirectory place then
      match segment with
      | .current => tree.walkWith follow place rest
      | .parent => tree.walkWith follow place.dropLast rest
      | .name text =>
        match tree.entry (place ++ [text]) with
        | none => none
        | some (.link target) =>
          follow (if target.absolute then [] else place) (target.segments ++ rest)
        | some _ => tree.walkWith follow (place ++ [text]) rest
    else none

/-- Resolves segments from a place through at most the given number of
links. -/
def resolve (tree : FileTree Content) :
    Nat → List String → List Segment → Option (List String)
  | 0 => tree.walkWith fun _ _ => none
  | links + 1 => tree.walkWith (tree.resolve links)

/-- The number of links after which a lookup fails. -/
def maxLinks : Nat := 40

/-- The names of the entry that a path leads to from a working directory. -/
def canonicalize (tree : FileTree Content) (workingDir : List String)
    (path : PathName) : Option (List String) :=
  if path.absolute then tree.resolve maxLinks [] path.segments
  else if path.segments = [] then none
  else tree.resolve maxLinks workingDir path.segments

/-- Something other than a link is at the place. -/
def Settled (tree : FileTree Content) (place : List String) : Prop :=
  ∃ entry, tree.entry place = some entry ∧ ∀ target, entry ≠ .link target

variable {tree : FileTree Content}

variable {place names final workingDir : List String}
  {follow : List String → List Segment → Option (List String)}
  {segments : List Segment}

theorem isDirectory_iff : tree.isDirectory place = true ↔ tree.entry place = some .directory :=
  Entry.any_isDirectory

theorem settled_of_directory (directory : tree.entry place = some .directory) :
    tree.Settled place := ⟨.directory, directory, by simp⟩

theorem directory_of_entry {below : List String}
    (present : tree.entry (names ++ below) ≠ none) (proper : below ≠ []) :
    tree.entry names = some .directory := by
  induction below using reverseRecOn with
  | nil => exact (proper rfl).elim
  | append_singleton below name ih =>
    rw [← append_assoc] at present
    have upper := tree.parent _ _ present
    by_cases last : below = []
    · rw [last, append_nil] at upper
      exact upper
    · apply ih _ last
      rw [upper]
      exact Option.some_ne_none _

theorem directory_dropLast (directory : tree.entry place = some .directory) :
    tree.entry place.dropLast = some .directory := by
  rcases eq_nil_or_concat place with rfl | ⟨names, name, rfl⟩
  · exact directory
  · rw [concat_eq_append] at directory ⊢
    rw [dropLast_concat]
    apply tree.parent names name
    rw [directory]
    exact Option.some_ne_none _

/-! ### What a lookup leads to -/

theorem isDirectory_of_walkWith {segment : Segment} {rest : List Segment}
    (walked : tree.walkWith follow place (segment :: rest) = some final) :
    tree.entry place = some .directory := by
  apply isDirectory_iff.mp
  by_contra other
  cases segment <;> rw [walkWith, if_neg other] at walked <;> cases walked

theorem settled_of_walkWith
    (followed : ∀ place segments final, tree.entry place = some .directory →
      follow place segments = some final → tree.Settled final) (settled : tree.Settled place)
    (walked : tree.walkWith follow place segments = some final) : tree.Settled final := by
  induction segments generalizing place with
  | nil =>
    cases walked
    exact settled
  | cons segment rest ih =>
    have directory := isDirectory_of_walkWith walked
    cases segment with
    | current =>
      rw [walkWith, if_pos (isDirectory_iff.mpr directory)] at walked
      exact ih settled walked
    | parent =>
      rw [walkWith, if_pos (isDirectory_iff.mpr directory)] at walked
      exact ih (settled_of_directory (directory_dropLast directory)) walked
    | name text =>
      rw [walkWith, if_pos (isDirectory_iff.mpr directory)] at walked
      split at walked
      · cases walked
      next target _ =>
        apply followed _ _ _ _ walked
        split
        · exact tree.root
        · exact directory
      next entry notLink present =>
        exact ih ⟨entry, present, notLink⟩ walked

theorem settled_of_resolve {links : Nat} (settled : tree.Settled place)
    (resolved : tree.resolve links place segments = some final) : tree.Settled final := by
  induction links generalizing place segments final with
  | zero =>
    apply settled_of_walkWith _ settled resolved
    intro _ _ _ _ impossible
    cases impossible
  | succ links ih =>
    apply settled_of_walkWith _ settled resolved
    intro between rest final directory followed
    exact ih (settled_of_directory directory) followed

theorem settled_of_canonicalize {path : PathName}
    (found : tree.canonicalize workingDir path = some final) : tree.Settled final := by
  unfold canonicalize at found
  split at found
  · exact settled_of_resolve (settled_of_directory tree.root) found
  · split at found
    · cases found
    next nonempty =>
      obtain ⟨segment, rest, segments⟩ := exists_cons_of_ne_nil nonempty
      rw [segments] at found
      have directory : tree.entry workingDir = some .directory := by
        cases maxLinks with
        | zero | succ links => exact isDirectory_of_walkWith found
      exact settled_of_resolve (settled_of_directory directory) found

theorem settled_of_append {below : List String}
    (settled : tree.Settled (names ++ below)) : tree.Settled names := by
  by_cases last : below = []
  · rw [last, append_nil] at settled
    exact settled
  · obtain ⟨entry, present, -⟩ := settled
    apply settled_of_directory
    apply directory_of_entry _ last
    rw [present]
    exact Option.some_ne_none _

theorem walkWith_name {text : String} {rest : List Segment}
    (settled : tree.Settled (place ++ [text])) :
    tree.walkWith follow place (.name text :: rest) =
      tree.walkWith follow (place ++ [text]) rest := by
  obtain ⟨entry, present, notLink⟩ := settled
  have directory : tree.entry place = some .directory := by
    apply tree.parent place text
    rw [present]
    exact Option.some_ne_none _
  rw [walkWith, if_pos (isDirectory_iff.mpr directory), present]
  cases entry with
  | directory | file content => rfl
  | link target => exact (notLink target rfl).elim

theorem walkWith_names (settled : tree.Settled (place ++ names)) :
    tree.walkWith follow place (names.map .name) = some (place ++ names) := by
  induction names generalizing place with
  | nil => rw [map_nil, walkWith, append_nil]
  | cons text rest ih =>
    rw [append_cons] at settled ⊢
    rw [map_cons, walkWith_name (settled_of_append settled), ih settled]

theorem resolve_names {links : Nat} (settled : tree.Settled (place ++ names)) :
    tree.resolve links place (names.map .name) = some (place ++ names) := by
  cases links with
  | zero | succ links => exact walkWith_names settled

theorem canonicalize_ofNames (settled : tree.Settled names) :
    tree.canonicalize workingDir (.ofNames names) = some names := by
  unfold canonicalize PathName.ofNames
  rw [if_pos rfl, resolve_names (by simpa using settled), nil_append]

end FileTree

end Files

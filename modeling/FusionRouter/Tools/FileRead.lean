import FusionRouter.Lib.Files
import FusionRouter.Lib.Utf8
import FusionRouter.Security.Paths

/-!
# The file reading tool

`FileReadTool` opens a path below its one directory and returns its text.
`AppState::new` registers such a tool for each directory that may be read, in a
registry that keeps one tool for each name.
-/

namespace FusionRouter

open Files

def maxFileReadBytes : Nat := 2 * 1024 * 1024

structure FileReadTool where
  allowedDir : String
deriving Repr, DecidableEq

structure FileReadOutput where
  content : String
  bytesRead : Nat
  truncated : Bool
deriving Repr, DecidableEq

/-- The file that was opened is the one at the validated path.  Places in the
tree stand for the numbers of device and file. -/
def verifyOpenedFileIdentity (tree : FileTree ByteArray)
    (workingDir opened canonical : CanonicalPath) : Except String Unit :=
  match tree.canonicalize workingDir (.ofNames canonical) with
  | none => .error "re-open failed"
  | some reopened =>
    if opened = reopened then .ok ()
    else .error "opened file identity does not match validated path"

/-- At most the cap and one byte are read. -/
def FileReadOutput.ofContent (content : String) : FileReadOutput :=
  { content :=
      if maxFileReadBytes < content.utf8ByteSize then
        (String.fromUTF8? (content.toUTF8.extract 0 maxFileReadBytes)).getD content
      else content
    bytesRead := content.utf8ByteSize
    truncated := maxFileReadBytes < content.utf8ByteSize }

namespace FileReadTool

def allowed (tool : FileReadTool) : PathName :=
  .parse tool.allowedDir

def readOpened (tree : FileTree ByteArray) (opened : CanonicalPath) :
    Except String FileReadOutput :=
  match tree.entry opened with
  | some (.file bytes) =>
    match String.fromUTF8? (bytes.extract 0 (maxFileReadBytes + 1)) with
    | none => .error "File read error: stream did not contain valid UTF-8"
    | some content => .ok (.ofContent content)
  | _ => .error "File read error: Is a directory (os error 21)"

/-- `execute`, once the path has been found among the arguments. -/
def read (tree : FileTree ByteArray) (workingDir : CanonicalPath)
    (tool : FileReadTool) (path : PathName) : Except String FileReadOutput :=
  match tree.canonicalize workingDir tool.allowed with
  | none => .error "Allowed directory not found"
  | some allowedCanonical =>
    -- `File::open`
    match tree.canonicalize workingDir (tool.allowed.join path) with
    | none => .error "Path does not exist or is inaccessible"
    | some opened =>
      match canonicalizeWithin (tree.canonicalize workingDir) tool.allowed
          (tool.allowed.join path) with
      | .error _ => .error "Path does not exist or is inaccessible"
      | .ok canonical =>
        if ¬ allowedCanonical <+: canonical then
          .error "Path traversal detected"
        else
          match verifyOpenedFileIdentity tree workingDir opened canonical with
          | .error _ =>
            .error "Path changed between open and validation; refusing"
          | .ok _ => readOpened tree opened

def execute (tree : FileTree ByteArray) (workingDir : CanonicalPath)
    (tool : FileReadTool) (args : Json) : Except String FileReadOutput :=
  match (args.get "path").bind Json.asStr with
  | none => .error "Missing 'path' argument"
  | some path => tool.read tree workingDir (.parse path)

end FileReadTool

/-! ### The registry -/

inductive RegisteredTool where
  | calculator
  | search
  | fileRead (tool : FileReadTool)
  | httpRequest
  | shellCommand
deriving Repr, DecidableEq

def RegisteredTool.name : RegisteredTool → String
  | .calculator => "calculator"
  | .search => "search"
  | .fileRead _ => "file_read"
  | .httpRequest => "http_request"
  | .shellCommand => "shell_command"

abbrev ToolRegistry := Table String RegisteredTool

def ToolRegistry.register (registry : ToolRegistry) (tool : RegisteredTool) :
    ToolRegistry :=
  registry.insert tool.name tool

/-- The part of the configuration that decides which tools are registered. -/
structure ToolsConfig where
  allowedReadDirectories : List String
  enableHttpTool : Bool
deriving Repr, DecidableEq

def registerFileReads (registry : ToolRegistry) (directories : List String) :
    ToolRegistry :=
  directories.foldl (fun registry dir => registry.register (.fileRead { allowedDir := dir }))
    registry

/-- The registry of `AppState::new`. -/
def appStateTools (config : ToolsConfig) : ToolRegistry :=
  let registry := registerFileReads
    ((ToolRegistry.register Table.empty .calculator).register .search) config.allowedReadDirectories
  let registry :=
    if config.enableHttpTool then registry.register .httpRequest else registry
  registry.register .shellCommand

def ToolRegistry.callFileRead (registry : ToolRegistry)
    (tree : FileTree ByteArray) (workingDir : CanonicalPath) (args : Json) :
    Option (Except String FileReadOutput) :=
  match registry "file_read" with
  | some (.fileRead tool) => some (tool.execute tree workingDir args)
  | _ => none

def ReturnsContent (tree : FileTree ByteArray) (workingDir : CanonicalPath)
    (config : ToolsConfig) (path text : String) : Prop :=
  ∃ output, (appStateTools config).callFileRead tree workingDir
      (.object [("path", .string path)]) = some (.ok output) ∧ output.content = text

/-- The canonical path lies inside a directory of the configuration. -/
def Listed (tree : FileTree ByteArray) (workingDir : CanonicalPath)
    (directories : List String) (canonical : CanonicalPath) : Prop :=
  ∃ dir ∈ directories, LiesWithin (tree.canonicalize workingDir) (.parse dir) canonical

/-! ### What the tool returns -/

section

variable {tool : FileReadTool}

theorem read_inside (found : tree.canonicalize workingDir (tool.allowed.join path) = some canonical)
    (inside : LiesWithin (tree.canonicalize workingDir) tool.allowed canonical) :
    tool.read tree workingDir path = FileReadTool.readOpened tree canonical := by
  have within := canonicalizeWithin_eq_ok.mpr ⟨found, inside⟩
  obtain ⟨root, rooted, below⟩ := inside
  rw [FileReadTool.read, rooted, found, within]
  dsimp only
  rw [if_neg (not_not_intro below), verifyOpenedFileIdentity,
    FileTree.canonicalize_ofNames (FileTree.settled_of_canonicalize found)]
  dsimp only
  rw [if_pos rfl]

theorem read_outside (absolute : path.absolute = true)
    (found : tree.canonicalize workingDir path = some canonical)
    (outside : ¬ LiesWithin (tree.canonicalize workingDir) tool.allowed
      canonical) : ∃ error, tool.read tree workingDir path = .error error := by
  have joined : tool.allowed.join path = path := if_pos absolute
  rw [FileReadTool.read, joined]
  split
  · exact ⟨_, rfl⟩
  · rw [found]
    dsimp only
    split
    · exact ⟨_, rfl⟩
    next other within =>
      obtain ⟨same, inside⟩ := canonicalizeWithin_eq_ok.mp within
      rw [found] at same
      cases same
      exact (outside inside).elim

end

/-- Each registration replaces the one before. -/
theorem registerFileReads_apply (registry : ToolRegistry) (directories : List String) :
    registerFileReads registry directories "file_read" =
      (directories.getLast?.map fun dir => RegisteredTool.fileRead { allowedDir := dir }).or
          (registry "file_read") := by
  induction directories using List.reverseRecOn with
  | nil => rfl
  | append_singleton directories last _ =>
    rw [registerFileReads, List.foldl_append, List.getLast?_concat]
    exact Table.insert_same (registerFileReads registry directories)
      "file_read" (RegisteredTool.fileRead { allowedDir := last })

theorem appStateTools_fileRead (config : ToolsConfig) :
    appStateTools config "file_read" = config.allowedReadDirectories.getLast?.map fun dir =>
        .fileRead { allowedDir := dir } := by
  have loop := registerFileReads_apply
    ((ToolRegistry.register Table.empty .calculator).register .search) config.allowedReadDirectories
  have before : ((ToolRegistry.register Table.empty .calculator).register
      .search) "file_read" = none := by decide
  rw [before, Option.or_none] at loop
  unfold appStateTools
  rw [ToolRegistry.register, Table.insert_of_ne _ _ (by decide)]
  split
  · rw [ToolRegistry.register, Table.insert_of_ne _ _ (by decide), loop]
  · exact loop

theorem readOpened_small (isFile : tree.entry canonical = some (.file text.toUTF8))
    (small : text.utf8ByteSize ≤ maxFileReadBytes) :
    FileReadTool.readOpened tree canonical = .ok (.ofContent text) := by
  have whole : text.toUTF8.extract 0 (maxFileReadBytes + 1) = text.toUTF8 := by
    apply ByteArray.ext
    rw [ByteArray.data_extract]
    apply Array.extract_eq_self_of_le
    exact Nat.le_succ_of_le small
  rw [FileReadTool.readOpened, isFile]
  dsimp only
  rw [whole, Utf8.fromUTF8_toUTF8]

/-- The text comes back exactly if the file lies inside the last directory. -/
theorem returnsContent_iff (absolute : (PathName.parse path).absolute = true)
    (found : tree.canonicalize workingDir (.parse path) = some canonical)
    (isFile : tree.entry canonical = some (.file text.toUTF8))
    (small : text.utf8ByteSize ≤ maxFileReadBytes) :
    ReturnsContent tree workingDir config path text ↔
      Listed tree workingDir config.allowedReadDirectories.getLast?.toList
        canonical := by
  unfold ReturnsContent ToolRegistry.callFileRead Listed
  rw [appStateTools_fileRead]
  cases config.allowedReadDirectories.getLast? with
  | none => simp
  | some dir =>
    have argument : ∀ tool : FileReadTool, tool.execute tree workingDir
        (.object [("path", .string path)]) = tool.read tree workingDir (.parse path) := fun _ => rfl
    simp only [Option.map_some, argument, Option.some.injEq,
      Option.toList_some, List.mem_singleton, exists_eq_left]
    by_cases inside : LiesWithin (tree.canonicalize workingDir) (.parse dir) canonical
    · -- an absolute path is opened as it is
      have joined : PathName.join (.parse dir) (.parse path) = .parse path := if_pos absolute
      rw [← joined] at found
      rw [read_inside found inside, readOpened_small isFile small]
      simp [FileReadOutput.ofContent, Nat.not_lt.mpr small, inside]
    · obtain ⟨error, refused⟩ := read_outside absolute found inside
      have refusal : FileReadTool.read tree workingDir { allowedDir := dir }
          (.parse path) = .error error := refused
      rw [refusal]
      constructor
      · rintro ⟨output, impossible, -⟩
        cases impossible
      · intro listed
        exact (inside listed).elim

theorem listed_of_last (listed : Listed tree workingDir directories.getLast?.toList canonical) :
    Listed tree workingDir directories canonical := by
  obtain ⟨dir, member, inside⟩ := listed
  refine ⟨dir, ?_, inside⟩
  apply List.mem_of_getLast?
  simpa using member

/-- Reading agrees with the list of directories exactly for the files inside
the last directory and for those inside none. -/
theorem file_read_iff (tree : FileTree ByteArray) (workingDir : CanonicalPath)
    (config : ToolsConfig) (path : String) (absolute : (PathName.parse path).absolute = true)
    (canonical : CanonicalPath)
    (found : tree.canonicalize workingDir (.parse path) = some canonical)
    (text : String) (isFile : tree.entry canonical = some (.file text.toUTF8))
    (small : text.utf8ByteSize ≤ maxFileReadBytes) :
    (ReturnsContent tree workingDir config path text ↔
        Listed tree workingDir config.allowedReadDirectories canonical) ↔
      Listed tree workingDir config.allowedReadDirectories.getLast?.toList canonical ∨
        ¬ Listed tree workingDir config.allowedReadDirectories canonical := by
  rw [returnsContent_iff absolute found isFile small]
  constructor
  · intro agrees
    by_cases listed : Listed tree workingDir config.allowedReadDirectories canonical
    · exact .inl (agrees.mpr listed)
    · exact .inr listed
  · rintro (last | unlisted)
    · exact ⟨fun _ => listed_of_last last, fun _ => last⟩
    · exact ⟨listed_of_last, fun listed => (unlisted listed).elim⟩

namespace FileReadSample

def tree : FileTree ByteArray :=
  .ofEntries
    [(["data"], .directory), (["data", "a.txt"], .file "first".toUTF8), (["docs"], .directory),
      (["docs", "b.txt"], .file "second".toUTF8)] (by decide)

def config : ToolsConfig :=
  { allowedReadDirectories := ["/data", "/docs"]
    enableHttpTool := false }

theorem data_root : tree.canonicalize [] (.parse "/data") = some ["data"] := by
  decide

theorem docs_root : tree.canonicalize [] (.parse "/docs") = some ["docs"] := by
  decide

theorem first_found : tree.canonicalize [] (.parse "/data/a.txt") = some ["data", "a.txt"] := by
  decide

theorem second_found : tree.canonicalize [] (.parse "/docs/b.txt") = some ["docs", "b.txt"] := by
  decide

theorem second_directory_read :
    tree.canonicalize [] (.parse "/docs/b.txt") = some ["docs", "b.txt"] ∧
      tree.entry ["docs", "b.txt"] = some (.file "second".toUTF8) ∧
        (ReturnsContent tree [] config "/docs/b.txt" "second" ↔
          Listed tree [] config.allowedReadDirectories ["docs", "b.txt"]) := by
  have isFile : tree.entry ["docs", "b.txt"] = some (.file "second".toUTF8) := rfl
  refine ⟨second_found, isFile, ?_⟩
  refine (file_read_iff tree [] config "/docs/b.txt" (by decide)
    ["docs", "b.txt"] second_found "second" isFile (by decide)).mpr (.inl ?_)
  exact ⟨"/docs", List.mem_singleton.mpr rfl, ["docs"], docs_root, by decide⟩

/-- A file in the first of two directories cannot be read. -/
theorem first_directory_lost :
    tree.canonicalize [] (.parse "/data/a.txt") = some ["data", "a.txt"] ∧
      tree.entry ["data", "a.txt"] = some (.file "first".toUTF8) ∧
        ¬ (ReturnsContent tree [] config "/data/a.txt" "first" ↔
          Listed tree [] config.allowedReadDirectories ["data", "a.txt"]) := by
  have isFile : tree.entry ["data", "a.txt"] = some (.file "first".toUTF8) := rfl
  refine ⟨first_found, isFile, ?_⟩
  rw [returnsContent_iff (by decide) first_found isFile (by decide)]
  intro agrees
  have listed : Listed tree [] config.allowedReadDirectories ["data", "a.txt"] :=
    ⟨"/data", List.mem_cons_self, ["data"], data_root, by decide⟩
  obtain ⟨dir, member, root, found, below⟩ := agrees.mpr listed
  have last : dir = "/docs" := List.mem_singleton.mp member
  rw [last, docs_root] at found
  cases found
  exact absurd below (by decide)

end FileReadSample

end FusionRouter

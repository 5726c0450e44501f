import FusionRouter.Tools.FileRead

/-!
# The bound on the text of a file

The tool reads one byte more than the cap, decodes what it has read and cuts it
at the cap.  Both cuts must fall between two characters of a longer file:
otherwise the file is refused, or the text is returned with the byte too many.
-/

namespace FusionRouter

open Files String.Pos.Raw

/-- No longer start of the text fits into the bytes. -/
structure LongestStart (content text : String) (limit : Nat) : Prop where
  starts : ∃ rest, text = content ++ rest
  fits : content.utf8ByteSize ≤ limit
  longest : ∀ other rest, text = other ++ rest →
    other.utf8ByteSize ≤ limit → other.utf8ByteSize ≤ content.utf8ByteSize

/-- The longest start within the cap, which is reported as truncated if the
text goes on. -/
def ReadsExactly (text : String) (returned : Except String FileReadOutput) :
    Prop :=
  ∃ output, returned = .ok output ∧ LongestStart output.content text maxFileReadBytes ∧
    (output.truncated = true ↔ maxFileReadBytes < text.utf8ByteSize)

/-- What is read up to a character boundary is a start of the text. -/
theorem fromUTF8_extract {size : Nat} (boundary : IsValid text ⟨size⟩) :
    ∃ start rest, text = start ++ rest ∧ start.utf8ByteSize = size ∧
      String.fromUTF8? (text.toUTF8.extract 0 size) = some start := by
  obtain ⟨start, rest, rfl, same⟩ := isValid_iff_exists_append.mp boundary
  cases same
  refine ⟨start, rest, rfl, rfl, ?_⟩
  have cut : (start ++ rest).toUTF8.extract 0 start.utf8ByteSize = start.toUTF8 := by
    rw [String.toUTF8_eq_toByteArray, String.toUTF8_eq_toByteArray, String.toByteArray_append]
    exact ByteArray.extract_append_eq_left rfl
  exact cut ▸ Utf8.fromUTF8_toUTF8 start

theorem fromUTF8_extract_of_not {size : Nat}
    (within : size ≤ text.utf8ByteSize) (inner : ¬ IsValid text ⟨size⟩) :
    String.fromUTF8? (text.toUTF8.extract 0 size) = none := by
  rw [String.toUTF8_eq_toByteArray, String.fromUTF8?]
  apply dif_neg
  intro valid
  exact inner (isValid_iff_isValidUTF8_extract_zero.mpr ⟨within, valid⟩)

/-- A longer file is read exactly if both cuts fall between characters. -/
theorem readsExactly_readOpened_iff {tree : FileTree ByteArray}
    (isFile : tree.entry canonical = some (.file text.toUTF8)) :
    ReadsExactly text (FileReadTool.readOpened tree canonical) ↔
      text.utf8ByteSize ≤ maxFileReadBytes ∨ IsValid text ⟨maxFileReadBytes⟩ ∧
          IsValid text ⟨maxFileReadBytes + 1⟩ := by
  by_cases small : text.utf8ByteSize ≤ maxFileReadBytes
  · rw [readOpened_small isFile small]
    refine ⟨fun _ => Or.inl small, fun _ => ⟨_, rfl, ?_, ?_⟩⟩
    · rw [FileReadOutput.ofContent, if_neg (Nat.not_lt.mpr small)]
      refine ⟨⟨"", String.append_empty.symm⟩, small, ?_⟩
      rintro other rest rfl _
      rw [String.utf8ByteSize_append]
      exact Nat.le_add_right _ _
    · simp [FileReadOutput.ofContent]
  rw [or_iff_right small, FileReadTool.readOpened, isFile]
  dsimp only
  have long := Nat.lt_of_not_le small
  by_cases last : IsValid text ⟨maxFileReadBytes + 1⟩
  · obtain ⟨content, rest, rfl, size, decoded⟩ := fromUTF8_extract last
    rw [decoded, and_iff_left last]
    dsimp only
    have beyond : maxFileReadBytes < content.utf8ByteSize := by omega
    have same : (content ++ rest).toByteArray.extract 0 maxFileReadBytes =
        content.toByteArray.extract 0 maxFileReadBytes := by
      rw [String.toByteArray_append]
      apply ByteArray.ext
      simp [ByteArray.data_extract, Nat.sub_eq_zero_of_le beyond.le]
    have moved : IsValid (content ++ rest) ⟨maxFileReadBytes⟩ ↔
        IsValid content ⟨maxFileReadBytes⟩ := by
      rw [isValid_iff_isValidUTF8_extract_zero, isValid_iff_isValidUTF8_extract_zero]
      exact and_congr (iff_of_true long.le beyond.le) (by rw [same])
    rw [moved]
    by_cases middle : IsValid content ⟨maxFileReadBytes⟩
    · obtain ⟨start, more, rfl, full, again⟩ := fromUTF8_extract middle
      refine iff_of_true ⟨_, rfl, ?_, ?_⟩ middle
      · rw [FileReadOutput.ofContent, if_pos beyond, again]
        exact ⟨⟨more ++ rest, String.append_assoc⟩, full.le, fun _ _ _ fits => full ▸ fits⟩
      · exact iff_of_true (decide_eq_true beyond) long
    · refine iff_of_false ?_ middle
      rintro ⟨_, ⟨⟩, longest, -⟩
      have fits := longest.fits
      rw [FileReadOutput.ofContent, if_pos beyond, fromUTF8_extract_of_not beyond.le middle] at fits
      exact Nat.not_le.mpr beyond fits
  · rw [fromUTF8_extract_of_not long last]
    refine iff_of_false ?_ (fun both => last both.2)
    rintro ⟨_, ⟨⟩, -⟩

/-- Every file inside the directory of the tool is read exactly, but for longer
ones whose text has no boundary at the cap or one byte behind it. -/
theorem bounded_read_exact_iff (tree : FileTree ByteArray)
    (workingDir canonical : CanonicalPath) (tool : FileReadTool) (args : Json) (path text : String)
    (given : (args.get "path").bind Json.asStr = some path)
    (found : tree.canonicalize workingDir (tool.allowed.join (.parse path)) = some canonical)
    (inside : LiesWithin (tree.canonicalize workingDir) tool.allowed canonical)
    (isFile : tree.entry canonical = some (.file text.toUTF8)) :
    ReadsExactly text (tool.execute tree workingDir args) ↔ text.utf8ByteSize ≤ maxFileReadBytes ∨
        IsValid text ⟨maxFileReadBytes⟩ ∧ IsValid text ⟨maxFileReadBytes + 1⟩ := by
  rw [FileReadTool.execute, given]
  dsimp only
  rw [read_inside found inside, readsExactly_readOpened_iff isFile]

namespace FileReadSample

theorem short_file_exact :
    tree.entry ["data", "a.txt"] = some (.file "first".toUTF8) ∧
      ReadsExactly "first" (FileReadTool.execute tree [] ⟨"/data"⟩
        (.object [("path", .string "a.txt")])) :=
  ⟨rfl, (bounded_read_exact_iff tree [] ["data", "a.txt"] ⟨"/data"⟩
    (.object [("path", .string "a.txt")]) "a.txt" "first" rfl
    (by decide) ⟨["data"], data_root, by decide⟩ rfl).mpr (Or.inl (by decide))⟩

/-- As many letters of two bytes as the cap has bytes. -/
def wide : String :=
  .ofList (List.replicate maxFileReadBytes 'é')

def wideTree : FileTree ByteArray :=
  .ofEntries [(["data"], .directory), (["data", "a.txt"], .file wide.toUTF8)]
    (by simp [Entry.isDirectory])

/-- The byte behind the cap is the first one of a letter. -/
theorem wide_file_refused :
    wideTree.entry ["data", "a.txt"] = some (.file wide.toUTF8) ∧
      ¬ ReadsExactly wide (FileReadTool.execute wideTree [] ⟨"/data"⟩
        (.object [("path", .string "a.txt")])) := by
  have isFile : wideTree.entry ["data", "a.txt"] = some (.file wide.toUTF8) := rfl
  refine ⟨isFile, ?_⟩
  have found : wideTree.canonicalize [] (FileReadTool.allowed ⟨"/data"⟩ |>.join (.parse "a.txt")) =
        some ["data", "a.txt"] := by decide
  have root : wideTree.canonicalize [] (FileReadTool.allowed ⟨"/data"⟩) =
      some ["data"] := by decide
  have opened := read_inside found ⟨["data"], root, by decide⟩
  have size : ∀ count, (String.ofList (List.replicate count 'é')).utf8ByteSize = 2 * count := by
    intro count
    induction count with
    | zero => rfl
    | succ count ih =>
      rw [List.replicate_succ, String.ofList_cons, String.utf8ByteSize_append,
        ih, show (String.singleton 'é').utf8ByteSize = 2 by decide]
      omega
  have argument : ∀ tree, FileReadTool.execute tree [] ⟨"/data"⟩
      (.object [("path", .string "a.txt")]) = FileReadTool.read tree []
        ⟨"/data"⟩ (.parse "a.txt") := fun _ => rfl
  rw [argument, opened, readsExactly_readOpened_iff isFile]
  rintro (small | ⟨-, odd⟩)
  · rw [wide, size] at small
    exact absurd small (by decide)
  · obtain ⟨count, even⟩ := isValid_iff_exists_take_toList.mp odd
    rw [wide, String.toList_ofList, List.take_replicate, size] at even
    simp only [maxFileReadBytes] at even
    omega

end FileReadSample

end FusionRouter

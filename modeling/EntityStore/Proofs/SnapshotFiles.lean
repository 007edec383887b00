import EntityStore.Proofs.Reopening

/-!
# Snapshots in files

What was written to a file is read from it, and a directory whose snapshot can be read
opens.  Both are about walking along the parts of a path.  Writing a file where no
directory is leaves all directories in place, so every walk that succeeded before
leads to the same place; and making the directories along a way that can be walked
makes none.

The snapshot of a directory is at the path of the directory with one more part.  The
path may be empty, or end in a slash, or not.
-/

set_option autoImplicit false

namespace EntityStore

/-! ## Paths -/

theorem startsWith_slash_iff (path : String) :
    path.startsWith "/" = true ↔ ['/'] <+: path.toList := by
  rw [String.startsWith_string_iff]
  simp

theorem endsWith_slash_iff (path : String) :
    path.endsWith "/" = true ↔ ['/'] <:+ path.toList := by
  rw [String.endsWith_eq_endsWith_toSlice, String.Slice.endsWith_string_iff]
  simp

theorem checkPath_eq_ok_iff {path : String} :
    checkPath path = .ok () ↔ '\x00' ∉ path.toList ∧ path.utf8ByteSize < pathBound := by
  simp only [checkPath, String.contains_char_eq, decide_eq_true_iff]
  split_ifs with hasNul isLong
  · simp [hasNul]
  · simp [isLong]
  · simp only [hasNul, not_false_eq_true, true_and, true_iff]
    omega

/-- The parts of two paths with a slash between them are those of both. -/
theorem pathParts_slash (first second : String) :
    pathParts (first ++ "/" ++ second) = pathParts first ++ pathParts second := by
  have slash : "/".toList = ['/'] := by simp
  rw [pathParts, String.toList_append, String.toList_append, slash, List.append_assoc,
    List.singleton_append, List.splitOn_append_cons_self, List.map_append, List.filter_append]
  rfl

namespace Storage

/-- The path of a snapshot in all its forms. -/
theorem snapshotFile_cases (directory : String) :
    (directory = "" ∧ snapshotFile directory = "vera.snapshot") ∨
    (∃ before, directory = before ++ "/" ∧
      snapshotFile directory = before ++ "/" ++ "vera.snapshot") ∨
    (directory ≠ "" ∧ snapshotFile directory = directory ++ "/" ++ "vera.snapshot") := by
  have relative : ("vera.snapshot" : String).startsWith "/" = false := by decide +kernel
  rw [snapshotFile, joinPath, relative, if_neg Bool.false_ne_true]
  by_cases empty : directory = ""
  · subst empty
    exact .inl ⟨rfl, rfl⟩
  · have isEmpty : directory.isEmpty = false := by simpa using empty
    by_cases trailing : directory.endsWith "/" = true
    · obtain ⟨before, split⟩ := (endsWith_slash_iff directory).mp trailing
      have whole : directory = String.ofList before ++ "/" := by
        rw [← String.toList_inj, ← split]
        simp
      refine .inr (.inl ⟨String.ofList before, whole, ?_⟩)
      rw [trailing, Bool.or_true, if_pos rfl, ← whole]
    · rw [isEmpty, Bool.eq_false_of_not_eq_true trailing]
      exact .inr (.inr ⟨empty, rfl⟩)

theorem snapshotFile_eq_append (directory : String) :
    ∃ rest, snapshotFile directory = directory ++ rest := by
  rcases snapshotFile_cases directory with ⟨rfl, file⟩ | ⟨before, rfl, file⟩ | ⟨-, file⟩
  · exact ⟨"vera.snapshot", file.trans (String.empty_append).symm⟩
  · exact ⟨"vera.snapshot", file⟩
  · exact ⟨"/" ++ "vera.snapshot", file.trans (String.append_assoc ..)⟩

theorem pathParts_snapshotFile (directory : String) :
    pathParts (snapshotFile directory) = pathParts directory ++ ["vera.snapshot"] := by
  have name : pathParts "vera.snapshot" = ["vera.snapshot"] := by decide
  have nothing : pathParts "" = [] := rfl
  rcases snapshotFile_cases directory with ⟨rfl, file⟩ | ⟨before, rfl, file⟩ | ⟨-, file⟩
  · rw [file, name, nothing, List.nil_append]
  · have trailing : pathParts (before ++ "/") = pathParts before := by
      have parts := pathParts_slash before ""
      rwa [String.append_empty, nothing, List.append_nil] at parts
    rw [file, pathParts_slash, trailing, name]
  · rw [file, pathParts_slash, name]

theorem start_snapshotFile (directory : String) (files : FileTree) :
    files.start (snapshotFile directory) = files.start directory := by
  have same : (snapshotFile directory).startsWith "/" = directory.startsWith "/" := by
    by_cases empty : directory = ""
    · subst empty
      decide +kernel
    · obtain ⟨rest, file⟩ := snapshotFile_eq_append directory
      obtain ⟨first, others, written⟩ :=
        List.exists_cons_of_ne_nil (mt String.toList_eq_nil_iff.mp empty)
      rw [Bool.eq_iff_iff, startsWith_slash_iff, startsWith_slash_iff, file, String.toList_append,
        written, List.cons_append, List.cons_prefix_cons, List.cons_prefix_cons]
      simp
  rw [FileTree.start, FileTree.start, same]

theorem checkPath_of_snapshotFile {directory : String}
    (isPath : checkPath (snapshotFile directory) = .ok ()) : checkPath directory = .ok () := by
  obtain ⟨rest, file⟩ := snapshotFile_eq_append directory
  rw [checkPath_eq_ok_iff, file, String.toList_append, String.utf8ByteSize_append] at isPath
  obtain ⟨noNul, short⟩ := isPath
  exact checkPath_eq_ok_iff.mpr
    ⟨fun member => noNul (List.mem_append_left _ member), by omega⟩

end Storage

namespace FileTree

variable {tree later : FileTree} {place found : String} {parts : List String}

/-! ## Walking -/

theorem walk_cons (tree : FileTree) (place part : String) (rest : List String) :
    tree.walk place (part :: rest) = tree.step place part >>= fun next => tree.walk next rest :=
  List.foldlM_cons ..

theorem walk_append (tree : FileTree) (place : String) (first second : List String) :
    tree.walk place (first ++ second) =
      tree.walk place first >>= fun between => tree.walk between second :=
  List.foldlM_append

/-- A way to a directory begins in one. -/
theorem isDirectory_of_walk (walked : tree.walk place parts = .ok found)
    (isDirectory : tree.node? found = some .directory) : tree.node? place = some .directory := by
  cases parts with
  | nil =>
      cases walked
      exact isDirectory
  | cons part rest =>
      rw [walk_cons, bind_eq_ok_iff] at walked
      obtain ⟨next, stepped, -⟩ := walked
      exact (step_eq_ok_iff.mp stepped).1

/-- Along a way that can be walked there is no directory to make. -/
theorem makeAlong_of_walk (walked : tree.walk place parts = .ok found)
    (isDirectory : tree.node? found = some .directory) (made : Bool) :
    tree.makeAlong place made parts = (.ok (), tree) := by
  induction parts generalizing place with
  | nil => rfl
  | cons part rest ih =>
      rw [walk_cons, bind_eq_ok_iff] at walked
      obtain ⟨next, stepped, walked⟩ := walked
      have along := ih walked
      have nextIsDirectory := isDirectory_of_walk walked isDirectory
      rw [makeAlong]
      obtain ⟨-, ⟨isDot, rfl⟩ | ⟨isDots, rfl⟩ | ⟨isDot, isDots, isLong, -, rfl⟩⟩ :=
        step_eq_ok_iff.mp stepped
      · rw [if_pos isDot]
        exact along
      · have isDot : part ≠ "." := by
          subst isDots
          decide
        rw [if_neg isDot, if_pos isDots]
        exact along
      · rw [if_neg isDot, if_neg isDots, if_neg isLong]
        dsimp only
        rw [nextIsDirectory]
        exact along

/-! ## Writing and reading -/

theorem node?_put_inside (tree : FileTree) (place name : String) (node : FileNode) :
    (tree.put (placeInside place name) node).node? (placeInside place name) = some node := by
  have isEmpty : (placeInside place name).isEmpty = false := by simp [placeInside]
  rw [node?, isEmpty, if_neg Bool.false_ne_true]
  exact KeyMap.get?_insert_self ..

theorem node?_put_of_ne {written : String} (different : place ≠ written) (node : FileNode) :
    (tree.put written node).node? place = tree.node? place := by
  rw [node?, node?, put, KeyMap.get?_insert_of_ne tree.nodes different]

theorem isDirectory_put {written : String} (free : tree.node? written ≠ some .directory)
    (isDirectory : tree.node? place = some .directory) (node : FileNode) :
    (tree.put written node).node? place = some .directory := by
  rwa [node?_put_of_ne]
  rintro rfl
  exact free isDirectory

/-- A file that comes where no directory is leaves every way as it was. -/
theorem walk_put {directory name : String}
    (free : tree.node? (placeInside directory name) ≠ some .directory) (node : FileNode)
    (walked : tree.walk place parts = .ok found) :
    (tree.put (placeInside directory name) node).walk place parts = .ok found := by
  induction parts generalizing place with
  | nil => exact walked
  | cons part rest ih =>
      rw [walk_cons, bind_eq_ok_iff] at walked ⊢
      obtain ⟨next, stepped, walked⟩ := walked
      refine ⟨next, ?_, ih walked⟩
      obtain ⟨isDirectory, stepped⟩ := step_eq_ok_iff.mp stepped
      refine step_eq_ok_iff.mpr
        ⟨isDirectory_put free isDirectory node, stepped.imp_right (Or.imp_right ?_)⟩
      rintro ⟨isDot, isDots, isLong, isThere, same⟩
      refine ⟨isDot, isDots, isLong, ?_, same⟩
      by_cases written : placeInside place part = placeInside directory name
      · rw [written, node?_put_inside]
        rfl
      · rwa [node?_put_of_ne written]

theorem locate_eq_ok_iff {path : String} :
    tree.locate path = .ok place ↔
      checkPath path = .ok () ∧ path.isEmpty = false ∧
        tree.walk (tree.start path)
          (if path.endsWith "/" then pathParts path ++ ["."] else pathParts path) = .ok place := by
  rw [locate, bind_eq_ok_iff, Unique.exists_iff]
  cases path.isEmpty with
  | true => simp
  | false => simp

theorem readFile_eq_ok_iff {path : String} {bytes : List UInt8} :
    tree.readFile path = .ok bytes ↔
      ∃ place, tree.locate path = .ok place ∧ tree.node? place = some (.file bytes) := by
  rw [readFile, bind_eq_ok_iff]
  constructor
  · rintro ⟨node, found, read⟩
    rw [lookup, bind_eq_ok_iff] at found
    obtain ⟨place, located, found⟩ := found
    refine ⟨place, located, ?_⟩
    cases node with
    | directory => cases read
    | file content =>
        cases read
        split at found
        · next held =>
            cases found
            exact held
        · cases found
  · rintro ⟨place, located, held⟩
    refine ⟨.file bytes, ?_, rfl⟩
    rw [lookup, bind_eq_ok_iff]
    exact ⟨place, located, by rw [held]⟩

/-- What was written to a file is read from it. -/
theorem readFile_writeFile {path : String} {bytes : List UInt8}
    (written : tree.writeFile path bytes = .ok later) : later.readFile path = .ok bytes := by
  rw [writeFile, bind_eq_ok_iff] at written
  obtain ⟨⟨⟩, isPath, written⟩ := written
  split_ifs at written with isEmpty
  dsimp only at written
  split at written
  · cases written
  · next last isLast =>
    rw [bind_eq_ok_iff] at written
    obtain ⟨parent, walked, written⟩ := written
    split at written
    · next isDirectory =>
        split_ifs at written with isOdd isLong isTaken
        cases written
        simp only [Bool.or_eq_true, decide_eq_true_iff, not_or] at isOdd
        obtain ⟨⟨isDot, isDots⟩, isTrailing⟩ := isOdd
        have parts : pathParts path = (pathParts path).dropLast ++ [last] :=
          (List.dropLast_append_getLast? last isLast).symm
        refine readFile_eq_ok_iff.mpr ⟨placeInside parent last, ?_, node?_put_inside ..⟩
        refine locate_eq_ok_iff.mpr ⟨isPath, Bool.eq_false_of_not_eq_true isEmpty, ?_⟩
        rw [if_neg isTrailing, parts, walk_append, bind_eq_ok_iff]
        refine ⟨parent, walk_put isTaken _ walked, ?_⟩
        rw [walk_cons, bind_eq_ok_iff]
        refine ⟨placeInside parent last, step_eq_ok_iff.mpr ?_, rfl⟩
        refine ⟨isDirectory_put isTaken isDirectory _, .inr (.inr ⟨isDot, isDots, isLong, ?_, rfl⟩)⟩
        rw [node?_put_inside]
        rfl
    · cases written
    · cases written

end FileTree

/-! ## The directory of a snapshot -/

namespace Storage

variable {directory : String} {files later : FileTree} {bytes : List UInt8}

/-- A directory whose snapshot can be read has not to be made. -/
theorem prepare_of_readFile (read : files.readFile (snapshotFile directory) = .ok bytes) :
    prepare directory files = (.ok (), files) := by
  obtain ⟨place, located, -⟩ := FileTree.readFile_eq_ok_iff.mp read
  obtain ⟨isPath, -, walked⟩ := FileTree.locate_eq_ok_iff.mp located
  have way : ∃ rest, files.walk (files.start directory)
      (pathParts directory ++ "vera.snapshot" :: rest) = .ok place := by
    rw [start_snapshotFile, pathParts_snapshotFile] at walked
    split_ifs at walked
    · exact ⟨["."], by rwa [List.append_assoc] at walked⟩
    · exact ⟨[], walked⟩
  obtain ⟨rest, walked⟩ := way
  rw [FileTree.walk_append, bind_eq_ok_iff] at walked
  obtain ⟨between, walked, onwards⟩ := walked
  rw [FileTree.walk_cons, bind_eq_ok_iff] at onwards
  obtain ⟨next, stepped, -⟩ := onwards
  have isDirectory := (FileTree.step_eq_ok_iff.mp stepped).1
  rw [prepare, FileTree.makeDirectories, checkPath_of_snapshotFile isPath]
  dsimp only
  rw [FileTree.makeAlong_of_walk walked isDirectory]

/-- What was saved in a directory can be read. -/
theorem readFile_save {tables : Tables} {moment : Timestamp}
    (saved : save directory moment tables files = .ok later) :
    later.readFile (snapshotFile directory) = .ok (Snapshot.ofTables tables moment).image := by
  rw [save] at saved
  split_ifs at saved
  split at saved
  · cases saved
  · next written =>
      cases saved
      exact FileTree.readFile_writeFile written

end Storage

end EntityStore

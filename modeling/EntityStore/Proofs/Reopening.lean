import EntityStore.Storage
import EntityStore.Proofs.Checks
import EntityStore.Proofs.SnapshotRoundTrip

/-!
# Opening a directory again

A directory that holds the image of some tables opens as a database with these
tables.  Opening first makes the directory, which adds directories to the file tree
and leaves all that is there: a tree with more in it answers every lookup that
succeeded before in the same way, so the image is still found.  What it says is a
matter of the format (`Snapshot.decode?_image`).
-/

set_option autoImplicit false

namespace EntityStore

namespace FileTree

variable {tree later : FileTree}

/-- One part further is the directory itself, the one above it, or something that is there. -/
theorem step_eq_ok_iff {place part next : String} :
    tree.step place part = .ok next ↔
      tree.node? place = some .directory ∧
        (part = "." ∧ place = next ∨
          part = ".." ∧ placeAbove place = next ∨
          part ≠ "." ∧ part ≠ ".." ∧ ¬ longestName < part.utf8ByteSize ∧
            (tree.node? (placeInside place part)).isSome ∧ placeInside place part = next) := by
  rw [step]
  split
  · next isDirectory =>
      split_ifs with isDot isDots isLong isThere
      · simp [isDot, isDirectory]
      · simp [isDots, isDirectory]
      · simp [isDot, isDots, isLong]
      · simp [isDot, isDots, isLong, isThere, isDirectory]
      · simp [isDot, isDots, isThere]
  · next isFile => simp [isFile]
  · next missing => simp [missing]

/-! ## Trees with more in them -/

/-- Whether a tree has all that another has, at the same places. -/
structure Extends (tree later : FileTree) : Prop where
  workingDirectory : later.workingDirectory = tree.workingDirectory
  node? : ∀ ⦃place : String⦄ ⦃node : FileNode⦄, tree.node? place = some node →
    later.node? place = some node

namespace Extends

theorem refl (tree : FileTree) : Extends tree tree := ⟨rfl, fun _ _ found => found⟩

theorem trans {between : FileTree} (first : Extends tree between)
    (second : Extends between later) : Extends tree later where
  workingDirectory := second.workingDirectory.trans first.workingDirectory
  node? _ _ found := second.node? (first.node? found)

theorem put {place : String} (missing : tree.node? place = none) (node : FileNode) :
    Extends tree (tree.put place node) where
  workingDirectory := rfl
  node? := by
    intro other held found
    have different : other ≠ place := by
      rintro rfl
      exact nomatch missing.symm.trans found
    simp only [FileTree.node?, FileTree.put] at found ⊢
    rwa [KeyMap.get?_insert_of_ne tree.nodes different]

theorem step (more : Extends tree later) {place part next : String}
    (stepped : tree.step place part = .ok next) : later.step place part = .ok next := by
  rw [step_eq_ok_iff] at stepped ⊢
  refine ⟨more.node? stepped.1, stepped.2.imp_right (Or.imp_right ?_)⟩
  rintro ⟨isDot, isDots, isLong, isThere, same⟩
  obtain ⟨node, found⟩ := Option.isSome_iff_exists.mp isThere
  exact ⟨isDot, isDots, isLong, Option.isSome_iff_exists.mpr ⟨node, more.node? found⟩, same⟩

theorem walk (more : Extends tree later) {place found : String} {parts : List String}
    (walked : tree.walk place parts = .ok found) : later.walk place parts = .ok found := by
  induction parts generalizing place with
  | nil => exact walked
  | cons part parts ih =>
      simp only [FileTree.walk, List.foldlM_cons, bind_eq_ok_iff] at walked ih ⊢
      obtain ⟨next, stepped, walked⟩ := walked
      exact ⟨next, more.step stepped, ih walked⟩

theorem locate (more : Extends tree later) {path place : String}
    (located : tree.locate path = .ok place) : later.locate path = .ok place := by
  have start : later.start path = tree.start path := by
    rw [FileTree.start, FileTree.start, more.workingDirectory]
  simp only [FileTree.locate, start, bind_eq_ok_iff] at located ⊢
  obtain ⟨⟨⟩, isPath, located⟩ := located
  refine ⟨(), isPath, ?_⟩
  split_ifs at located ⊢
  · exact more.walk located
  · exact more.walk located

theorem lookup (more : Extends tree later) {path : String} {node : FileNode}
    (found : tree.lookup path = .ok node) : later.lookup path = .ok node := by
  simp only [FileTree.lookup, bind_eq_ok_iff] at found ⊢
  obtain ⟨place, located, found⟩ := found
  refine ⟨place, more.locate located, ?_⟩
  cases held : tree.node? place with
  | none =>
      rw [held] at found
      exact nomatch found
  | some node =>
      rw [held] at found
      rw [more.node? held]
      exact found

theorem readFile (more : Extends tree later) {path : String} {bytes : List UInt8}
    (read : tree.readFile path = .ok bytes) : later.readFile path = .ok bytes := by
  simp only [FileTree.readFile, bind_eq_ok_iff] at read ⊢
  obtain ⟨node, found, read⟩ := read
  exact ⟨node, more.lookup found, read⟩

end Extends

theorem exists?_of_readFile {path : String} {bytes : List UInt8}
    (read : tree.readFile path = .ok bytes) : tree.exists? path = true := by
  rw [FileTree.readFile, bind_eq_ok_iff] at read
  obtain ⟨node, found, -⟩ := read
  rw [exists?, found]
  rfl

theorem makeAlong_extends (tree : FileTree) (place : String) (made : Bool) (parts : List String) :
    Extends tree (tree.makeAlong place made parts).2 := by
  fun_induction makeAlong tree place made parts with
  | case1 | case4 | case6 | case7 => exact .refl _
  | case2 _ _ _ _ ih | case3 _ _ _ _ _ ih | case5 _ _ _ _ _ _ _ _ _ _ ih => exact ih
  | case8 _ _ _ _ _ _ _ _ _ _ missing _ ih => exact (Extends.put missing .directory).trans ih

theorem makeDirectories_extends (tree : FileTree) (path : String) :
    Extends tree (tree.makeDirectories path).2 := by
  rw [makeDirectories]
  split
  · exact .refl tree
  · exact makeAlong_extends ..

end FileTree

/-! ## The tables of the image -/

namespace Storage

theorem prepare_extends (directory : String) (files : FileTree) :
    files.Extends (prepare directory files).2 := by
  have more := files.makeDirectories_extends directory
  rw [prepare]
  split
  · next made => rwa [made] at more
  · next made => rwa [made] at more

theorem load_of_readFile {directory : String} {files : FileTree} {bytes : List UInt8}
    (read : files.readFile (snapshotFile directory) = .ok bytes) :
    load directory files =
      match Snapshot.decode? bytes with
      | .error fault => .error (.image fault)
      | .ok snapshot => .ok (some snapshot) := by
  have isThere := FileTree.exists?_of_readFile read
  cases decoded : Snapshot.decode? bytes with
  | error fault => simp [load, isThere, read, decoded]
  | ok snapshot => simp [load, isThere, read, decoded]

end Storage

namespace Database

/-- Whether opening a directory gives a database, where the directory holds the image of another at
some moment.  An image counts texts and lists in four bytes, so it only holds what fits. -/
inductive Reopens (saved reopened : Database) : Prop where
  | intro {path : String} {moment : Timestamp} {files : FileTree} (fits : saved.tables.Fits)
      (short : Text.IsShort moment.text)
      (holds : files.readFile (Storage.snapshotFile path) =
        .ok (Snapshot.ofTables saved.tables moment).image)
      (opened : (openDirectory path files).1 = .ok reopened)

/-- **A database that is opened from an image has the tables of the image.** -/
theorem Reopens.tables_eq {saved reopened : Database} (reopens : saved.Reopens reopened) :
    reopened.tables = saved.tables := by
  obtain @⟨path, moment, files, fits, short, holds, opened⟩ := reopens
  have more := Storage.prepare_extends path files
  rw [openDirectory] at opened
  split at opened
  · exact nomatch opened
  · next prepared made =>
      rw [made] at more
      rw [Storage.load_of_readFile (more.readFile holds), Snapshot.decode?_image fits short]
        at opened
      cases parsed : Timestamp.parse? moment.text with
      | none =>
          rw [parsed] at opened
          exact nomatch opened
      | some createdAt =>
          rw [parsed] at opened
          cases opened
          rfl

end Database

end EntityStore

import EntityStore.FileTree
import EntityStore.Snapshot

/-!
# Databases in directories

A database outlives its process as one file in a directory of its own, which holds
the snapshot of its tables.  Every save writes the whole snapshot to a file of a new
name beside it and then moves that over the file, so the file holds one snapshot or
another, never a part of one.

Opening a directory makes it if it is missing and takes the tables from the
snapshot, if there is one; a file that does not hold a snapshot is a fault.
-/

set_option autoImplicit false

namespace EntityStore

namespace Storage

/-- The file of a snapshot. -/
def snapshotFile (directory : String) : String := joinPath directory "vera.snapshot"

/-- The length in bytes of the new name under which an image is written before it takes the place
of the snapshot. -/
def temporaryNameLength : Nat := 10

/-- Makes the directory of a database. -/
def prepare (directory : String) (files : FileTree) : Except Fault Unit × FileTree :=
  match files.makeDirectories directory with
  | (.ok (), files) => (.ok (), files)
  | (.error fault, files) =>
      (.error (.storageUnavailable (.noDataDirectory directory fault)), files)

/-- The snapshot in a directory, or `none` when there is no file. -/
def load (directory : String) (files : FileTree) : Except SnapshotFault (Option Snapshot) :=
  let path := snapshotFile directory
  if !files.exists? path then .ok none
  else
    match files.readFile path with
    | .error fault => .error (.file fault)
    | .ok bytes =>
        match Snapshot.decode? bytes with
        | .error fault => .error (.image fault)
        | .ok snapshot => .ok (some snapshot)

/-- Puts the snapshot of tables into a directory.  The temporary file that it is moved from is
gone afterwards. -/
def save (directory : String) (moment : Timestamp) : Saver FileTree := fun tables files =>
  if !files.admitsFile directory temporaryNameLength then .error (.file .createTemporary)
  else
    match files.writeFile (snapshotFile directory) (Snapshot.ofTables tables moment).image with
    | .error _ => .error (.file .replaceSnapshot)
    | .ok files => .ok files

end Storage

namespace Database

/-- The way a database saves its image: not at all, or in its directory. -/
def saver (database : Database) (moment : Timestamp) : Saver FileTree :=
  match database.location with
  | .memory _ => fun _ files => .ok files
  | .directory path => Storage.save path moment

theorem saver_of_memory {database : Database} {name : String}
    (inMemory : database.location = .memory name) (moment : Timestamp) (tables : Tables)
    (files : FileTree) : database.saver moment tables files = .ok files := by
  rw [saver, inMemory]

/-- Opens the database in a directory.  The directories that were made stay when the database is
refused. -/
def openDirectory (path : String) (files : FileTree) : Except Fault Database × FileTree :=
  match Storage.prepare path files with
  | (.error fault, files) => (.error fault, files)
  | (.ok (), files) =>
      match Storage.load path files with
      | .ok snapshot =>
          (.ok ⟨(snapshot.map (·.tables)).getD .empty, .directory path⟩, files)
      | .error fault =>
          (.error (.storageUnavailable (.unreadableDatabase path fault)), files)

end Database

end EntityStore

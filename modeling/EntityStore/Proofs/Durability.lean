import EntityStore.Proofs.BatchSemantics
import EntityStore.Proofs.SnapshotFiles
import EntityStore.Proofs.SnapshotOrder

/-!
# Durability

The tables of a database in a directory are kept twice, in memory and in the snapshot
file.  An operation changes the tables in memory first and saves them then.  When the
save succeeds, the directory holds what is in memory, whatever happened before
(`Storage.Faithful.holds`).  When it fails, the file stays as it is, and whether memory
does depends on the operation.  A batch takes its writes back, unless one of them breaks
off for want of a key column (`Operation.parted_of_parted_apply`).  A table that was made
stays, and so does a key strategy that was switched: memory and file have parted.

Making sure of a table does nothing when the table is there, and answers that all is
well (`Database.ensureTable_of_changed`).  After memory and file have parted the table
may be in memory alone, and it is lost with the process
(`Database.Run.stock_not_durable`).  So an operation that succeeds is durable when it
saves; one that has nothing to save is durable as long as no failed operation has
changed the tables since they were last saved (`Database.Run.durable`).
-/

set_option autoImplicit false

namespace EntityStore

/-! ## What a directory holds -/

namespace Storage

variable {directory : String} {files later : FileTree} {tables : Tables} {database : Database}

/-- Whether the snapshot file of a directory gives back some tables. -/
def Holds (directory : String) (files : FileTree) (tables : Tables) : Prop :=
  ∃ bytes snapshot, files.readFile (snapshotFile directory) = .ok bytes ∧
    Snapshot.decode? bytes = .ok snapshot ∧ snapshot.tables = tables

/-- A directory that holds tables opens as the database with these tables, and stays as it is. -/
theorem Holds.openDirectory_eq (holds : Holds directory files tables) :
    Database.openDirectory directory files = (.ok ⟨tables, .directory directory⟩, files) := by
  obtain ⟨bytes, snapshot, read, decoded, rfl⟩ := holds
  have loaded : load directory files = .ok (some snapshot) := by
    rw [load_of_readFile read, decoded]
  rw [Database.openDirectory, prepare_of_readFile read]
  dsimp only
  rw [loaded]
  rfl

theorem Holds.congr (holds : Holds directory files tables)
    (same : ∀ bytes, later.readFile (snapshotFile directory) = .ok bytes ↔
      files.readFile (snapshotFile directory) = .ok bytes) : Holds directory later tables := by
  obtain ⟨bytes, snapshot, read, decoded, tables⟩ := holds
  exact ⟨bytes, snapshot, (same bytes).mpr read, decoded, tables⟩

theorem load_eq_some {snapshot : Snapshot} (loaded : load directory files = .ok (some snapshot)) :
    Holds directory files snapshot.tables := by
  rw [load] at loaded
  split_ifs at loaded
  · cases loaded
  · split at loaded
    · cases loaded
    · next bytes read =>
        split at loaded
        · cases loaded
        · next decoded =>
            cases loaded
            exact ⟨bytes, snapshot, read, decoded, rfl⟩

/-- A directory that opened holds the tables, unless there are none. -/
theorem holds_of_openDirectory
    (opened : Database.openDirectory directory files = (.ok database, later)) :
    database.location = .directory directory ∧
      (database.tables = .empty ∨ Holds directory later database.tables) := by
  rw [Database.openDirectory] at opened
  split at opened
  · cases opened
  · split at opened
    · next snapshot loaded =>
        cases opened
        refine ⟨rfl, ?_⟩
        cases snapshot with
        | none => exact .inl rfl
        | some snapshot => exact .inr (load_eq_some loaded)
    · cases opened

/-- Whether every save that succeeds leaves the image of the saved tables in the snapshot file of
a directory.  The image lists the tables in whatever order, and it is of some moment. -/
def Faithful (directory : String) (save : Saver FileTree) : Prop :=
  ∀ ⦃tables : Tables⦄ ⦃files later : FileTree⦄, save tables files = .ok later →
    ∃ (moment : Timestamp) (listed : List (String × Table)), moment.IsProper ∧
      listed.Perm tables.entries ∧ later.readFile (snapshotFile directory) =
        .ok ((Snapshot.ofTables tables moment).listing listed).write

/-- After a save that succeeded the directory holds the saved tables. -/
theorem Faithful.holds {save : Saver FileTree} (faithful : Faithful directory save)
    (saved : save tables files = .ok later) (fits : tables.Fits) :
    Holds directory later tables := by
  obtain ⟨moment, listed, proper, order, read⟩ := faithful saved
  exact ⟨_, _, read, Snapshot.decode?_write_listing fits proper order, rfl⟩

/-- Saving in a directory is faithful at every moment. -/
theorem faithful_save (directory : String) {moment : Timestamp} (proper : moment.IsProper) :
    Faithful directory (save directory moment) := by
  intro tables files later saved
  have image := Snapshot.write_listing_entries (Snapshot.ofTables tables moment)
  exact ⟨moment, tables.entries, proper, .refl _, image ▸ readFile_save saved⟩

end Storage

/-! ## Operations -/

/-- An operation that changes a database. -/
inductive Operation where
  | create (schema : TableSchema)
  | ensure (schema : TableSchema)
  | apply (writes : List Write)
  deriving DecidableEq

namespace Operation

variable {σ : Type}

/-- Carries out an operation.  Whether a table had to be made is left out of the answer. -/
def perform (save : Saver σ) (operation : Operation) (database : Database) (medium : σ) :
    Outcome σ Unit :=
  match operation with
  | .create schema => database.createTable save schema medium
  | .ensure schema =>
      let ensured := database.ensureTable save schema medium
      ⟨ensured.answer.map fun _ => (), ensured.database, ensured.medium⟩
  | .apply writes => database.apply save writes medium

/-- Whether an operation saves the tables when it succeeds. -/
def saves (tables : Tables) : Operation → Bool
  | .create _ => true
  | .ensure schema =>
      match tables.get? schema.name with
      | none => true
      | some existing => existing.schema.keyStrategy ≠ schema.keyStrategy
  | .apply writes => !writes.isEmpty

/-- What an operation comes to: a save of all tables at its end, nothing at all, or a fault that
leaves the medium alone. -/
inductive Ends (operation : Operation) (save : Saver σ) (database : Database) (medium : σ) :
    Outcome σ Unit → Prop where
  | saved {tables : Tables} {later : σ} (needed : operation.saves database.tables = true)
      (kept : save tables medium = .ok later) :
      Ends operation save database medium ⟨.ok (), { database with tables }, later⟩
  | idle (unneeded : operation.saves database.tables = false) :
      Ends operation save database medium ⟨.ok (), database, medium⟩
  | failed {tables : Tables} {fault : Fault} :
      Ends operation save database medium ⟨.error fault, { database with tables }, medium⟩

theorem createTable_ends (save : Saver σ) (schema : TableSchema) (database : Database)
    (medium : σ) :
    (create schema).Ends save database medium (database.createTable save schema medium) := by
  rw [Database.createTable]
  split_ifs
  · exact .failed
  · rw [Database.flush]
    split
    · next kept => exact .saved rfl kept
    · exact .failed

theorem ensureTable_ends (save : Saver σ) (schema : TableSchema) (database : Database)
    (medium : σ) :
    (ensure schema).Ends save database medium
      ((ensure schema).perform save database medium) := by
  have needed : (ensure schema).saves database.tables =
      match database.tables.get? schema.name with
      | none => true
      | some existing => existing.schema.keyStrategy ≠ schema.keyStrategy := rfl
  rw [perform, Database.ensureTable]
  cases found : database.tables.get? schema.name with
  | none =>
      rw [found] at needed
      have created := createTable_ends save schema database medium
      dsimp only
      generalize database.createTable save schema medium = outcome at created ⊢
      cases created with
      | saved _ kept => exact .saved needed kept
      | idle unneeded => cases unneeded
      | failed => exact .failed
  | some existing =>
      rw [found] at needed
      dsimp only at needed ⊢
      split_ifs with otherLayout sameStrategy
      · exact .failed
      · exact .idle (needed.trans (by simpa using sameStrategy))
      · rw [Database.flush]
        split
        · next kept => exact .saved (needed.trans (by simpa using sameStrategy)) kept
        · exact .failed

theorem apply_ends (save : Saver σ) (writes : List Write) (database : Database) (medium : σ) :
    (apply writes).Ends save database medium (database.apply save writes medium) := by
  rw [Database.apply]
  split_ifs with nothing
  · exact .idle (by rw [saves, nothing, Bool.not_true])
  · dsimp only
    split
    · exact .failed
    · exact .failed
    · split
      · next kept =>
          exact .saved (by rw [saves, Bool.eq_false_of_not_eq_true nothing, Bool.not_false]) kept
      · exact .failed

theorem perform_ends (save : Saver σ) (operation : Operation) (database : Database) (medium : σ) :
    operation.Ends save database medium (operation.perform save database medium) := by
  cases operation with
  | create schema => exact createTable_ends save schema database medium
  | ensure schema => exact ensureTable_ends save schema database medium
  | apply writes => exact apply_ends save writes database medium

/-- Only where there are tables has an operation nothing to save. -/
theorem ne_empty_of_saves {operation : Operation} {tables : Tables}
    (something : operation ≠ .apply []) (unneeded : operation.saves tables = false) :
    tables ≠ .empty := by
  rintro rfl
  cases operation with
  | create schema => cases unneeded
  | ensure schema => cases unneeded
  | apply writes =>
      cases writes with
      | nil => exact something rfl
      | cons first rest => cases unneeded

/-- Whether memory has parted from the medium after an operation.  A failed operation that has
changed the tables parts them, and the next save that succeeds brings them together again. -/
def parted (operation : Operation) (before : Bool) (tables : Tables) (outcome : Outcome σ Unit) :
    Bool :=
  match outcome.answer with
  | .ok () => before && !operation.saves tables
  | .error _ => before || outcome.database.tables ≠ tables

/-- A batch on tables with key columns never parts them, for it takes back what it cannot save. -/
theorem parted_of_parted_apply {database : Database} (wellFormed : database.tables.WellFormed)
    {save : Saver σ} {writes : List Write} (keyed : database.tables.Keyed writes) {medium : σ}
    {before : Bool}
    (parts : (apply writes).parted before database.tables (database.apply save writes medium) =
      true) : before = true := by
  have meant := (Database.batch_iff wellFormed save writes medium _).mpr rfl
  generalize database.apply save writes medium = outcome at meant parts
  cases meant with
  | applied => exact (Bool.and_eq_true_iff.mp parts).1
  | refused | unsaved => simpa [parted] using parts
  | brokenOff split earlier breaks => exact absurd breaks ((split ▸ keyed).write_ne_panic earlier)

end Operation

namespace Database

open Operation

/-! ## A table that could not be saved -/

variable {σ : Type}

theorem createTable_eq {database : Database} {schema : TableSchema}
    (missing : database.tables.contains schema.name = false) (save : Saver σ) (medium : σ) :
    database.createTable save schema medium =
      flush save
        { database with tables := database.tables.insert schema.name (.ofSchema schema) }
        medium := by
  rw [createTable, missing, if_neg Bool.false_ne_true]

theorem createTable_carried {save : Saver σ} {schema : TableSchema} {database : Database}
    {medium : σ}
    (changed : (database.createTable save schema medium).database.tables ≠ database.tables) :
    ∃ table, (database.createTable save schema medium).database.tables.get? schema.name =
        some table ∧
      table.schema.sameLayout schema = true ∧ table.schema.keyStrategy = schema.keyStrategy := by
  rw [createTable] at changed ⊢
  split_ifs at changed ⊢ with isThere
  · exact absurd rfl changed
  · rw [flush_database]
    exact ⟨.ofSchema schema, KeyMap.get?_insert_self .., schema.columns.sameLayout_refl, rfl⟩

theorem ensureTable_carried {save : Saver σ} {schema : TableSchema} {database : Database}
    {medium : σ}
    (changed : (database.ensureTable save schema medium).database.tables ≠ database.tables) :
    ∃ table, (database.ensureTable save schema medium).database.tables.get? schema.name =
        some table ∧
      table.schema.sameLayout schema = true ∧ table.schema.keyStrategy = schema.keyStrategy := by
  cases found : database.tables.get? schema.name with
  | none =>
      simp only [ensureTable, found] at changed ⊢
      exact createTable_carried changed
  | some existing =>
      simp only [ensureTable, found] at changed ⊢
      split_ifs at changed ⊢ with otherLayout sameStrategy
      · exact absurd rfl changed
      · exact absurd rfl changed
      · have layout : existing.schema.sameLayout schema = true := by simpa using otherLayout
        rw [flush_database]
        exact ⟨_, KeyMap.get?_insert_self .., layout, rfl⟩

/-- **A table that could not be saved is taken for one that was.**  When making a table, or making
sure of it, changes the tables in memory, then making sure of the table answers from then on that
there is nothing to do, and saves nothing, however the save of the change ended. -/
theorem ensureTable_of_changed {save : Saver σ} {operation : Operation} {schema : TableSchema}
    {database : Database} {medium : σ}
    (adds : operation = .create schema ∨ operation = .ensure schema)
    (changed : (operation.perform save database medium).database.tables ≠ database.tables)
    (again : Saver σ) (later : σ) :
    (operation.perform save database medium).database.ensureTable again schema later =
      ⟨.ok false, (operation.perform save database medium).database, later⟩ := by
  have carried : ∃ table, (operation.perform save database medium).database.tables.get?
      schema.name = some table ∧
      table.schema.sameLayout schema = true ∧ table.schema.keyStrategy = schema.keyStrategy := by
    rcases adds with rfl | rfl
    · exact createTable_carried changed
    · exact ensureTable_carried changed
  obtain ⟨table, found, layout, strategy⟩ := carried
  rw [ensureTable, found]
  dsimp only
  rw [layout, Bool.not_true, if_neg Bool.false_ne_true, if_pos strategy]

/-! ## Runs -/

/-- A run on the database in a directory, from opening it, and whether memory has parted from the
directory.  Saves may fail at any time but are faithful, and between two operations anything may
happen to the files except to the snapshot. -/
inductive Run (path : String) : Bool → Database → FileTree → Prop where
  | opened {files prepared : FileTree} {database : Database}
      (opened : openDirectory path files = (.ok database, prepared)) :
      Run path false database prepared
  | performed {before : Bool} {database : Database} {files : FileTree} {save : Saver FileTree}
      (run : Run path before database files) (faithful : Storage.Faithful path save)
      (operation : Operation) :
      Run path
        (operation.parted before database.tables (operation.perform save database files))
        (operation.perform save database files).database
        (operation.perform save database files).medium
  | disturbed {before : Bool} {database : Database} {files later : FileTree}
      (run : Run path before database files)
      (same : ∀ bytes, later.readFile (Storage.snapshotFile path) = .ok bytes ↔
        files.readFile (Storage.snapshotFile path) = .ok bytes) :
      Run path before database later

namespace Run

variable {path : String} {before : Bool} {database : Database} {files : FileTree}

theorem performed_eq {save : Saver FileTree} {outcome : Outcome FileTree Unit}
    (run : Run path before database files) (faithful : Storage.Faithful path save)
    (operation : Operation)
    (performs : operation.perform save database files = outcome) :
    Run path (operation.parted before database.tables outcome) outcome.database outcome.medium :=
  performs ▸ run.performed faithful operation

theorem location_eq (run : Run path before database files) :
    database.location = .directory path := by
  induction run with
  | opened opened => exact (Storage.holds_of_openDirectory opened).1
  | @performed before database files save run faithful operation ih =>
      have ends := operation.perform_ends save database files
      generalize operation.perform save database files = outcome at ends ⊢
      cases ends with
      | saved | idle | failed => exact ih
  | disturbed run same ih => exact ih

/-- As long as they have not parted, the directory holds the tables in memory, unless there are
none. -/
theorem holds (run : Run path before database files) (together : before = false)
    (fits : database.tables.Fits) :
    database.tables = .empty ∨ Storage.Holds path files database.tables := by
  induction run with
  | opened opened => exact (Storage.holds_of_openDirectory opened).2
  | @performed before database files save run faithful operation ih =>
      have ends := operation.perform_ends save database files
      generalize operation.perform save database files = outcome at ends together fits ⊢
      cases ends with
      | saved needed kept => exact .inr (faithful.holds kept fits)
      | idle unneeded =>
          rw [parted, unneeded, Bool.not_false, Bool.and_true] at together
          exact ih together fits
      | failed =>
          simp only [parted, Bool.or_eq_false_iff, decide_eq_false_iff_not, not_not] at together
          obtain ⟨together, unchanged⟩ := together
          dsimp only at unchanged fits ⊢
          subst unchanged
          exact ih together fits
  | disturbed run same ih =>
      exact (ih together fits).imp_right fun held => held.congr same

/-- **What succeeds is durable.**  Whenever an operation other than an empty batch succeeds, opening
the directory gives the database in memory and changes no file, provided that the operation saved
the tables or that memory had not parted from the directory before it.  The format has to have
room for the tables, or there is no image of them.  A batch on well-formed tables that have key
columns does not part memory from the directory, whether it succeeds or not. -/
theorem durable {save : Saver FileTree} (run : Run path before database files)
    (faithful : Storage.Faithful path save) :
    (∀ operation : Operation, operation ≠ .apply [] →
      (operation.perform save database files).answer = .ok () →
      (operation.perform save database files).database.tables.Fits →
      operation.saves database.tables = true ∨ before = false →
      openDirectory path (operation.perform save database files).medium =
        (.ok (operation.perform save database files).database,
          (operation.perform save database files).medium)) ∧
    (database.tables.WellFormed → ∀ writes, database.tables.Keyed writes →
      (Operation.apply writes).parted before database.tables
        (database.apply save writes files) = true → before = true) := by
  refine ⟨fun operation something granted fits kept => ?_,
    fun wellFormed _ keyed parts => parted_of_parted_apply wellFormed keyed parts⟩
  have location := run.location_eq
  have ends := operation.perform_ends save database files
  generalize operation.perform save database files = outcome at ends granted fits ⊢
  cases ends with
  | saved _ done =>
      rw [(faithful.holds done fits).openDirectory_eq, location]
  | idle unneeded =>
      have together := kept.resolve_left (Bool.eq_false_iff.mp unneeded)
      have held := (run.holds together fits).resolve_left (ne_empty_of_saves something unneeded)
      rw [held.openDirectory_eq, ← location]
  | failed => cases granted

end Run

end Database

/-! ## A table that was saved, and one that was not -/

namespace Stock

open Database

/-- The files after the directory was opened for the first time. -/
def files : FileTree := ⟨.ofList [("/stock", .directory)], ""⟩

/-- The tables after the places were made. -/
def made : Tables := KeyMap.empty.insert "place" (.ofSchema places.schema)

/-- The files after these were saved. -/
def saved : FileTree :=
  files.put "/stock/vera.snapshot" (.file (Snapshot.ofTables made moment).image)

/-- Saving while the disk is full. -/
def full : Saver FileTree := fun _ _ => .error (.file .createTemporary)

theorem faithful_save : Storage.Faithful "/stock" (Storage.save "/stock" moment) :=
  Storage.faithful_save "/stock" ⟨by decide +kernel, .inr (by decide)⟩

theorem checkPath_snapshotFile : checkPath (Storage.snapshotFile "/stock") = .ok () :=
  checkPath_eq_ok_iff.mpr (by decide +kernel)

theorem openDirectory_eq (tree : FileTree)
    (prepared : tree.makeAlong (tree.start "/stock") false (pathParts "/stock") = (.ok (), files)) :
    openDirectory "/stock" tree = (.ok ⟨.empty, .directory "/stock"⟩, files) := by
  have isPath : checkPath "/stock" = .ok () := checkPath_eq_ok_iff.mpr (by decide +kernel)
  have missing : files.exists? (Storage.snapshotFile "/stock") = false := by
    rw [FileTree.exists?, FileTree.lookup, FileTree.locate, checkPath_snapshotFile]
    decide +kernel
  rw [openDirectory, Storage.prepare, FileTree.makeDirectories, isPath]
  dsimp only
  rw [prepared]
  dsimp only
  rw [Storage.load, missing]
  rfl

theorem run_opened : Run "/stock" false ⟨.empty, .directory "/stock"⟩ files :=
  .opened (openDirectory_eq .empty (by decide +kernel))

theorem save_made : Storage.save "/stock" moment made files = .ok saved := by
  have isPath : checkPath "/stock/." = .ok () := checkPath_eq_ok_iff.mpr (by decide +kernel)
  have within : joinPath (trimPath "/stock") "." = "/stock/." := by decide +kernel
  have isThere : files.exists? "/stock/." = true := by
    rw [FileTree.exists?, FileTree.lookup, FileTree.locate, isPath]
    decide +kernel
  have admits : files.admitsFile "/stock" Storage.temporaryNameLength = true := by
    rw [FileTree.admitsFile, within, isThere]
    decide +kernel
  have written : files.writeFile (Storage.snapshotFile "/stock")
      (Snapshot.ofTables made moment).image = .ok saved := by
    rw [FileTree.writeFile, checkPath_snapshotFile]
    decide +kernel
  rw [Storage.save, admits, written]
  rfl

theorem create_places :
    (Operation.create places.schema).perform (Storage.save "/stock" moment)
      ⟨.empty, .directory "/stock"⟩ files = ⟨.ok (), ⟨made, .directory "/stock"⟩, saved⟩ := by
  have kept : Storage.save "/stock" moment
      (KeyMap.empty.insert places.schema.name (.ofSchema places.schema)) files = .ok saved :=
    save_made
  rw [Operation.perform, createTable_eq rfl, flush, kept]
  rfl

theorem run_saved : Run "/stock" false ⟨made, .directory "/stock"⟩ saved :=
  run_opened.performed_eq faithful_save (.create places.schema) create_places

end Stock

namespace Database

/-- The places are made and saved.  Making sure of them succeeds and saves nothing, and they are
there when the directory is opened. -/
theorem Run.stock_durable :
    ensureTable (Storage.save "/stock" Stock.moment) Stock.places.schema
        ⟨Stock.made, .directory "/stock"⟩ Stock.saved =
      ⟨.ok false, ⟨Stock.made, .directory "/stock"⟩, Stock.saved⟩ ∧
    openDirectory "/stock" Stock.saved = (.ok ⟨Stock.made, .directory "/stock"⟩, Stock.saved) := by
  obtain ⟨opens, -⟩ := Run.durable Stock.run_saved Stock.faithful_save
  have fits : Stock.made.Fits := by decide +kernel
  exact ⟨rfl, opens (.ensure Stock.places.schema) (by decide) rfl fits (.inr rfl)⟩

/-- The places are made while the disk is full.  Making sure of them succeeds, but they are not
there when the directory is opened. -/
theorem Run.stock_not_durable :
    Run "/stock" true ⟨Stock.made, .directory "/stock"⟩ Stock.files ∧
      ensureTable (Storage.save "/stock" Stock.moment) Stock.places.schema
          ⟨Stock.made, .directory "/stock"⟩ Stock.files =
        ⟨.ok false, ⟨Stock.made, .directory "/stock"⟩, Stock.files⟩ ∧
      openDirectory "/stock" Stock.files = (.ok ⟨.empty, .directory "/stock"⟩, Stock.files) := by
  have faithful : Storage.Faithful "/stock" Stock.full := fun _ _ _ saved => nomatch saved
  have created : (Operation.create Stock.places.schema).perform Stock.full
      ⟨.empty, .directory "/stock"⟩ Stock.files =
        ⟨.error (.file .createTemporary), ⟨Stock.made, .directory "/stock"⟩, Stock.files⟩ := by
    rw [Operation.perform, createTable_eq rfl]
    rfl
  have ensured := ensureTable_of_changed (.inl rfl) (show _ ≠ _ by rw [created]; decide)
    (Storage.save "/stock" Stock.moment) Stock.files
  rw [created] at ensured
  refine ⟨?_, ensured, Stock.openDirectory_eq _ (by decide +kernel)⟩
  exact Stock.run_opened.performed_eq faithful (.create Stock.places.schema) created

end Database

end EntityStore

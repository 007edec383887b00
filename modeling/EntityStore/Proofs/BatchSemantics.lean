import EntityStore.Proofs.BreakingOff
import EntityStore.Proofs.Reachability

/-!
# The meaning of batches

A batch comes to one of four ends.  Its writes are carried out one after the other,
each on the tables that the one before it left behind, and their image is saved; or
one of them is refused; or all are carried out and the save fails; or one of them
breaks off.  In the first case the tables are those after the last write, in the last
those after the writes before, and otherwise nothing has changed.  `Database.Batch`
says this without a log of steps to be taken back, and applying a batch to a reachable
database means just that (`Database.Reachable.apply_atomic`).

So a batch is atomic where no write breaks off, which is to say where every table that
it writes to has a column for its key.  It is not where a table has no columns at all
(`Database.staff_batch_breaks_off`).

A write changes one row of one table.  So a batch leaves alone every row that none of
its writes names, and it leaves the schemas of all tables alone, together with the
absence of the tables that are not there.
-/

set_option autoImplicit false

namespace EntityStore

namespace Tables

variable {tables later : Tables} {next : Write} {step : Undo} {writes : List Write}
  {name key : String}

/-! ## The write at which a sequence stops -/

theorem inSequence_cons (tables : Tables) (next : Write) (rest : List Write) :
    tables.inSequence (next :: rest) =
      tables.write next >>= fun written => written.1.inSequence rest := by
  rw [inSequence]
  cases tables.write next with
  | ok written => rfl
  | error fault => rfl

theorem inSequence_append (tables : Tables) (first second : List Write) :
    tables.inSequence (first ++ second) =
      tables.inSequence first >>= fun between => between.inSequence second := by
  induction first generalizing tables with
  | nil => rfl
  | cons next rest ih =>
      rw [List.cons_append, inSequence_cons, inSequence_cons, bind_assoc]
      exact bind_congr fun written => ih written.1

/-- A sequence that fails does so at the first write that is refused, with its fault. -/
theorem inSequence_eq_error_iff {fault : Fault} :
    tables.inSequence writes = .error fault ↔
      ∃ done next rest between, writes = done ++ next :: rest ∧
        tables.inSequence done = .ok between ∧ between.write next = .error fault := by
  constructor
  · intro failed
    induction writes generalizing tables with
    | nil => cases failed
    | cons next rest ih =>
        rw [inSequence] at failed
        split at failed
        · next between step written =>
            obtain ⟨done, refused, others, last, rfl, before, error⟩ := ih failed
            refine ⟨next :: done, refused, others, last, rfl, ?_, error⟩
            rw [inSequence, written]
            exact before
        · next error =>
            cases failed
            exact ⟨[], next, rest, tables, rfl, rfl, error⟩
  · rintro ⟨done, refused, rest, between, rfl, before, error⟩
    induction done generalizing tables with
    | nil =>
        cases before
        rw [List.nil_append, inSequence, error]
    | cons first done ih =>
        rw [inSequence] at before
        rw [List.cons_append, inSequence]
        split at before
        · exact ih before
        · cases before

/-- The tables up to the write that is refused are those after the writes before it. -/
theorem upTo_of_inSequence {done rest : List Write} {between : Tables} {fault : Fault}
    (before : tables.inSequence done = .ok between) (error : between.write next = .error fault) :
    tables.upTo (done ++ next :: rest) = between := by
  induction done generalizing tables with
  | nil =>
      cases before
      rw [List.nil_append, upTo, error]
  | cons first done ih =>
      rw [inSequence] at before
      rw [List.cons_append, upTo]
      split at before
      · exact ih before
      · cases before

/-! ## What writes leave alone -/

/-- The row under a key of a table. -/
def row? (tables : Tables) (name key : String) : Option Row :=
  (tables.get? name).bind (·.get? key)

/-- Whether a write is about a key of a table. -/
def Names (tables : Tables) (name key : String) : Write → Prop
  | .insert table row => table = name ∧
      ∃ schema ∈ tables.schema? name, row[schema.keyIndex]? = some (.text key)
  | .update table written _ => table = name ∧ written = key
  | .delete table deleted => table = name ∧ deleted = key

instance (tables : Tables) (name key : String) : DecidablePred (tables.Names name key)
  | .insert _ _ => inferInstanceAs (Decidable (_ ∧ _))
  | .update _ _ _ => inferInstanceAs (Decidable (_ ∧ _))
  | .delete _ _ => inferInstanceAs (Decidable (_ ∧ _))

theorem schema?_insert {table written : Table} (found : tables.get? name = some table)
    (schema : written.schema = table.schema) (other : String) :
    schema? (tables.insert name written) other = tables.schema? other := by
  rw [schema?, schema?, KeyMap.get?_insert]
  split
  · next same => rw [same, found, Option.map_some, Option.map_some, schema]
  · rfl

theorem row?_insert {table written : Table} (found : tables.get? name = some table)
    {other wanted : String}
    (unchanged : other = name → written.get? wanted = table.get? wanted) :
    row? (tables.insert name written) other wanted = tables.row? other wanted := by
  rw [row?, row?, KeyMap.get?_insert]
  split
  · next same => rw [same, found, Option.bind_some, Option.bind_some, unchanged same]
  · rfl

theorem Performs.schema?_eq (performed : tables.Performs next later step) (name : String) :
    later.schema? name = tables.schema? name := by
  cases performed with
  | insert found | update found | delete found =>
      apply schema?_insert found
      rfl

theorem Performs.row?_eq (performed : tables.Performs next later step)
    (unnamed : ¬ tables.Names name key next) : later.row? name key = tables.row? name key := by
  cases performed with
  | @insert held written row table found _ admits _ =>
      refine row?_insert found ?_
      rintro rfl
      rw [Table.get?_withRow, if_neg]
      rintro rfl
      have schemaFound : tables.schema? name = some table.schema := by
        rw [schema?, found, Option.map_some]
      exact unnamed ⟨rfl, table.schema, schemaFound, admits.keyed⟩
  | @update _ written row _ table found _ _ _ =>
      refine row?_insert found ?_
      rintro rfl
      rw [Table.get?_withRow, if_neg]
      rintro rfl
      exact unnamed ⟨rfl, rfl⟩
  | @delete _ deleted _ table found _ _ =>
      refine row?_insert found ?_
      rintro rfl
      rw [Table.get?_erase, if_neg]
      rintro rfl
      exact unnamed ⟨rfl, rfl⟩

theorem schema?_inSequence (done : tables.inSequence writes = .ok later) (name : String) :
    later.schema? name = tables.schema? name := by
  induction writes generalizing tables with
  | nil =>
      cases done
      rfl
  | cons next rest ih =>
      rw [inSequence_cons, bind_eq_ok_iff] at done
      obtain ⟨⟨between, step⟩, written, done⟩ := done
      exact (ih done).trans ((write_eq_ok_iff.mp written).schema?_eq name)

/-- Which keys a write is about is a matter of the schemas alone. -/
theorem names_congr {other : Tables} (schemas : other.schema? name = tables.schema? name) :
    other.Names name key next ↔ tables.Names name key next := by
  cases next with
  | insert table row => rw [Names, Names, schemas]
  | update table written row => exact Iff.rfl
  | delete table deleted => exact Iff.rfl

theorem Keyed.of_inSequence {others : List Write} (keyed : tables.Keyed others)
    (done : tables.inSequence writes = .ok later) : later.Keyed others := by
  intro next member schema found
  rw [schema?_inSequence done] at found
  exact keyed next member schema found

/-- Where the tables that a batch writes to have key columns, no write of it breaks off. -/
theorem Keyed.write_ne_panic {done rest : List Write} {between : Tables}
    (keyed : tables.Keyed (done ++ next :: rest)) (before : tables.inSequence done = .ok between) :
    between.write next ≠ .error .panic := by
  intro breaks
  obtain ⟨schema, found, keyless⟩ := not_hasKey_of_write breaks
  exact keyless (keyed.of_inSequence before next (by simp) schema found)

theorem Keyed.inSequence_ne_panic (keyed : tables.Keyed writes) :
    tables.inSequence writes ≠ .error .panic := by
  intro breaks
  obtain ⟨done, next, rest, between, rfl, before, error⟩ := inSequence_eq_error_iff.mp breaks
  exact keyed.write_ne_panic before error

theorem row?_inSequence (done : tables.inSequence writes = .ok later)
    (unnamed : ∀ next ∈ writes, ¬ tables.Names name key next) :
    later.row? name key = tables.row? name key := by
  induction writes generalizing tables with
  | nil =>
      cases done
      rfl
  | cons next rest ih =>
      rw [inSequence_cons, bind_eq_ok_iff] at done
      obtain ⟨⟨between, step⟩, written, done⟩ := done
      obtain ⟨first, others⟩ := List.forall_mem_cons.mp unnamed
      have performed := write_eq_ok_iff.mp written
      refine (ih done fun other member named => others other member ?_).trans
        (performed.row?_eq first)
      exact (names_congr (performed.schema?_eq name)).mp named

end Tables

/-! ## Batches -/

namespace Database

variable {σ : Type} {database : Database}

/-- Whether a way to save reports what goes wrong, and does not break off. -/
def Reports (save : Saver σ) : Prop :=
  ∀ tables medium, save tables medium ≠ .error .panic

/-- What a batch comes to: its writes in sequence and the save after them, or nothing, or the writes
before one that breaks off. -/
inductive Batch (database : Database) (save : Saver σ) (writes : List Write) (medium : σ) :
    Outcome σ Unit → Prop where
  | applied {tables : Tables} {saved : σ} (written : database.tables.inSequence writes = .ok tables)
      (kept : saveAfter save writes tables medium = .ok saved) :
      Batch database save writes medium ⟨.ok (), { database with tables }, saved⟩
  | refused {done rest : List Write} {next : Write} {between : Tables} {fault : Fault}
      (split : writes = done ++ next :: rest)
      (before : database.tables.inSequence done = .ok between)
      (error : between.write next = .error fault) (reported : fault ≠ .panic) :
      Batch database save writes medium ⟨.error fault, database, medium⟩
  | brokenOff {done rest : List Write} {next : Write} {between : Tables}
      (split : writes = done ++ next :: rest)
      (before : database.tables.inSequence done = .ok between)
      (breaks : between.write next = .error .panic) :
      Batch database save writes medium
        ⟨.error .panic, { database with tables := between }, medium⟩
  | unsaved {tables : Tables} {fault : Fault}
      (written : database.tables.inSequence writes = .ok tables)
      (error : saveAfter save writes tables medium = .error fault) :
      Batch database save writes medium ⟨.error fault, database, medium⟩

theorem Batch.eq_apply {save : Saver σ} {writes : List Write} {medium : σ}
    {outcome : Outcome σ Unit} (meant : database.Batch save writes medium outcome)
    (wellFormed : database.tables.WellFormed) : outcome = database.apply save writes medium := by
  rw [apply_eq wellFormed]
  cases meant with
  | applied written kept => simp only [written, kept]
  | refused split before error reported =>
      have failed := Tables.inSequence_eq_error_iff.mpr ⟨_, _, _, _, split, before, error⟩
      simp only [failed]
  | brokenOff split before breaks =>
      have failed := Tables.inSequence_eq_error_iff.mpr ⟨_, _, _, _, split, before, breaks⟩
      simp only [failed]
      rw [split, Tables.upTo_of_inSequence before breaks]
  | unsaved written error => simp only [written, error]

theorem exists_batch (database : Database) (save : Saver σ) (writes : List Write) (medium : σ) :
    ∃ outcome, database.Batch save writes medium outcome := by
  cases written : database.tables.inSequence writes with
  | error fault =>
      obtain ⟨_, _, _, _, split, before, error⟩ := Tables.inSequence_eq_error_iff.mp written
      by_cases panics : fault = .panic
      · rw [panics] at error
        exact ⟨_, .brokenOff split before error⟩
      · exact ⟨_, .refused split before error panics⟩
  | ok tables =>
      cases kept : saveAfter save writes tables medium with
      | error fault => exact ⟨_, .unsaved written kept⟩
      | ok saved => exact ⟨_, .applied written kept⟩

theorem batch_iff (wellFormed : database.tables.WellFormed) (save : Saver σ)
    (writes : List Write) (medium : σ) (outcome : Outcome σ Unit) :
    database.Batch save writes medium outcome ↔ outcome = database.apply save writes medium := by
  constructor
  · exact fun meant => meant.eq_apply wellFormed
  · rintro rfl
    obtain ⟨outcome, meant⟩ := database.exists_batch save writes medium
    rwa [← meant.eq_apply wellFormed]

/-- A batch that succeeds leaves behind what its writes make of the tables in sequence. -/
theorem apply_tables_of_ok (wellFormed : database.tables.WellFormed) {save : Saver σ}
    {writes : List Write} {medium : σ}
    (succeeded : (database.apply save writes medium).answer = .ok ()) :
    database.tables.inSequence writes =
      .ok (database.apply save writes medium).database.tables := by
  have meant := (batch_iff wellFormed save writes medium _).mpr rfl
  generalize database.apply save writes medium = outcome at meant succeeded ⊢
  cases meant with
  | applied written _ => exact written
  | refused | brokenOff | unsaved => cases succeeded

/-- A batch leaves behind what some of its writes make of the tables. -/
theorem apply_settles (wellFormed : database.tables.WellFormed) (save : Saver σ)
    (writes : List Write) (medium : σ) :
    ∃ done tables, (database.apply save writes medium).database = { database with tables } ∧
      database.tables.inSequence done = .ok tables := by
  have meant := (batch_iff wellFormed save writes medium _).mpr rfl
  generalize database.apply save writes medium = outcome at meant ⊢
  cases meant with
  | applied written _ => exact ⟨writes, _, rfl, written⟩
  | refused | unsaved => exact ⟨[], database.tables, rfl, rfl⟩
  | brokenOff _ before _ => exact ⟨_, _, rfl, before⟩

/-- A batch breaks off when one of its writes does, and leaves behind the tables up to there. -/
theorem apply_of_panic (wellFormed : database.tables.WellFormed) {save : Saver σ}
    (reports : Reports save) {writes : List Write} {medium : σ}
    (breaks : (database.apply save writes medium).answer = .error .panic) :
    database.tables.inSequence writes = .error .panic ∧
      (database.apply save writes medium).database =
        { database with tables := database.tables.upTo writes } := by
  have meant := (batch_iff wellFormed save writes medium _).mpr rfl
  generalize database.apply save writes medium = outcome at meant breaks ⊢
  cases meant with
  | applied => cases breaks
  | refused _ _ _ reported => exact absurd (Except.error.inj breaks) reported
  | brokenOff split before error =>
      refine ⟨Tables.inSequence_eq_error_iff.mpr ⟨_, _, _, _, split, before, error⟩, ?_⟩
      rw [split, Tables.upTo_of_inSequence before error]
  | @unsaved tables fault written error =>
      cases breaks
      rw [saveAfter] at error
      split at error
      · cases error
      · exact absurd error (reports tables medium)

/-- A batch that is refused leaves the tables as they were. -/
theorem apply_of_fault (wellFormed : database.tables.WellFormed) {save : Saver σ}
    {writes : List Write} {medium : σ} {fault : Fault} (reported : fault ≠ .panic)
    (failed : (database.apply save writes medium).answer = .error fault) :
    (database.apply save writes medium).database = database := by
  have meant := (batch_iff wellFormed save writes medium _).mpr rfl
  generalize database.apply save writes medium = outcome at meant failed ⊢
  cases meant with
  | applied => cases failed
  | refused | unsaved => rfl
  | brokenOff => exact absurd (Except.error.inj failed).symm reported

/-- A batch succeeds exactly when its writes do in sequence, and the save after them. -/
theorem apply_granted_iff (wellFormed : database.tables.WellFormed) (save : Saver σ)
    (writes : List Write) (medium : σ) :
    (database.apply save writes medium).answer = .ok () ↔
      ∃ tables saved, database.tables.inSequence writes = .ok tables ∧
        saveAfter save writes tables medium = .ok saved := by
  have meant := batch_iff wellFormed save writes medium
  constructor
  · intro succeeded
    have outcome := (meant _).mpr rfl
    generalize database.apply save writes medium = reached at outcome succeeded
    cases outcome with
    | applied written kept => exact ⟨_, _, written, kept⟩
    | refused | brokenOff | unsaved => cases succeeded
  · rintro ⟨tables, saved, written, kept⟩
    rw [← (meant _).mp (.applied written kept)]

/-- **Applying a batch is atomic, unless a write breaks off.**  On a reachable database it comes to
what the batch means, and to nothing else.  It succeeds exactly when every write does, each on the
tables that the ones before it left behind, and the save after them.  Where the tables that it
writes to have key columns, no write breaks off, and a batch that fails leaves the database as it
was.  Whatever it comes to, no table is made, lost or given another schema, and the rows that no
write names stay as they are. -/
theorem Reachable.apply_atomic (reachable : database.Reachable) (save : Saver σ)
    (writes : List Write) (medium : σ) :
    (∀ outcome, database.Batch save writes medium outcome ↔
      outcome = database.apply save writes medium) ∧
    ((database.apply save writes medium).answer = .ok () ↔
      ∃ tables saved, database.tables.inSequence writes = .ok tables ∧
        saveAfter save writes tables medium = .ok saved) ∧
    (database.tables.Keyed writes →
      database.tables.inSequence writes ≠ .error .panic ∧
      ∀ fault, (database.apply save writes medium).answer = .error fault →
        (database.apply save writes medium).database = database ∧
        (database.apply save writes medium).medium = medium) ∧
    (∀ name, (database.apply save writes medium).database.tables.schema? name =
      database.tables.schema? name) ∧
    ∀ name key, (∀ next ∈ writes, ¬ database.tables.Names name key next) →
      (database.apply save writes medium).database.tables.row? name key =
        database.tables.row? name key := by
  have wellFormed := reachable.wellFormed
  have meant : database.Batch save writes medium (database.apply save writes medium) :=
    (batch_iff wellFormed save writes medium _).mpr rfl
  refine ⟨batch_iff wellFormed save writes medium, apply_granted_iff wellFormed save writes medium,
    ?_, ?_, ?_⟩
  · intro keyed
    refine ⟨keyed.inSequence_ne_panic, ?_⟩
    intro fault failed
    generalize database.apply save writes medium = outcome at meant failed ⊢
    cases meant with
    | applied => cases failed
    | refused | unsaved => exact ⟨rfl, rfl⟩
    | brokenOff split before breaks => exact absurd breaks ((split ▸ keyed).write_ne_panic before)
  · intro name
    generalize database.apply save writes medium = outcome at meant ⊢
    cases meant with
    | applied written _ => exact Tables.schema?_inSequence written name
    | refused | unsaved => rfl
    | brokenOff _ before _ => exact Tables.schema?_inSequence before name
  · intro name key unnamed
    generalize database.apply save writes medium = outcome at meant ⊢
    cases meant with
    | applied written _ => exact Tables.row?_inSequence written unnamed
    | refused | unsaved => rfl
    | brokenOff split before _ =>
        refine Tables.row?_inSequence before fun next member => unnamed next ?_
        rw [split]
        exact List.mem_append_left _ member

end Database

/-! ## A table without columns -/

namespace Staff

/-- A database with the table, before anybody comes, and another one that has no columns at all. -/
def unlisted : Database :=
  (((Database.inMemory "staff").createTable count schema 0).database.createTable count
    (.ofColumns "unlisted" [] "uuid4-compact") 1).database

theorem unlisted_reachable : unlisted.Reachable :=
  ((Database.Reachable.empty _).advance (.create count schema 0)).advance (.create count _ 1)

end Staff

namespace Database

/-- A person comes, changes superior, and the old superior goes, all in one batch. -/
theorem staff_batch_succeeds :
    let writes : List Write :=
      [.insert "staff" [.text "eve", .text "bob"], .update "staff" "eve" [.text "eve", .text "ada"],
        .delete "staff" "bob"]
    (Staff.database.apply Staff.count writes 2).answer = .ok () ∧
      (Staff.database.apply Staff.count writes 2).database.tables.row? "staff" "ada" =
        some [.text "ada", .null] := by
  intro writes
  obtain ⟨-, succeeds, -, -, unnamed⟩ :=
    Reachable.apply_atomic Staff.database_reachable Staff.count writes 2
  exact ⟨succeeds.mpr ⟨_, _, rfl, rfl⟩, unnamed "staff" "ada" (by decide)⟩

/-- A person comes, and then a row for a table that has no columns at all.  The row fits, and the
batch breaks off where it is asked for its key; the person stays. -/
theorem staff_batch_breaks_off :
    let writes : List Write := [.insert "staff" [.text "ada", .null], .insert "unlisted" []]
    let applied := Staff.unlisted.apply Staff.count writes 2
    Staff.unlisted.Reachable ∧ applied.answer = .error .panic ∧
      Staff.unlisted.tables.row? "staff" "ada" = none ∧
      applied.database.tables.row? "staff" "ada" = some [.text "ada", .null] :=
  ⟨Staff.unlisted_reachable, by decide⟩

end Database

end EntityStore

import EntityStore.Proofs.DeploymentStates

/-!
# Early validation

A write in a transaction is checked against the columns of its table when it is
issued, and carried out when the transaction is committed.  In between other
connections write, and tables are made and take over other strategies for keys.  All
of this keeps the columns of every table, so what was checked still passes
(`Deployment.Checked`), and a commit can only fail for reasons that the columns of a
table cannot see: other rows, keys, references and files (`Fault.Unforeseen`).
-/

set_option autoImplicit false

namespace EntityStore

/-! ## Faults that a check cannot foresee -/

/-- Whether a fault says that a table is missing. -/
def Fault.ofMissingTable : Fault → Bool
  | .tableNotFound _ => true
  | _ => false

/-- Whether a fault is one that the check of a write against its own table could not foresee: no
fault of the columns, and no missing table unless it is one that is not there. -/
structure Fault.Unforeseen (tables : Tables) (fault : Fault) : Prop where
  elsewhere : fault.ofColumns = false
  missing : ∀ name, fault = .tableNotFound name → tables.get? name = none

theorem Fault.Unforeseen.of_kind {tables : Tables} {fault : Fault}
    (elsewhere : fault.ofColumns = false) (there : fault.ofMissingTable = false) :
    fault.Unforeseen tables where
  elsewhere := elsewhere
  missing name same := by
    subst same
    cases there

namespace Table

variable {table : Table} {row : Row} {key : String} {fault : Fault}

theorem keyOf_fault (refused : table.keyOf row = .error fault) (tables : Tables) :
    fault.Unforeseen tables := by
  rw [keyOf] at refused
  split at refused
  · split at refused
    · cases refused
      exact .of_kind rfl rfl
    · cases refused
  · cases refused
    exact .of_kind rfl rfl
  · cases refused
    exact .of_kind rfl rfl

theorem insert_fault (valid : table.validateRow row = .ok ())
    (refused : table.insert row = .error fault) (tables : Tables) : fault.Unforeseen tables := by
  rw [insert] at refused
  rcases bind_eq_error_iff.mp refused with invalid | ⟨_, -, refused⟩
  · cases valid.symm.trans invalid
  rcases bind_eq_error_iff.mp refused with unkeyed | ⟨_, -, refused⟩
  · exact keyOf_fault unkeyed tables
  split at refused
  · cases refused
    exact .of_kind rfl rfl
  · cases refused

theorem update_fault (valid : table.validateRow row = .ok ())
    (refused : table.update key row = .error fault) (tables : Tables) :
    fault.Unforeseen tables := by
  rw [update] at refused
  rcases bind_eq_error_iff.mp refused with invalid | ⟨_, -, refused⟩
  · cases valid.symm.trans invalid
  rcases bind_eq_error_iff.mp refused with unkeyed | ⟨_, -, refused⟩
  · exact keyOf_fault unkeyed tables
  split at refused
  · cases refused
    exact .of_kind rfl rfl
  · split at refused
    · cases refused
      exact .of_kind rfl rfl
    · cases refused

end Table

/-! ## Writes that pass -/

/-- The row that a write puts into its table. -/
def Write.row? : Write → Option Row
  | .insert _ row => some row
  | .update _ _ row => some row
  | .delete _ _ => none

namespace Tables

variable {tables : Tables} {next : Write} {name key : String} {row : Row} {fault : Fault}

/-- Whether the table of a write is there, and its columns let the row of the write pass. -/
def Passes (tables : Tables) (next : Write) : Prop :=
  ∃ table, tables.get? next.table = some table ∧
    ∀ row, next.row? = some row → table.validateRow row = .ok ()

/-- The checks of a transaction let just these writes pass. -/
theorem passes_iff {database : Database} :
    database.tables.Passes next ↔ Connection.checkWrite database next = .ok () := by
  have validated {name : String} {row : Row} :
      database.tables.Passes (.insert name row) ↔ database.validate name row = .ok () := by
    rw [Database.validate_eq_ok_iff]
    refine exists_congr fun table => and_congr_right fun _ => ?_
    exact ⟨fun valid => valid row rfl, fun valid other same => by cases same; exact valid⟩
  cases next with
  | insert name row | update name key row => exact validated
  | delete name key =>
      rw [Connection.checkWrite]
      constructor
      · rintro ⟨table, found, -⟩
        exact congrArg (Except.map fun _ => ()) (find_eq_ok_iff.mpr found)
      · intro checked
        cases found : database.tables.find name with
        | error fault =>
            rw [found] at checked
            cases checked
        | ok table => exact ⟨table, find_eq_ok_iff.mp found, fun row none => by cases none⟩

/-- A write that does not pass is refused for its columns, or because its table is missing. -/
theorem fault_of_checkWrite {database : Database}
    (refused : Connection.checkWrite database next = .error fault) :
    fault.ofColumns = true ∨ fault = .tableNotFound next.table := by
  have missing {name : String} (refused : database.tables.find name = .error fault) :
      fault = .tableNotFound name := by
    rw [find] at refused
    split at refused
    · cases refused
    · cases refused
      rfl
  have invalid {name : String} {row : Row} (refused : database.validate name row = .error fault) :
      fault.ofColumns = true ∨ fault = .tableNotFound name := by
    rcases bind_eq_error_iff.mp refused with none | ⟨table, -, refused⟩
    · exact .inr (missing none)
    · exact .inl (table.ofColumns_of_validateRow refused)
  cases next with
  | insert name row | update name key row => exact invalid refused
  | delete name key =>
      rw [Connection.checkWrite] at refused
      cases found : database.tables.find name with
      | error other =>
          rw [found] at refused
          cases refused
          exact .inr (missing found)
      | ok table =>
          rw [found] at refused
          cases refused

/-- What passes still does as long as the tables keep their columns. -/
theorem Passes.mono {database : Database} {later : Tables} (passes : database.tables.Passes next)
    (keeps : database.tables.KeepsShapes later) : later.Passes next := by
  have checked : Connection.checkWrite { database with tables := later } next = .ok () :=
    Connection.checkWrite_of_keepsShapes (passes_iff.mp passes) keeps
  exact passes_iff.mpr checked

theorem find_fault (missing : tables.find name = .error fault) : fault.Unforeseen tables := by
  rw [find] at missing
  split at missing
  · cases missing
  · next none =>
      cases missing
      exact ⟨rfl, fun other same => by cases same; exact none⟩

theorem checkReferences_fault (refused : tables.checkReferences name row = .error fault) :
    fault.Unforeseen tables := by
  rw [checkReferences] at refused
  rcases bind_eq_error_iff.mp refused with missing | ⟨_, -, refused⟩
  · exact find_fault missing
  obtain ⟨reference, -, error⟩ := exists_of_forM_eq_error refused
  rw [checkReference] at error
  split at error
  · rcases bind_eq_error_iff.mp error with missing | ⟨target, -, error⟩
    · exact find_fault missing
    · split at error
      · cases error
      · cases error
        exact .of_kind rfl rfl
  · cases error

theorem checkNotReferenced_fault (refused : tables.checkNotReferenced name key = .error fault) :
    fault.Unforeseen tables := by
  rw [checkNotReferenced] at refused
  split at refused
  · cases refused
    exact .of_kind rfl rfl
  · cases refused

/-- A write that passes can be refused for its references, for its key, or for a row that is or is
not there. -/
theorem Passes.unforeseen (passes : tables.Passes next)
    (refused : tables.write next = .error fault) : fault.Unforeseen tables := by
  obtain ⟨table, found, valid⟩ := passes
  -- Whatever is found under the name is the table that let the row pass.
  have same {other : Table} (otherFound : tables.find next.table = .ok other) : other = table := by
    cases found.symm.trans (find_eq_ok_iff.mp otherFound)
    rfl
  cases next with
  | insert name row =>
      rw [write] at refused
      rcases bind_eq_error_iff.mp refused with references | ⟨_, -, refused⟩
      · exact checkReferences_fault references
      rcases bind_eq_error_iff.mp refused with missing | ⟨other, otherFound, refused⟩
      · exact find_fault missing
      rcases bind_eq_error_iff.mp refused with inserted | ⟨_, -, impossible⟩
      · cases same otherFound
        exact table.insert_fault (valid row rfl) inserted tables
      · cases impossible
  | update name key row =>
      rw [write] at refused
      rcases bind_eq_error_iff.mp refused with references | ⟨_, -, refused⟩
      · exact checkReferences_fault references
      rcases bind_eq_error_iff.mp refused with missing | ⟨other, otherFound, refused⟩
      · exact find_fault missing
      rcases bind_eq_error_iff.mp refused with updated | ⟨_, -, impossible⟩
      · cases same otherFound
        exact table.update_fault (valid row rfl) updated tables
      · cases impossible
  | delete name key =>
      rw [write] at refused
      rcases bind_eq_error_iff.mp refused with referenced | ⟨_, -, refused⟩
      · exact checkNotReferenced_fault referenced
      rcases bind_eq_error_iff.mp refused with missing | ⟨other, -, refused⟩
      · exact find_fault missing
      split at refused
      · cases refused
        exact .of_kind rfl rfl
      · cases refused

end Tables

/-! ## Commits -/

section Commits

variable {σ : Type} {database : Database} {fault : Fault}

/-- A table that is missing later was missing before. -/
theorem Fault.Unforeseen.before {tables later : Tables} (unforeseen : fault.Unforeseen later)
    (keeps : tables.KeepsShapes later) : fault.Unforeseen tables where
  elsewhere := unforeseen.elsewhere
  missing name same := by
    cases found : tables.get? name with
    | none => rfl
    | some table =>
        obtain ⟨kept, keptFound, -⟩ := keeps found
        cases keptFound.symm.trans (unforeseen.missing name same)

/-- A batch of writes that all pass can only fail for other reasons. -/
theorem Database.unforeseen_of_apply (wellFormed : database.tables.WellFormed)
    {moment : Timestamp} {writes : List Write} {files : FileTree}
    (passes : ∀ next ∈ writes, database.tables.Passes next)
    (failed : (database.apply (database.saver moment) writes files).answer = .error fault) :
    fault.Unforeseen database.tables := by
  have meant := (batch_iff wellFormed (database.saver moment) writes files _).mpr rfl
  generalize database.apply (database.saver moment) writes files = outcome at failed meant
  cases meant with
  | applied => cases failed
  | @refused done rest next between _ split before error
  | @brokenOff done rest next between split before error =>
      cases failed
      have keeps := (Tables.evolves_of_inSequence before).keepsShapes
      have member : next ∈ writes := split ▸ List.mem_append_right _ List.mem_cons_self
      exact (((passes next member).mono keeps).unforeseen error).before keeps
  | unsaved written error =>
      cases failed
      rw [saveAfter] at error
      split at error
      · cases error
      · obtain ⟨cause, rfl⟩ := saver_fault error
        exact .of_kind rfl rfl

theorem Connection.unforeseen_of_commit {connection : Connection}
    (wellFormed : database.tables.WellFormed) {moment : Timestamp} {files : FileTree}
    (passes : ∀ next ∈ connection.pending, database.tables.Passes next)
    (failed : (connection.commit (database.saver moment) database files).2.answer = .error fault) :
    fault.Unforeseen database.tables := by
  rw [commit] at failed
  split at failed
  · exact database.unforeseen_of_apply wellFormed passes failed
  · cases failed
    exact .of_kind rfl rfl

end Commits

/-! ## All connections of a deployment -/

namespace Deployment

variable {deployment later : Deployment} {number lease : Nat} {lent : Lease}
  {database : Database}

/-- A database stays where it is, and takes steps. -/
theorem Changes.keepsDatabase (changes : deployment.Changes later)
    (found : deployment.databases[number]? = some database) :
    ∃ next, later.databases[number]? = some next ∧ database.Evolves next := by
  cases changes with
  | elsewhere | opened | refused | lent | asked | returned => exact ⟨database, found, .refl⟩
  | joined reachable =>
      refine ⟨database, ?_, .refl⟩
      rw [List.getElem?_append_left (List.getElem?_eq_some_iff.mp found).1, found]
  | @stored other earlier next otherFound evolves =>
      by_cases same : other = number
      · subst same
        cases otherFound.symm.trans found
        exact ⟨next, List.getElem?_set_self (List.getElem?_eq_some_iff.mp found).1, evolves⟩
      · exact ⟨database, by rw [List.getElem?_set_ne same, found], .refl⟩

/-- What a lent connection keeps back after a change was kept back before, or was just checked. -/
theorem Changes.kept_cases (orderly : deployment.Orderly) (changes : deployment.Changes later)
    (held : later.leases[lease]? = some (some lent)) {next : Write}
    (kept : next ∈ lent.connection.pending) :
    ∃ before number database, before.pool = lent.pool ∧
      deployment.Lends lease number before database ∧
      (next ∈ before.connection.pending ∨ Connection.checkWrite database next = .ok ()) := by
  have unchanged (heldBefore : deployment.leases[lease]? = some (some lent)) :
      ∃ before number database, before.pool = lent.pool ∧
        deployment.Lends lease number before database ∧
        (next ∈ before.connection.pending ∨ Connection.checkWrite database next = .ok ()) := by
    obtain ⟨entry, database, -, lends⟩ := orderly.lends heldBefore
    exact ⟨lent, _, database, rfl, lends, .inl kept⟩
  cases changes with
  | elsewhere | joined | stored | opened | refused => exact unchanged held
  | @lent number now entry connection pooled answer =>
      rw [List.getElem?_append] at held
      split at held
      · exact unchanged held
      · rw [List.getElem?_singleton] at held
        split at held
        · cases held
          have idle := (orderly.pools entry (List.mem_of_getElem? pooled)).1
          rw [((idle.acquire now).2 connection answer).pending] at kept
          cases kept
        · cases held
  | @asked other number earlier database lends save request =>
      rw [withConnection, List.getElem?_modify] at held
      obtain ⟨stored, storedHeld, same⟩ := Option.map_eq_some_iff.mp held
      split at same
      · next here =>
          subst here
          cases lends.held.symm.trans storedHeld
          cases same
          have keeps := (request.operate_keeps save earlier.connection database deployment.files).2
          exact ⟨earlier, number, database, rfl, lends, keeps next kept⟩
      · exact unchanged (storedHeld.trans (congrArg some same))
  | @returned other now earlier entry heldBefore pooled busy =>
      rw [dropping, List.getElem?_set] at held
      split at held
      · split at held <;> cases held
      · exact unchanged held

/-- Whether every write that a lent connection keeps back passes the checks of its database. -/
def Checked (deployment : Deployment) : Prop :=
  ∀ ⦃lease number : Nat⦄ ⦃lent : Lease⦄ ⦃database : Database⦄,
    deployment.Lends lease number lent database →
      ∀ next ∈ lent.connection.pending, Connection.checkWrite database next = .ok ()

/-- Every change keeps the writes checked. -/
theorem Checked.change (checked : deployment.Checked) (orderly : deployment.Orderly)
    (changes : deployment.Changes later) : later.Checked := by
  intro lease number lent database lends next kept
  obtain ⟨before, base, earlier, pool, lendsBefore, reason⟩ :=
    changes.kept_cases orderly lends.held kept
  have passed : Connection.checkWrite earlier next = .ok () := by
    rcases reason with keptBefore | checkedNow
    · exact checked lendsBefore next keptBefore
    · exact checkedNow
  -- The pool still leads to the same database, which has taken steps.
  obtain ⟨entry, pooledBefore, rfl⟩ := lendsBefore.pooled
  obtain ⟨keptEntry, pooled, -, same⟩ := changes.keepsPool ⟨entry, pooledBefore, rfl, rfl⟩
  obtain ⟨stored, found, evolves⟩ := changes.keepsDatabase lendsBefore.found
  obtain ⟨other, otherPooled, rfl⟩ := lends.pooled
  rw [pool] at pooled
  cases pooled.symm.trans otherPooled
  rw [← same] at found
  cases found.symm.trans lends.found
  have reachable := orderly.databases earlier (List.mem_of_getElem? lendsBefore.found)
  exact Connection.checkWrite_of_keepsShapes passed
    (evolves.tables reachable.wellFormed).keepsShapes

theorem Reachable.checked (reachable : deployment.Reachable) : deployment.Checked :=
  reachable.invariant (fun _ _ _ _ _ _ lends => nomatch lends.held)
    fun _ _ orderly changes checked => checked.change orderly changes

/-- **Early validation is final.**  Whatever other connections did since, and whatever tables were
made or given another strategy for keys, each write that a lent connection keeps back names a table
that is there, and its row passes the columns of that table as they are.  So a commit never fails
because a row does not fit its columns, or because the table of a write is missing.  And those two
are all that a write is refused for when it is issued, so they are what its check foresees. -/
theorem Reachable.validation_final (reachable : deployment.Reachable)
    (held : deployment.leases[lease]? = some (some lent)) :
    ∃ number database, deployment.Lends lease number lent database ∧
      (∀ next ∈ lent.connection.pending, database.tables.Passes next) ∧
      (∀ fault, ((commitTransaction lease).run deployment).1 = .error fault →
        fault.ofColumns = false ∧
          ∀ next ∈ lent.connection.pending, fault ≠ .tableNotFound next.table) ∧
      ∀ next fault, Connection.checkWrite database next = .error fault →
        fault.ofColumns = true ∨ fault = .tableNotFound next.table := by
  obtain ⟨entry, database, -, lends⟩ := reachable.orderly.lends held
  have passes : ∀ next ∈ lent.connection.pending, database.tables.Passes next :=
    fun next kept => Tables.passes_iff.mpr (reachable.checked lends next kept)
  refine ⟨_, database, lends, passes, fun fault failed => ?_,
    fun next fault refused => Tables.fault_of_checkWrite refused⟩
  have wellFormed :=
    (reachable.orderly.databases database (List.mem_of_getElem? lends.found)).wellFormed
  rw [commitTransaction, onConnection_run lends] at failed
  have unforeseen := Connection.unforeseen_of_commit wellFormed passes failed
  refine ⟨unforeseen.elsewhere, fun next kept missing => ?_⟩
  obtain ⟨table, found, -⟩ := passes next kept
  cases found.symm.trans (unforeseen.missing _ missing)

end Deployment

/-! ## A write that is overtaken -/

namespace Staff

/-- The schema of the table with another strategy for keys. -/
def switched : TableSchema := { schema with keyStrategy := "uuid4-hyphenated" }

/-- The deployment when two connections were lent, and the first keeps back a person who answers to
another. -/
def keeping : Deployment :=
  ((Request.action 0 (.execute (.insert "staff" [.text "eve", .text "bob"]))).run
    ((Request.begin.action 0).run
      ((Deployment.acquire 0).run ((Deployment.acquire 0).run pooled).2).2).2).2

/-- The deployment when the second connection has deleted that other person, and the table has taken
over another strategy for keys. -/
def overtaken : Deployment :=
  ((Deployment.ensureTable 0 switched).run
    ((Request.action 1 (.execute (.delete "staff" "bob"))).run keeping).2).2

theorem keeping_reachable : keeping.Reachable :=
  (((pooled_reachable.advance (.lent (rfl : pooled.pools[0]? = some _))).advance
    (.lent (rfl : ((Deployment.acquire 0).run pooled).2.pools[0]? = some _))).advance
      (.asked (rfl : ((Deployment.acquire 0).run
        ((Deployment.acquire 0).run pooled).2).2.leases[0]? = some (some _)) .begin)).advance
    (.asked (rfl : ((Request.begin.action 0).run ((Deployment.acquire 0).run
      ((Deployment.acquire 0).run pooled).2).2).2.leases[0]? = some (some _)) _)

theorem overtaken_reachable : overtaken.Reachable :=
  (keeping_reachable.advance (.asked (rfl : keeping.leases[1]? = some (some _)) _)).advance
    (.ensured (rfl : ((Request.action 1 (.execute (.delete "staff" "bob"))).run
      keeping).2.databases[0]? = some _) switched)

end Staff

namespace Deployment

/-- The write that was kept back still passes the columns, and the commit fails for its reference
only. -/
theorem staff_validation_final :
    ∃ lent number database, Staff.overtaken.leases[0]? = some (some lent) ∧
      Staff.overtaken.Lends 0 number lent database ∧
      lent.connection.pending = [.insert "staff" [.text "eve", .text "bob"]] ∧
      (∀ next ∈ lent.connection.pending, database.tables.Passes next) ∧
      ((commitTransaction 0).run Staff.overtaken).1 =
        .error (.constraint (.danglingReference "superior" "staff" "bob" "staff")) := by
  have held : Staff.overtaken.leases[0]? = some (some _) := rfl
  obtain ⟨number, database, lends, passes, -⟩ := Staff.overtaken_reachable.validation_final held
  exact ⟨_, number, database, held, lends, rfl, passes, rfl⟩

end Deployment

end EntityStore

import EntityStore.Context
import EntityStore.Storage
import EntityStore.Proofs.Resolution
import EntityStore.Proofs.TransactionView

/-!
# Transactions and single writes

A caller saves and deletes entities, changes them in between as it likes, and stops
at the first refusal.  It may have every write applied at once, or put a transaction
around all of them.  Over a database that keeps no image the two come to the same:
one goes through exactly when the other does, and then leaves the same tables, the
same keys on the entities, and the same keys to be issued
(`Database.Reachable.transaction_eq_autocommit`).

The reason is one law.  What a commit would leave behind at some point of the
transaction is what the single writes have left behind by then: a call moves both on
by the same write (`Session.perform_iff_of_commit`).  It issues the same write because
it decides by what it reads, and a transaction reads what its commit would leave
behind.  References are only checked by the commit, but
on the same tables as by the single writes, for the batch is carried out in order.
-/

set_option autoImplicit false

namespace EntityStore

/-! ## Checking before writing -/

/-- A write that can be carried out passes the checks of a transaction, also when they are made on
other tables of the same schemas. -/
theorem Tables.Performs.checkWrite_eq {tables later : Tables} {next : Write} {step : Undo}
    {database : Database} (performed : tables.Performs next later step)
    (schemas : ∀ name, tables.schema? name = database.tables.schema? name) :
    Connection.checkWrite database next = .ok () := by
  have stored {name : String} {table : Table} (found : tables.get? name = some table) :
      ∃ other, database.tables.find name = .ok other ∧ other.schema = table.schema := by
    have declared : database.tables.schema? name = some table.schema := by
      rw [← schemas, schema?, found, Option.map_some]
    obtain ⟨other, otherFound, schema⟩ := Option.map_eq_some_iff.mp declared
    exact ⟨other, find_eq_ok_iff.mpr otherFound, schema⟩
  cases performed with
  | insert found _ admits _ | update found _ admits _ =>
      obtain ⟨other, otherFound, schema⟩ := stored found
      have otherAdmits := admits.of_same_shape (congrArg _ schema) (congrArg _ schema)
      exact bind_eq_ok_iff.mpr ⟨other, otherFound, (Table.admits_iff.mp otherAdmits).1⟩
  | delete found _ _ =>
      obtain ⟨other, otherFound, -⟩ := stored found
      rw [Connection.checkWrite, otherFound]
      rfl

/-! ## Callers -/

/-- An entity together with its type. -/
structure AnyEntity where
  {shape : Type}
  kind : EntityType shape
  entity : shape

/-- The entities of a caller, by the names that it has for them. -/
abbrev Entities := String → AnyEntity

/-- What a caller does: it saves an entity, deletes the row of one, or changes its entities on its
own. -/
inductive Call where
  | save (name : String)
  | delete (name : String)
  | change (edit : Entities → Entities)

/-- A caller and what it works on. -/
structure Session (σ : Type) where
  entities : Entities
  work : WorkUnit σ

namespace Session

variable {σ : Type}

/-- Carries out one call. -/
def perform (saver : Saver σ) (session : Session σ) : Call → Except Fault Unit × Session σ
  | .save name =>
      let subject := session.entities name
      let ((answer, entity), work) := session.work.save saver subject.kind subject.entity
      (answer, ⟨Function.update session.entities name ⟨subject.kind, entity⟩, work⟩)
  | .delete name =>
      let subject := session.entities name
      let (answer, work) := session.work.delete saver subject.kind subject.entity
      (answer, { session with work })
  | .change edit => (.ok (), { session with entities := edit session.entities })

/-- Carries out calls in order, as long as they are not refused. -/
def performAll (saver : Saver σ) (session : Session σ) : List Call → Except Fault (Session σ)
  | [] => .ok session
  | call :: rest =>
      match session.perform saver call with
      | (.ok (), later) => later.performAll saver rest
      | (.error fault, _) => .error fault

/-- Opens a transaction. -/
def begin (session : Session σ) : Except Fault Unit × Session σ :=
  let (answer, work) := session.work.begin
  (answer, { session with work })

/-- Commits the transaction. -/
def commit (saver : Saver σ) (session : Session σ) : Except Fault Unit × Session σ :=
  let (answer, work) := session.work.commit saver
  (answer, { session with work })

/-- Carries out calls inside a transaction and commits it. -/
def transact (saver : Saver σ) (session : Session σ) (calls : List Call) :
    Except Fault (Session σ) :=
  match session.begin with
  | (.error fault, _) => .error fault
  | (.ok (), opened) =>
      match opened.performAll saver calls with
      | .error fault => .error fault
      | .ok inside =>
          match inside.commit saver with
          | (.error fault, _) => .error fault
          | (.ok (), later) => .ok later

/-! ## What a call is about to write -/

/-- What a call comes to before anything is written: the write that it issues, if any, and the
entities and the issuer as they will be. -/
structure Intent where
  next : Option Write
  entities : Entities
  issuer : KeyIssuer

/-- What a call comes to, or why it is refused before it writes. -/
def intent (session : Session σ) : Call → Except Fault Intent
  | .save name =>
      let subject := session.entities name
      let kind := subject.kind
      match session.work.checkType kind with
      | .error fault => .error fault
      | .ok () =>
          match kind.id? subject.entity with
          | none =>
              let entity := kind.withId session.work.issuer.next.1 subject.entity
              .ok ⟨some (.insert kind.mapping.table (kind.toRow entity)),
                Function.update session.entities name ⟨kind, entity⟩,
                session.work.issuer.next.2⟩
          | some id =>
              match session.work.isStored kind id with
              | .error fault => .error fault
              | .ok stored =>
                  let row := kind.toRow subject.entity
                  .ok ⟨some (if stored then .update kind.mapping.table id row
                      else .insert kind.mapping.table row),
                    session.entities, session.work.issuer⟩
  | .delete name =>
      let subject := session.entities name
      let kind := subject.kind
      match session.work.checkType kind with
      | .error fault => .error fault
      | .ok () =>
          match kind.id? subject.entity with
          | none => .error (.invalidIdentifier (.unsaved kind.mapping.entity))
          | some id =>
              .ok ⟨some (.delete kind.mapping.table id), session.entities, session.work.issuer⟩
  | .change edit => .ok ⟨none, edit session.entities, session.work.issuer⟩

/-- The session of an intent, before its write. -/
def intending (session : Session σ) (intent : Intent) : Session σ :=
  ⟨intent.entities, { session.work with issuer := intent.issuer }⟩

/-- Issues the write of an intent. -/
def issue (saver : Saver σ) (session : Session σ) : Option Write → Except Fault Unit × Session σ
  | none => (.ok (), session)
  | some next =>
      let (answer, work) := session.work.execute saver next
      (answer, { session with work })

theorem perform_eq_ok_iff {saver : Saver σ} {session later : Session σ} {call : Call} :
    session.perform saver call = (.ok (), later) ↔
      ∃ intent, session.intent call = .ok intent ∧
        (session.intending intent).issue saver intent.next = (.ok (), later) := by
  cases call with
  | save name =>
      simp only [perform, Session.intent, WorkUnit.save]
      cases known : session.work.checkType (session.entities name).kind with
      | error fault => simp
      | ok =>
          cases keyed : (session.entities name).kind.id? (session.entities name).entity with
          | none => simp [intending, issue]
          | some id =>
              cases read : session.work.isStored (session.entities name).kind id with
              | error fault => simp [read]
              | ok stored => simp [read, intending, issue]
  | delete name =>
      simp only [perform, Session.intent, WorkUnit.delete]
      cases known : session.work.checkType (session.entities name).kind with
      | error fault => simp
      | ok =>
          cases keyed : (session.entities name).kind.id? (session.entities name).entity with
          | none => simp
          | some id => simp [intending, issue]
  | change edit => simp [perform, Session.intent, intending, issue]

/-! ## Writing inside and outside a transaction -/

/-- The session after a transaction that leaves tables behind. -/
def settledOn (session : Session σ) (tables : Tables) : Session σ :=
  { session with
    work := { session.work with
      connection := session.work.connection.settled
      database := { session.work.database with tables } } }

/-- The session with one more write kept back. -/
def keeping (session : Session σ) (next : Write) : Session σ :=
  { session with
    work := { session.work with
      connection := { session.work.connection with
        pending := session.work.connection.pending ++ [next] } } }

variable {saver : Saver σ} {session later : Session σ}

/-- Whether a transaction is open, on tables that are in order. -/
structure IsInside (session : Session σ) : Prop where
  phase : session.work.connection.phase = .inTransaction
  wellFormed : session.work.database.tables.WellFormed

namespace IsInside

theorem intending (inside : session.IsInside) (intent : Intent) :
    (session.intending intent).IsInside := ⟨inside.phase, inside.wellFormed⟩

theorem keeping (inside : session.IsInside) (next : Write) : (session.keeping next).IsInside :=
  ⟨inside.phase, inside.wellFormed⟩

/-- Issuing a write inside a transaction is checking it and keeping it back. -/
theorem issue_eq_ok_iff (inside : session.IsInside) {next : Write} :
    session.issue saver (some next) = (.ok (), later) ↔
      Connection.checkWrite session.work.database next = .ok () ∧ later = session.keeping next := by
  simp only [issue, WorkUnit.execute, Connection.execute, inside.phase]
  cases checked : Connection.checkWrite session.work.database next with
  | error fault => simp
  | ok => simp [Session.keeping, inside.phase, eq_comm]

/-- A call comes to the same inside a transaction as after its commit. -/
theorem intent_settledOn (inside : session.IsInside) {tables : Tables}
    (done : session.work.database.tables.inSequence session.work.connection.pending = .ok tables)
    (call : Call) : (session.settledOn tables).intent call = session.intent call := by
  have isOpen : session.work.connection.checkOpen = .ok () :=
    Connection.checkOpen_of_inTransaction (by rw [Connection.isInTransaction, inside.phase]; rfl)
  have reads (name key : String) :
      session.work.connection.settled.get { session.work.database with tables } name key =
        session.work.connection.get session.work.database name key :=
    (Database.reads_of_inSequence inside.wellFormed isOpen done name).2 key
  have stored {shape : Type} (kind : EntityType shape) (id : String) :
      (session.settledOn tables).work.isStored kind id = session.work.isStored kind id := by
    rw [WorkUnit.isStored, WorkUnit.isStored, ← reads]
    rfl
  cases call with
  | save name =>
      simp only [Session.intent, stored]
      rfl
  | delete name => rfl
  | change edit => rfl

end IsInside

/-! ## What stays the same inside a transaction -/

/-- What calls inside a transaction leave behind: the same database, and at most more writes kept
back. -/
structure Continues (session later : Session σ) : Prop where
  inside : later.IsInside
  database : later.work.database = session.work.database
  pending : ∃ more, later.work.connection.pending = session.work.connection.pending ++ more

theorem perform_continues (inside : session.IsInside) {call : Call}
    (performed : session.perform saver call = (.ok (), later)) : Continues session later := by
  obtain ⟨intent, -, issued⟩ := perform_eq_ok_iff.mp performed
  cases written : intent.next with
  | none =>
      rw [written, issue] at issued
      cases issued
      exact ⟨inside.intending intent, rfl, [], (List.append_nil _).symm⟩
  | some next =>
      rw [written] at issued
      obtain ⟨-, rfl⟩ := (inside.intending intent).issue_eq_ok_iff.mp issued
      exact ⟨(inside.intending intent).keeping next, rfl, [next], rfl⟩

theorem performAll_continues (inside : session.IsInside) {calls : List Call}
    (performed : session.performAll saver calls = .ok later) : Continues session later := by
  induction calls generalizing session with
  | nil =>
      cases performed
      exact ⟨inside, rfl, [], (List.append_nil _).symm⟩
  | cons call rest ih =>
      rw [performAll] at performed
      split at performed
      · next between first =>
          have before := perform_continues inside first
          have after := ih before.inside performed
          obtain ⟨some, someKept⟩ := before.pending
          obtain ⟨more, moreKept⟩ := after.pending
          exact ⟨after.inside, after.database.trans before.database, some ++ more,
            by rw [moreKept, someKept, List.append_assoc]⟩
      · cases performed

/-! ## One call at a time -/

section KeepsNoImage

variable (keeps : ∀ tables medium, saver tables medium = .ok medium)

include keeps

theorem saveAfter_eq (writes : List Write) (tables : Tables) (medium : σ) :
    Database.saveAfter saver writes tables medium = .ok medium := by
  rw [Database.saveAfter]
  split
  · rfl
  · exact keeps tables medium

/-- Issuing a write outside a transaction is carrying it out. -/
theorem issue_outside (outside : session.work.connection.phase = .active)
    (wellFormed : session.work.database.tables.WellFormed) {next : Write} :
    session.issue saver (some next) = (.ok (), later) ↔
      ∃ tables, session.work.database.tables.inSequence [next] = .ok tables ∧
        later = { session with
          work := { session.work with database := { session.work.database with tables } } } := by
  simp only [issue, WorkUnit.execute, Connection.execute, outside, Database.apply_one wellFormed,
    Tables.inSequence]
  cases done : session.work.database.tables.write next with
  | error fault => simp
  | ok tables => simp [keeps, eq_comm]

/-- A commit succeeds exactly when the kept back writes can be carried out in order. -/
theorem commit_eq_ok_iff (inside : session.IsInside) :
    session.commit saver = (.ok (), later) ↔
      ∃ tables, session.work.database.tables.inSequence session.work.connection.pending =
        .ok tables ∧ later = session.settledOn tables := by
  simp only [commit, WorkUnit.commit, Connection.commit, Connection.isInTransaction, inside.phase,
    beq_self_eq_true, if_true, Database.apply_eq inside.wellFormed]
  cases done : session.work.database.tables.inSequence session.work.connection.pending with
  | error fault => cases fault <;> simp
  | ok tables => simp [saveAfter_eq keeps, settledOn, eq_comm]

variable {single : Session σ}

/-- Carrying out a write after the commit is keeping it back and committing then. -/
theorem issue_iff_of_commit (inside : session.IsInside)
    (committed : session.commit saver = (.ok (), single)) (next : Option Write) :
    single.issue saver next = (.ok (), later) ↔
      ∃ kept, session.issue saver next = (.ok (), kept) ∧ kept.commit saver = (.ok (), later) := by
  obtain ⟨tables, done, rfl⟩ := (commit_eq_ok_iff keeps inside).mp committed
  cases next with
  | none =>
      constructor
      · intro issued
        cases issued
        exact ⟨session, rfl, committed⟩
      · rintro ⟨kept, issued, later⟩
        cases issued
        cases committed.symm.trans later
        rfl
  | some next =>
      have settled : (session.settledOn tables).work.connection.phase = .active := rfl
      have settledWellFormed : (session.settledOn tables).work.database.tables.WellFormed :=
        (Tables.evolves_of_inSequence done).wellFormed inside.wellFormed
      have appended : session.work.database.tables.inSequence
          (session.work.connection.pending ++ [next]) = tables.inSequence [next] := by
        rw [Tables.inSequence_append, done]
        rfl
      rw [issue_outside keeps settled settledWellFormed]
      constructor
      · rintro ⟨after, written, rfl⟩
        refine ⟨session.keeping next, inside.issue_eq_ok_iff.mpr ⟨?_, rfl⟩, ?_⟩
        · have performed := written
          rw [Tables.inSequence_cons, bind_eq_ok_iff] at performed
          obtain ⟨⟨between, step⟩, performed, -⟩ := performed
          exact (Tables.write_eq_ok_iff.mp performed).checkWrite_eq fun name =>
            Tables.schema?_inSequence done name
        · exact (commit_eq_ok_iff keeps (inside.keeping next)).mpr
            ⟨after, appended.trans written, rfl⟩
      · rintro ⟨kept, issued, keptCommitted⟩
        obtain ⟨-, rfl⟩ := inside.issue_eq_ok_iff.mp issued
        obtain ⟨after, written, rfl⟩ :=
          (commit_eq_ok_iff keeps (inside.keeping next)).mp keptCommitted
        exact ⟨after, appended.symm.trans written, rfl⟩

/-- **A call after the commit is the call inside the transaction and the commit then.** -/
theorem perform_iff_of_commit (inside : session.IsInside)
    (committed : session.commit saver = (.ok (), single)) (call : Call) :
    single.perform saver call = (.ok (), later) ↔
      ∃ kept, session.perform saver call = (.ok (), kept) ∧
        kept.commit saver = (.ok (), later) := by
  obtain ⟨tables, done, rfl⟩ := (commit_eq_ok_iff keeps inside).mp committed
  have moved (intent : Intent) : (session.intending intent).commit saver =
      (.ok (), (session.settledOn tables).intending intent) :=
    (commit_eq_ok_iff keeps (inside.intending intent)).mpr ⟨tables, done, rfl⟩
  have issues (intent : Intent) :
      ((session.settledOn tables).intending intent).issue saver intent.next = (.ok (), later) ↔
        ∃ kept, (session.intending intent).issue saver intent.next = (.ok (), kept) ∧
          kept.commit saver = (.ok (), later) :=
    issue_iff_of_commit keeps (inside.intending intent) (moved intent) intent.next
  simp only [perform_eq_ok_iff, inside.intent_settledOn done]
  constructor
  · rintro ⟨intent, intended, issued⟩
    obtain ⟨kept, keptIssued, keptCommitted⟩ := (issues intent).mp issued
    exact ⟨kept, ⟨intent, intended, keptIssued⟩, keptCommitted⟩
  · rintro ⟨kept, ⟨intent, intended, keptIssued⟩, keptCommitted⟩
    exact ⟨intent, intended, (issues intent).mpr ⟨kept, keptIssued, keptCommitted⟩⟩

/-- When a commit succeeds in the end, it would have succeeded before. -/
theorem commit_of_continues (inside : session.IsInside) (continues : Continues session later)
    {final : Session σ} (committed : later.commit saver = (.ok (), final)) :
    ∃ single, session.commit saver = (.ok (), single) := by
  obtain ⟨tables, done, -⟩ := (commit_eq_ok_iff keeps continues.inside).mp committed
  obtain ⟨more, pending⟩ := continues.pending
  rw [continues.database, pending, Tables.inSequence_append, bind_eq_ok_iff] at done
  obtain ⟨between, before, -⟩ := done
  exact ⟨_, (commit_eq_ok_iff keeps inside).mpr ⟨between, before, rfl⟩⟩

/-- Calls after the commit are the calls inside the transaction and the commit then. -/
theorem performAll_iff_of_commit (inside : session.IsInside)
    (committed : session.commit saver = (.ok (), single)) (calls : List Call) :
    single.performAll saver calls = .ok later ↔
      ∃ kept, session.performAll saver calls = .ok kept ∧
        kept.commit saver = (.ok (), later) := by
  induction calls generalizing session single with
  | nil =>
      constructor
      · intro same
        cases same
        exact ⟨session, rfl, committed⟩
      · rintro ⟨kept, same, keptCommitted⟩
        cases same
        cases committed.symm.trans keptCommitted
        rfl
  | cons call rest ih =>
      simp only [performAll]
      constructor
      · intro performed
        split at performed
        · next between first =>
            obtain ⟨kept, keptFirst, keptCommitted⟩ :=
              (perform_iff_of_commit keeps inside committed call).mp first
            rw [keptFirst]
            exact (ih (perform_continues inside keptFirst).inside keptCommitted).mp performed
        · cases performed
      · rintro ⟨last, performed, lastCommitted⟩
        split at performed
        · next kept keptFirst =>
            have keptInside := (perform_continues inside keptFirst).inside
            obtain ⟨between, keptCommitted⟩ := commit_of_continues keeps keptInside
              (performAll_continues keptInside performed) lastCommitted
            rw [(perform_iff_of_commit keeps inside committed call).mpr
              ⟨kept, keptFirst, keptCommitted⟩]
            exact (ih keptInside keptCommitted).mpr ⟨last, performed, lastCommitted⟩
        · cases performed

/-- A transaction around calls is the calls. -/
theorem transact_eq_ok_iff (issued : session.work.connection.Issued)
    (active : session.work.connection.phase = .active)
    (wellFormed : session.work.database.tables.WellFormed) (calls : List Call) :
    session.transact saver calls = .ok later ↔ session.performAll saver calls = .ok later := by
  let opened : Session σ :=
    { session with
      work := { session.work with
        connection := { session.work.connection with phase := .inTransaction } } }
  have begun : session.begin = (.ok (), opened) := by
    rw [begin, WorkUnit.begin, Connection.begin, active]
  have inside : opened.IsInside := ⟨rfl, wellFormed⟩
  have nothingKept : session.work.connection.pending = [] :=
    issued.pending_eq_nil (by rw [Connection.isInTransaction, active]; rfl)
  have settled : session.work.connection.settled = session.work.connection := by
    rw [Connection.settled, ← active, ← nothingKept]
  have committed : opened.commit saver = (.ok (), session) := by
    refine (commit_eq_ok_iff keeps inside).mpr ⟨session.work.database.tables, ?_, ?_⟩
    · exact congrArg _ nothingKept
    · exact congrArg (fun connection => { session with work := { session.work with connection } })
        settled.symm
  rw [performAll_iff_of_commit keeps inside committed, transact, begun]
  dsimp only
  constructor
  · intro transacted
    split at transacted
    · cases transacted
    · next kept performed =>
        split at transacted
        · cases transacted
        · next last lastCommitted =>
            cases transacted
            exact ⟨kept, performed, lastCommitted⟩
  · rintro ⟨kept, performed, lastCommitted⟩
    rw [performed]
    dsimp only
    rw [lastCommitted]

end KeepsNoImage

end Session

/-! ## A database that keeps no image -/

namespace Finance

open Model

/-- The registry bound to an empty database beside an empty file tree. -/
def boundInMemory : Binding FileTree :=
  registry.bind ((Database.inMemory "finance").saver ⟨0, 0⟩) 0 pool (.inMemory "finance") .empty

theorem boundInMemory_reachable : boundInMemory.database.Reachable :=
  (Database.Reachable.empty (.memory "finance")).evolve
    (Registry.bind_evolves (rfl : boundInMemory.answer = .ok ()))

/-- A session with a domain and a class of it, which have no keys yet. -/
def session : Session FileTree where
  entities name :=
    if name = "domain" then
      ⟨Domain.entityType, { name := "Finance", rgbColor := "00ff00", mnemonic := "FIN" }⟩
    else ⟨Class.entityType, { name := "Account", domain := ⟨"d"⟩ }⟩
  work :=
    { catalog := registry.catalog
      connection := { id := 1, username := "sa" }
      issuer := .listed registry.strategy ["d", "c"] "none"
      database := boundInMemory.database
      medium := boundInMemory.medium }

/-- The class under its key, with another name. -/
def renamed (entities : Entities) : Entities :=
  Function.update entities "class"
    ⟨Class.entityType, { id := some "c", name := "Ledger", domain := ⟨"d"⟩ }⟩

/-- The domain and the class are saved, the class is renamed, deleted and saved again. -/
def calls : List Call :=
  [.save "domain", .save "class", .change renamed, .save "class", .delete "class", .save "class"]

end Finance

namespace Database

/-- **A transaction around calls is the calls.**  Over a reachable database that keeps no image,
every call succeeds on its own exactly when every call is accepted between begin and commit and
the commit succeeds.  Both then end in the same session, with the same tables and the same keys on
the entities. -/
theorem Reachable.transaction_eq_autocommit {session : Session FileTree} {name : String}
    (reachable : session.work.database.Reachable)
    (inMemory : session.work.database.location = .memory name)
    (issued : session.work.connection.Issued)
    (active : session.work.connection.phase = .active) (moment : Timestamp) (calls : List Call) :
    let saver := session.work.database.saver moment
    ((∃ single, session.performAll saver calls = .ok single) ↔
      ∃ whole, session.transact saver calls = .ok whole) ∧
    ∀ single whole, session.performAll saver calls = .ok single →
      session.transact saver calls = .ok whole → whole = single := by
  intro saver
  have same (final : Session FileTree) :
      session.transact saver calls = .ok final ↔ session.performAll saver calls = .ok final :=
    Session.transact_eq_ok_iff (saver_of_memory inMemory moment) issued active
      reachable.wellFormed calls
  refine ⟨exists_congr fun final => (same final).symm, fun single whole performed transacted => ?_⟩
  cases performed.symm.trans ((same whole).mp transacted)
  rfl

/-- The renamed class is there after the transaction, under the key of the first save. -/
theorem finance_transaction_eq_autocommit :
    ∃ whole, Finance.session.transact (Finance.session.work.database.saver ⟨0, 0⟩) Finance.calls =
        .ok whole ∧
      whole.work.database.tables.row? "vra_class" "c" =
        some [.text "c", .text "Ledger", .text "d"] ∧
      (whole.entities "class").kind.id? (whole.entities "class").entity = some "c" := by
  obtain ⟨goesThrough, same⟩ := Reachable.transaction_eq_autocommit
    Finance.boundInMemory_reachable (rfl : Finance.session.work.database.location = _)
    (.opened 1 "sa") rfl ⟨0, 0⟩ Finance.calls
  have performed : ∃ single, Finance.session.performAll
      (Finance.session.work.database.saver ⟨0, 0⟩) Finance.calls = .ok single ∧
        single.work.database.tables.row? "vra_class" "c" =
          some [.text "c", .text "Ledger", .text "d"] ∧
        (single.entities "class").kind.id? (single.entities "class").entity = some "c" :=
    ⟨_, rfl, rfl, rfl⟩
  obtain ⟨single, performed, holds⟩ := performed
  obtain ⟨whole, transacted⟩ := goesThrough.mp ⟨single, performed⟩
  cases same single whole performed transacted
  exact ⟨single, transacted, holds⟩

end Database

end EntityStore

import EntityStore.Proofs.BatchSemantics
import EntityStore.Proofs.Histories

/-!
# Work with lent connections

A request to a lent connection is carried out in one go: the lease, the pool and the
database behind it are looked up, the connection works on the database, and both are
put back.  What is left is another connection in the same lease, another database
under the same number, and other files.  All that is particular to a request is what
it does to the connection and the database, which is `Request.operate`.

Lending and taking back change the leases and the pool, and let the clock move on.
-/

set_option autoImplicit false

namespace EntityStore

/-! ## What batches do to tables -/

namespace Tables

variable {tables later : Tables}

/-- The tables after a batch that has reached them. -/
def receive (tables : Tables) (arrival : Arrival) : Except Fault Tables :=
  if arrival.brokeOff then .ok (tables.upTo arrival.writes) else tables.inSequence arrival.writes

/-- The tables after batches that have reached them one after the other. -/
def receiveAll (tables : Tables) (arrivals : List Arrival) : Except Fault Tables :=
  arrivals.foldlM receive tables

theorem receiveAll_singleton {arrival : Arrival} :
    tables.receiveAll [arrival] = tables.receive arrival :=
  bind_pure _

theorem receiveAll_append (tables : Tables) (first second : List Arrival) :
    tables.receiveAll (first ++ second) =
      tables.receiveAll first >>= fun between => between.receiveAll second :=
  List.foldlM_append ..

theorem inSequence_of_receive {arrival : Arrival} (received : tables.receive arrival = .ok later) :
    ∃ done, tables.inSequence done = .ok later ∧
      (arrival.brokeOff = false → done = arrival.writes) := by
  obtain ⟨writes, brokeOff⟩ := arrival
  cases brokeOff with
  | false => exact ⟨writes, received, fun _ => rfl⟩
  | true =>
      cases received
      obtain ⟨done, -, carriedOut⟩ := tables.inSequence_upTo writes
      exact ⟨done, carriedOut, nofun⟩

/-- Whatever batches do is done by writes in sequence, and by all of them if none broke off. -/
theorem inSequence_of_receiveAll {arrivals : List Arrival}
    (received : tables.receiveAll arrivals = .ok later) :
    ∃ done, tables.inSequence done = .ok later ∧
      ((∀ arrival ∈ arrivals, arrival.brokeOff = false) → done = arrivals.flatMap (·.writes)) := by
  induction arrivals generalizing tables with
  | nil => exact ⟨[], received, fun _ => rfl⟩
  | cons arrival rest ih =>
      obtain ⟨between, first, others⟩ := bind_eq_ok_iff.mp received
      obtain ⟨begun, begins, firstWhole⟩ := inSequence_of_receive first
      obtain ⟨done, carriedOut, restWhole⟩ := ih others
      refine ⟨begun ++ done, ?_, fun whole => ?_⟩
      · rw [inSequence_append, begins]
        exact carriedOut
      · obtain ⟨firstBrings, restBrings⟩ := List.forall_mem_cons.mp whole
        rw [firstWhole firstBrings, restWhole restBrings, List.flatMap_cons]

end Tables

/-- What goes wrong with a save is a matter of files. -/
theorem Database.saver_fault {database : Database} {fault : Fault} {moment : Timestamp}
    {tables : Tables} {files : FileTree}
    (failed : database.saver moment tables files = .error fault) :
    ∃ cause, fault = .file cause := by
  obtain ⟨_, location⟩ := database
  cases location with
  | memory name => cases failed
  | directory path =>
      change Storage.save path moment tables files = .error fault at failed
      rw [Storage.save] at failed
      split at failed
      · cases failed
        exact ⟨_, rfl⟩
      · split at failed
        · cases failed
          exact ⟨_, rfl⟩
        · cases failed

/-- Saving in memory or in a directory reports what goes wrong. -/
theorem Database.saver_reports (database : Database) (moment : Timestamp) :
    Database.Reports (database.saver moment) := by
  intro tables files breaks
  obtain ⟨cause, impossible⟩ := saver_fault breaks
  cases impossible

/-! ## What requests do to a connection -/

namespace Request

variable {σ : Type}

/-- A connection that is changed, or refuses to be. -/
def changed (connection : Connection) (database : Database) (medium : σ) :
    Except Fault Connection → Connection × Outcome σ Unit
  | .ok later => (later, ⟨.ok (), database, medium⟩)
  | .error fault => (connection, ⟨.error fault, database, medium⟩)

/-- What a request does to a connection, its database and the medium. -/
def operate (save : Saver σ) (connection : Connection) (database : Database) (medium : σ) :
    Request → Connection × Outcome σ Unit
  | .begin => changed connection database medium connection.begin
  | .execute next => connection.execute save next database medium
  | .commit => connection.commit save database medium
  | .rollback => changed connection database medium connection.rollback
  | .close => changed connection database medium (.ok connection.close)
  | .get table key =>
      (connection, ⟨(connection.get database table key).map fun _ => (), database, medium⟩)
  | .scan table =>
      (connection, ⟨(connection.scan database table).map fun _ => (), database, medium⟩)

end Request

/-! ## How a lease stands -/

namespace Standing

/-- Whether a connection is as its lease stands. -/
structure Describes (standing : Standing) (connection : Connection) : Prop where
  phase : connection.phase = standing.phase
  pending : connection.pending = standing.kept

namespace Describes

variable {σ : Type} {standing : Standing} {connection : Connection} {database : Database}

theorem changed_database (connection : Connection) (database : Database) (medium : σ)
    (answer : Except Fault Connection) :
    (Request.changed connection database medium answer).2.database = database := by
  cases answer <;> rfl

/-- A request that brings a batch to the database has it carried out there. -/
theorem operate_of_batch (described : standing.Describes connection) (save : Saver σ)
    (medium : σ) {request : Request} {writes : List Write}
    (brings : standing.batch? request = some writes) :
    (request.operate save connection database medium).2 = database.apply save writes medium := by
  obtain ⟨phase, pending⟩ := described
  cases request with
  | begin | rollback | close | get | scan => cases brings
  | execute next =>
      cases standing with
      | inside | ended => cases brings
      | outside =>
          cases brings
          rw [Request.operate, Connection.execute, phase]
          rfl
  | commit =>
      cases standing with
      | outside | ended => cases brings
      | inside kept =>
          cases brings
          rw [Request.operate, Connection.commit, Connection.isInTransaction, phase, pending]
          rfl

/-- Any other request leaves the database alone. -/
theorem operate_of_no_batch (described : standing.Describes connection) (save : Saver σ)
    (medium : σ) {request : Request} (brings : standing.batch? request = none) :
    (request.operate save connection database medium).2.database = database := by
  obtain ⟨phase, pending⟩ := described
  cases request with
  | begin | rollback | close => exact changed_database ..
  | get | scan => rfl
  | execute next =>
      rw [Request.operate, Connection.execute, phase]
      cases standing with
      | outside => cases brings
      | ended => rfl
      | inside kept =>
          dsimp only [Standing.phase]
          split
          · rfl
          · rfl
  | commit =>
      rw [Request.operate, Connection.commit, Connection.isInTransaction, phase]
      cases standing with
      | inside => cases brings
      | outside | ended => rfl

/-- What a request brings to the database is done to its tables, and nothing else is.  It only
breaks off for want of a key column. -/
theorem operate_settles (described : standing.Describes connection) {save : Saver σ}
    (reports : Database.Reports save) {database : Database}
    (wellFormed : database.tables.WellFormed) (medium : σ) (request : Request) :
    let outcome := (request.operate save connection database medium).2
    let arrival? := standing.arrival? (.asked request (.of outcome.answer))
    (∃ tables, outcome.database = { database with tables } ∧
      database.tables.receiveAll arrival?.toList = .ok tables) ∧
      ∀ arrival ∈ arrival?, database.tables.Keyed arrival.writes → arrival.brokeOff = false := by
  dsimp only
  cases brings : standing.batch? request with
  | none =>
      have nothing (ending : Ending) : standing.arrival? (.asked request ending) = none := by
        cases ending with
        | granted | brokenOff => rw [Standing.arrival?, brings, Option.map_none]
        | refused => rfl
      rw [nothing]
      refine ⟨⟨database.tables, described.operate_of_no_batch save medium brings, rfl⟩, ?_⟩
      rintro _ ⟨⟩
  | some writes =>
      rw [described.operate_of_batch save medium brings]
      cases answer : (database.apply save writes medium).answer with
      | ok =>
          have written := Database.apply_tables_of_ok wellFormed answer
          obtain ⟨_, tables, left, -⟩ := Database.apply_settles wellFormed save writes medium
          rw [left] at written ⊢
          rw [Ending.of, Standing.arrival?, brings]
          refine ⟨⟨tables, rfl, Tables.receiveAll_singleton.trans written⟩, ?_⟩
          rintro _ ⟨⟩ -
          rfl
      | error fault =>
          by_cases panics : fault = .panic
          · subst panics
            obtain ⟨breaks, left⟩ := Database.apply_of_panic wellFormed reports answer
            rw [Ending.of, Standing.arrival?, brings]
            refine ⟨⟨_, left, Tables.receiveAll_singleton⟩, ?_⟩
            rintro _ ⟨⟩ keyed
            exact absurd breaks keyed.inSequence_ne_panic
          · have refused : Ending.of (.error fault) = .refused := by
              cases fault <;> first | rfl | exact absurd rfl panics
            rw [refused, Standing.arrival?]
            refine ⟨⟨database.tables, Database.apply_of_fault wellFormed panics answer, rfl⟩, ?_⟩
            rintro _ ⟨⟩

theorem after_execute_outside (next : Write) (ending : Ending) :
    Standing.outside.after (.asked (.execute next) ending) = .outside := by
  cases ending <;> rfl

theorem after_execute_error (standing : Standing) (next : Write) (fault : Fault) :
    standing.after (.asked (.execute next) (.of (.error fault))) = standing := by
  cases fault <;> rfl

/-- A connection is after a request as its lease then stands. -/
theorem operate (described : standing.Describes connection) (save : Saver σ)
    (database : Database) (medium : σ) (request : Request) :
    let worked := request.operate save connection database medium
    (standing.after (.asked request (.of worked.2.answer))).Describes worked.1 := by
  obtain ⟨phase, pending⟩ := described
  cases request with
  | get | scan => exact ⟨phase, pending⟩
  | begin =>
      rw [Request.operate, Connection.begin, phase]
      cases standing with
      | outside => exact ⟨rfl, pending⟩
      | inside | ended => exact ⟨phase, pending⟩
  | execute next =>
      rw [Request.operate, Connection.execute, phase]
      cases standing with
      | outside =>
          dsimp only [Standing.phase]
          rw [after_execute_outside]
          exact ⟨phase, pending⟩
      | ended => exact ⟨phase, pending⟩
      | inside kept =>
          dsimp only [Standing.phase]
          split
          · exact ⟨rfl, congrArg (· ++ [next]) pending⟩
          · rw [after_execute_error]
            exact ⟨phase, pending⟩
  | commit =>
      rw [Request.operate, Connection.commit, Connection.isInTransaction, phase]
      cases standing with
      | inside kept => exact ⟨rfl, rfl⟩
      | outside | ended => exact ⟨phase, pending⟩
  | rollback =>
      rw [Request.operate, Connection.rollback, Connection.isInTransaction, phase]
      cases standing with
      | inside kept => exact ⟨rfl, rfl⟩
      | outside | ended => exact ⟨phase, pending⟩
  | close =>
      rw [Request.operate, Connection.close, Connection.isInTransaction, phase]
      cases standing with
      | inside kept => exact ⟨rfl, rfl⟩
      | outside | ended => exact ⟨rfl, pending⟩

end Describes

end Standing

/-! ## What pools do -/

/-- A connection that is handed back to its pool, where an open transaction is rolled back. -/
def Connection.handedBack (connection : Connection) : Connection :=
  if connection.isInTransaction then connection.settled else connection

theorem Connection.handedBack_id (connection : Connection) :
    connection.handedBack.id = connection.id := by
  rw [handedBack]
  split <;> rfl

theorem Standing.Describes.handedBack {standing : Standing} {connection : Connection}
    (described : standing.Describes connection) (isOpen : connection.handedBack.isOpen = true) :
    Standing.outside.Describes connection.handedBack := by
  obtain ⟨phase, pending⟩ := described
  rw [Connection.handedBack, Connection.isInTransaction, phase] at isOpen ⊢
  cases standing with
  | outside => exact ⟨phase, pending⟩
  | inside kept => exact ⟨rfl, rfl⟩
  | ended =>
      have closed : connection.isOpen = false := by
        rw [Connection.isOpen, phase]
        rfl
      exact absurd (closed.symm.trans isOpen) Bool.false_ne_true

namespace Pool

/-- What a request for a connection comes to, once those that waited too long are given up. -/
theorem acquire_cases (pool : Pool) (now : Nat) :
    let kept := pool.evict now
    (∃ first others, kept.waiting = first :: others ∧
      pool.acquire now = ⟨.ok first.connection, { kept with waiting := others }, now⟩) ∨
    (kept.waiting = [] ∧ kept.total < kept.settings.maxConnections ∧
      pool.acquire now = ⟨.ok kept.create.1, kept.create.2, now⟩) ∨
    (kept.waiting = [] ∧ ¬ kept.total < kept.settings.maxConnections ∧
      ∃ fault, pool.acquire now = ⟨.error fault, kept, now + kept.patience⟩) := by
  rw [acquire]
  dsimp only
  generalize pool.evict now = kept
  split
  · next first others waiting => exact .inl ⟨first, others, waiting, rfl⟩
  · next waiting =>
      by_cases room : kept.total < kept.settings.maxConnections
      · exact .inr (.inl ⟨waiting, room, if_pos room⟩)
      · exact .inr (.inr ⟨waiting, room, _, if_neg room⟩)

/-- A connection that comes back waits, or is given up. -/
theorem takeBack_cases (pool : Pool) (now : Nat) (busy : Bool) (connection : Connection) :
    (connection.handedBack.isOpen = true ∧ pool.takeBack now busy connection =
      { pool with waiting := pool.waiting ++ [⟨connection.handedBack, now, now⟩] }) ∨
    pool.takeBack now busy connection = { pool with total := pool.total - 1 } := by
  have back : connection.handedBack =
      if connection.isInTransaction then connection.settled else connection := rfl
  rw [takeBack, ← back]
  split
  · next waits => exact .inl ⟨(Bool.and_eq_true_iff.mp waits).1, rfl⟩
  · exact .inr rfl

/-- Whether no connection that waits is in a transaction or was closed. -/
def IsIdle (pool : Pool) : Prop :=
  ∀ waiting ∈ pool.waiting, Standing.outside.Describes waiting.connection

variable {pool : Pool}

/-- What an idle pool lends is outside a transaction, and the pool stays idle. -/
theorem IsIdle.acquire (idle : pool.IsIdle) (now : Nat) :
    (pool.acquire now).pool.IsIdle ∧
      ∀ connection, (pool.acquire now).answer = .ok connection →
        Standing.outside.Describes connection := by
  have kept : (pool.evict now).IsIdle := fun waiting member =>
    idle waiting (List.mem_of_mem_filter member)
  rcases pool.acquire_cases now with
    ⟨first, others, waiting, acquired⟩ | ⟨-, -, acquired⟩ | ⟨-, -, fault, acquired⟩
  · rw [IsIdle, waiting, List.forall_mem_cons] at kept
    rw [acquired]
    refine ⟨kept.2, fun connection lent => ?_⟩
    cases lent
    exact kept.1
  · rw [acquired]
    refine ⟨kept, fun connection lent => ?_⟩
    cases lent
    exact ⟨rfl, rfl⟩
  · rw [acquired]
    exact ⟨kept, nofun⟩

/-- However a lease stands, taking its connection back leaves an idle pool idle. -/
theorem IsIdle.takeBack (idle : pool.IsIdle) {standing : Standing} {connection : Connection}
    (described : standing.Describes connection) (now : Nat) (busy : Bool) :
    (pool.takeBack now busy connection).IsIdle := by
  rcases pool.takeBack_cases now busy connection with ⟨isOpen, taken⟩ | taken
  · rw [taken]
    exact List.forall_mem_append.mpr
      ⟨idle, List.forall_mem_singleton.mpr (described.handedBack isOpen)⟩
  · rw [taken]
    exact idle

end Pool

namespace Deployment

/-! ## Running actions -/

variable {deployment : Deployment} {lease number : Nat} {lent : Lease} {database : Database}

/-- An action after another runs on the deployment that the other leaves behind. -/
theorem run_bind {α β : Type} (action : Action α) (next : α → Action β) (deployment : Deployment) :
    ExceptT.run (action >>= next) deployment =
      match ExceptT.run action deployment with
      | (.ok answer, later) => ExceptT.run (next answer) later
      | (.error fault, later) => (.error fault, later) := by
  simp only [ExceptT.run_bind]
  change StateT.bind _ _ _ = _
  rw [StateT.bind]
  cases ExceptT.run action deployment with
  | mk answer later =>
      cases answer
      · rfl
      · rfl

theorem run_get_bind {α : Type} (next : Deployment → Action α) (deployment : Deployment) :
    ExceptT.run (get >>= next) deployment = ExceptT.run (next deployment) deployment := rfl

theorem held_run (held : deployment.leases[lease]? = some (some lent)) :
    (Deployment.held lease).run deployment = (.ok lent, deployment) := by
  rw [Deployment.held, run_get_bind, held]
  rfl

theorem known_run {α : Type} {things : Deployment → List α} {number : Nat} {thing : α}
    (found : (things deployment)[number]? = some thing) :
    (known things number).run deployment = (.ok thing, deployment) := by
  rw [known, run_get_bind, found]
  rfl

/-! ## Requests -/

/-- Whether a lease is held, and its connection is one to a database. -/
structure Lends (deployment : Deployment) (lease number : Nat) (lent : Lease)
    (database : Database) : Prop where
  held : deployment.leases[lease]? = some (some lent)
  pooled : ∃ entry, deployment.pools[lent.pool]? = some entry ∧ entry.database = number
  found : deployment.databases[number]? = some database

/-- The deployment after work with a lent connection. -/
def worked (deployment : Deployment) (lease number : Nat) (connection : Connection)
    (database : Database) (files : FileTree) : Deployment :=
  { deployment with
    databases := deployment.databases.set number database
    files
    leases := deployment.leases.modify lease
      (fun lease => lease.map (fun lease => { lease with connection })) }

theorem onConnection_run {α : Type} (lends : deployment.Lends lease number lent database)
    (operate : Saver FileTree → Connection → Database → FileTree →
      Connection × Outcome FileTree α) :
    (onConnection lease operate).run deployment =
      let (connection, outcome) :=
        operate (database.saver deployment.moment) lent.connection database deployment.files
      (outcome.answer,
        deployment.worked lease number connection outcome.database outcome.medium) := by
  obtain ⟨held, ⟨entry, pooled, rfl⟩, found⟩ := lends
  rw [onConnection, run_bind, held_run held]
  dsimp only
  rw [run_bind, known_run pooled]
  dsimp only
  rw [run_bind, known_run found]
  dsimp only
  rw [run_bind]
  change (_ : Action α).run deployment = _
  generalize operate (database.saver deployment.moment) lent.connection database
    deployment.files = result
  obtain ⟨connection, outcome⟩ := result
  cases answered : outcome.answer
  · rfl
  · rfl

/-- A request does to the deployment what it does to the connection and the database. -/
theorem action_run (lends : deployment.Lends lease number lent database) (request : Request) :
    (request.action lease).run deployment =
      let (connection, outcome) := request.operate (database.saver deployment.moment)
        lent.connection database deployment.files
      (outcome.answer,
        deployment.worked lease number connection outcome.database outcome.medium) := by
  cases request with
  | execute next =>
      rw [Request.action, execute, onConnection_run lends]
      rfl
  | commit =>
      rw [Request.action, commitTransaction, onConnection_run lends]
      rfl
  | begin =>
      rw [Request.action, beginTransaction, changeConnection, onConnection_run lends]
      cases begun : lent.connection.begin <;> simp only [Request.operate, begun, Request.changed]
  | rollback =>
      rw [Request.action, rollbackTransaction, changeConnection, onConnection_run lends]
      cases back : lent.connection.rollback <;> simp only [Request.operate, back, Request.changed]
  | close =>
      rw [Request.action, closeConnection, changeConnection, onConnection_run lends]
      rfl
  | get table key =>
      rw [Request.action, run_bind, getRow, readConnection, onConnection_run lends]
      dsimp only [Request.operate]
      cases lent.connection.get database table key
      · rfl
      · rfl
  | scan table =>
      rw [Request.action, run_bind, scanRows, readConnection, onConnection_run lends]
      dsimp only [Request.operate]
      cases lent.connection.scan database table
      · rfl
      · rfl

/-! ## Lending and taking back -/

variable {entry : PoolEntry}

theorem tick_run (deployment : Deployment) :
    tick.run deployment =
      (.ok (deployment.clock + 1), { deployment with clock := deployment.clock + 1 }) := rfl

theorem acquire_run (pooled : deployment.pools[number]? = some entry) :
    (acquire number).run deployment =
      let acquisition := entry.pool.acquire (deployment.clock + 1)
      let pools := deployment.pools.modify number
        (fun entry => { entry with pool := acquisition.pool })
      let clock := max (deployment.clock + 1) acquisition.time
      match acquisition.answer with
      | .error fault => (.error fault, { deployment with pools, clock })
      | .ok connection =>
          (.ok deployment.leases.length,
            { deployment with
              pools, clock
              leases := deployment.leases ++ [some ⟨connection, number⟩] }) := by
  rw [acquire, run_bind, known_run pooled]
  dsimp only
  rw [run_bind, tick_run]
  dsimp only
  generalize entry.pool.acquire (deployment.clock + 1) = acquisition
  obtain ⟨answer, pool, time⟩ := acquisition
  cases answer with
  | error fault => rfl
  | ok connection => rfl

theorem release_run (held : deployment.leases[lease]? = some (some lent))
    (pooled : deployment.pools[lent.pool]? = some entry) :
    (release lease).run deployment =
      let pool := entry.pool.takeBack (deployment.clock + 1) false lent.connection
      (.ok (),
        { deployment with
          clock := deployment.clock + 1
          pools := deployment.pools.modify lent.pool (fun entry => { entry with pool })
          leases := deployment.leases.set lease none }) := by
  rw [release, run_bind, held_run held]
  dsimp only
  rw [run_bind, known_run pooled]
  rfl

end Deployment

end EntityStore

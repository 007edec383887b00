import EntityStore.Proofs.ConnectionReads
import EntityStore.Proofs.LentConnections

/-!
# Serial commits

Many connections share one database, and their requests come in any order.  The
tables are at every moment what the batches of the history make of the first tables,
one batch after the other, and every connection keeps back just the writes that the
history says (`Deployment.Consistent`).  Each request keeps this up, and so do
lending a connection, taking one back, and whatever happens to the files and the
clock in between.  So it holds of every run (`Deployment.Runs.consistent`).

A batch counts as a whole or not at all, save for one that breaks off, which counts
with the writes before that.  No batch does where every table has a key column, and
one on a table without columns can (`Deployment.staff_commit_breaks_off`).

A connection that waits in a pool is outside a transaction and keeps nothing back,
however it came there, so the one who is lent it next starts afresh.
-/

set_option autoImplicit false

namespace EntityStore

/-! ## Histories and new leases -/

theorem History.standing_of_unmentioned {lease : Nat} {history : History}
    (unmentioned : ∀ entry ∈ history, entry.lease ≠ lease) :
    history.standing lease = .outside := by
  induction history with
  | nil => rfl
  | cons entry before ih =>
      obtain ⟨other, others⟩ := List.forall_mem_cons.mp unmentioned
      rw [standing_cons_of_ne other, ih others]

namespace Deployment

/-! ## Runs -/

/-- Whether a deployment has a database that no connection is lent to. -/
structure Quiet (deployment : Deployment) (number : Nat) (database : Database) : Prop where
  found : deployment.databases[number]? = some database
  reachable : database.Reachable
  idle : ∀ entry ∈ deployment.pools, entry.database = number → entry.pool.IsIdle
  unlent : deployment.leases = []

/-- The deployment after a lease was given up while its pool was busy. -/
def dropping (deployment : Deployment) (lease place : Nat) (pool : Pool) : Deployment :=
  { deployment with
    pools := deployment.pools.modify place (fun entry => { entry with pool })
    leases := deployment.leases.set lease none }

/-- The runs of a deployment in which connections to one database are lent, asked and given back,
perhaps to a pool that is busy.  Others may change the files in between and let time pass.  The
history says what was asked. -/
inductive Runs (origin : Deployment) (number : Nat) : History → Deployment → Prop where
  | start : Runs origin number [] origin
  | lent {history : History} {deployment : Deployment} {entry : PoolEntry}
      (before : Runs origin number history deployment) (pool : Nat)
      (pooled : deployment.pools[pool]? = some entry) (shares : entry.database = number) :
      Runs origin number history ((acquire pool).run deployment).2
  | asked {history : History} {deployment : Deployment} {lent : Lease}
      (before : Runs origin number history deployment) (lease : Nat)
      (held : deployment.leases[lease]? = some (some lent)) (request : Request) :
      Runs origin number
        (⟨lease, .asked request (.of ((request.action lease).run deployment).1)⟩ :: history)
        ((request.action lease).run deployment).2
  | returned {history : History} {deployment : Deployment} {lent : Lease}
      (before : Runs origin number history deployment) (lease : Nat)
      (held : deployment.leases[lease]? = some (some lent)) :
      Runs origin number (⟨lease, .returned⟩ :: history) ((release lease).run deployment).2
  | dropped {history : History} {deployment : Deployment} {lent : Lease} {entry : PoolEntry}
      (before : Runs origin number history deployment) (lease : Nat)
      (held : deployment.leases[lease]? = some (some lent))
      (pooled : deployment.pools[lent.pool]? = some entry) :
      Runs origin number (⟨lease, .returned⟩ :: history)
        (deployment.dropping lease lent.pool
          (entry.pool.takeBack deployment.clock true lent.connection))
  | disturbed {history : History} {deployment : Deployment}
      (before : Runs origin number history deployment) (files : FileTree) (clock : Nat) :
      Runs origin number history { deployment with files, clock }

/-! ## What every run keeps up -/

/-- Whether a deployment is as a history says. -/
structure Consistent (database : Database) (number : Nat) (history : History)
    (deployment : Deployment) : Prop where
  shared : ∃ tables, deployment.databases[number]? = some { database with tables } ∧
    database.tables.receiveAll history.arrivals = .ok tables
  whole : ∀ arrival ∈ history.arrivals, database.tables.Keyed arrival.writes →
    arrival.brokeOff = false
  idle : ∀ entry ∈ deployment.pools, entry.database = number → entry.pool.IsIdle
  lent : ∀ lease lent, deployment.leases[lease]? = some (some lent) →
    (∃ entry, deployment.pools[lent.pool]? = some entry ∧ entry.database = number) ∧
      (history.standing lease).Describes lent.connection
  known : ∀ entry ∈ history, entry.lease < deployment.leases.length

namespace Consistent

variable {database : Database} {number lease : Nat} {history : History} {deployment : Deployment}
  {lent : Lease}

theorem start (quiet : deployment.Quiet number database) :
    Consistent database number [] deployment where
  shared := ⟨database.tables, quiet.found, rfl⟩
  whole := nofun
  idle := quiet.idle
  lent lease lent held := by
    rw [quiet.unlent] at held
    cases held
  known := nofun

theorem disturbed (consistent : Consistent database number history deployment)
    (files : FileTree) (clock : Nat) :
    Consistent database number history { deployment with files, clock } :=
  ⟨consistent.shared, consistent.whole, consistent.idle, consistent.lent, consistent.known⟩

theorem lends (consistent : Consistent database number history deployment)
    (held : deployment.leases[lease]? = some (some lent)) :
    ∃ tables, deployment.Lends lease number lent { database with tables } ∧
      database.tables.receiveAll history.arrivals = .ok tables := by
  obtain ⟨tables, found, serial⟩ := consistent.shared
  exact ⟨tables, ⟨held, (consistent.lent lease lent held).1, found⟩, serial⟩

/-- The leases after work with one of them. -/
theorem leases_worked {connection : Connection} {worked : Database} {files : FileTree}
    {other : Nat} {otherLent : Lease} (held : deployment.leases[lease]? = some (some lent))
    (otherHeld : (deployment.worked lease number connection worked files).leases[other]? =
      some (some otherLent)) :
    if lease = other then otherLent = { lent with connection }
    else deployment.leases[other]? = some (some otherLent) := by
  rw [Deployment.worked, List.getElem?_modify] at otherHeld
  split
  · next same =>
      subst same
      rw [held] at otherHeld
      simpa using otherHeld.symm
  · next different => simpa [different] using otherHeld

theorem asked (consistent : Consistent database number history deployment)
    (wellFormed : database.tables.WellFormed)
    (held : deployment.leases[lease]? = some (some lent)) (request : Request) :
    let (answer, later) := (request.action lease).run deployment
    Consistent database number (⟨lease, .asked request (.of answer)⟩ :: history) later := by
  obtain ⟨tables, lends, serial⟩ := consistent.lends held
  obtain ⟨pooled, described⟩ := consistent.lent lease lent held
  obtain ⟨done, carriedOut, -⟩ := Tables.inSequence_of_receiveAll serial
  have wellFormedNow : { database with tables }.tables.WellFormed :=
    (Tables.evolves_of_inSequence carriedOut).wellFormed wellFormed
  rw [action_run lends]
  dsimp only
  have reports := Database.saver_reports { database with tables } deployment.moment
  generalize Database.saver _ deployment.moment = saver at reports ⊢
  obtain ⟨⟨later, left, received⟩, whole⟩ :=
    described.operate_settles reports wellFormedNow deployment.files request
  have stands := described.operate saver { database with tables } deployment.files request
  generalize request.operate saver lent.connection { database with tables } deployment.files =
    result at left received whole stands ⊢
  obtain ⟨connection, outcome⟩ := result
  constructor
  case shared =>
    refine ⟨later, ?_, ?_⟩
    · rw [worked, List.getElem?_set_self]
      · exact congrArg some left
      · exact (List.getElem?_eq_some_iff.mp lends.found).1
    · rw [History.arrivals_cons, Tables.receiveAll_append, serial]
      exact received
  case whole =>
    rw [History.arrivals_cons]
    intro arrival member keyed
    rcases List.mem_append.mp member with before | now
    · exact consistent.whole arrival before keyed
    · -- The schemas are those at the start.
      exact whole arrival (Option.mem_toList.mp now) (keyed.of_inSequence carriedOut)
  case idle => exact consistent.idle
  case lent =>
    intro other otherLent otherHeld
    have before := leases_worked held otherHeld
    split at before
    · next same =>
        subst same before
        rw [History.standing_cons_self]
        exact ⟨pooled, stands⟩
    · next different =>
        rw [History.standing_cons_of_ne different]
        exact consistent.lent other otherLent before
  case known =>
    have isThere := (List.getElem?_eq_some_iff.mp held).1
    rw [worked, List.length_modify]
    exact List.forall_mem_cons.mpr ⟨isThere, consistent.known⟩

/-- A pool may be replaced by an idle one, and the clock may move. -/
theorem withPool (consistent : Consistent database number history deployment) (place : Nat)
    {pool : Pool} (still : pool.IsIdle) (clock : Nat) :
    Consistent database number history
      { deployment with
        clock, pools := deployment.pools.modify place (fun entry => { entry with pool }) } where
  shared := consistent.shared
  whole := consistent.whole
  idle := by
    intro entry member shares
    obtain ⟨other, placed⟩ := List.mem_iff_getElem?.mp member
    rw [List.getElem?_modify] at placed
    obtain ⟨before, found, rfl⟩ := Option.map_eq_some_iff.mp placed
    by_cases same : place = other
    · simpa [same] using still
    · simp only [if_neg same] at shares ⊢
      exact consistent.idle before (List.mem_of_getElem? found) shares
  lent := by
    intro lease lent held
    obtain ⟨⟨entry, found, shares⟩, described⟩ := consistent.lent lease lent held
    refine ⟨?_, described⟩
    rw [List.getElem?_modify, found]
    refine ⟨_, rfl, ?_⟩
    split
    · exact shares
    · exact shares
  known := consistent.known

/-- A lease that nobody has asked anything yet stands outside a transaction. -/
theorem lending (consistent : Consistent database number history deployment)
    (pooled : ∃ entry, deployment.pools[lent.pool]? = some entry ∧ entry.database = number)
    (idle : Standing.outside.Describes lent.connection) :
    Consistent database number history
      { deployment with leases := deployment.leases ++ [some lent] } where
  shared := consistent.shared
  whole := consistent.whole
  idle := consistent.idle
  lent := by
    intro lease otherLent held
    rw [List.getElem?_append] at held
    split at held
    · exact consistent.lent lease otherLent held
    · next beyond =>
        obtain ⟨_, same⟩ := List.getElem?_eq_some_iff.mp held
        rw [List.getElem_singleton] at same
        cases same
        rw [History.standing_of_unmentioned]
        · exact ⟨pooled, idle⟩
        · rintro entry member rfl
          exact beyond (consistent.known entry member)
  known := by
    intro entry member
    rw [List.length_append]
    exact Nat.lt_add_right _ (consistent.known entry member)

/-- A lease that is given up is nobody's any more. -/
theorem givingUp (consistent : Consistent database number history deployment)
    (held : deployment.leases[lease]? = some (some lent)) :
    Consistent database number (⟨lease, .returned⟩ :: history)
      { deployment with leases := deployment.leases.set lease none } where
  shared := by
    obtain ⟨tables, found, serial⟩ := consistent.shared
    refine ⟨tables, found, ?_⟩
    rw [History.arrivals_cons]
    exact (congrArg _ (List.append_nil _)).trans serial
  whole := by
    rw [History.arrivals_cons]
    exact (List.append_nil _).symm ▸ consistent.whole
  idle := consistent.idle
  lent := by
    intro other otherLent otherHeld
    rw [List.getElem?_set] at otherHeld
    split at otherHeld
    · split at otherHeld <;> cases otherHeld
    · next different =>
        rw [History.standing_cons_of_ne different]
        exact consistent.lent other otherLent otherHeld
  known := by
    have isThere := (List.getElem?_eq_some_iff.mp held).1
    rw [List.length_set]
    exact List.forall_mem_cons.mpr ⟨isThere, consistent.known⟩

theorem returned (consistent : Consistent database number history deployment)
    (held : deployment.leases[lease]? = some (some lent)) :
    Consistent database number (⟨lease, .returned⟩ :: history)
      ((release lease).run deployment).2 := by
  obtain ⟨⟨entry, pooled, shares⟩, described⟩ := consistent.lent lease lent held
  have idle := consistent.idle entry (List.mem_of_getElem? pooled) shares
  rw [release_run held pooled]
  exact (consistent.withPool lent.pool (idle.takeBack described _ false) _).givingUp held

theorem dropped (consistent : Consistent database number history deployment)
    (held : deployment.leases[lease]? = some (some lent)) {entry : PoolEntry}
    (pooled : deployment.pools[lent.pool]? = some entry) :
    Consistent database number (⟨lease, .returned⟩ :: history)
      (deployment.dropping lease lent.pool
        (entry.pool.takeBack deployment.clock true lent.connection)) := by
  obtain ⟨⟨same, sameFound, shares⟩, described⟩ := consistent.lent lease lent held
  cases pooled.symm.trans sameFound
  have idle := consistent.idle entry (List.mem_of_getElem? pooled) shares
  exact (consistent.withPool lent.pool (idle.takeBack described _ true) _).givingUp held

theorem acquired {pool : Nat} {entry : PoolEntry}
    (consistent : Consistent database number history deployment)
    (pooled : deployment.pools[pool]? = some entry) (shares : entry.database = number) :
    Consistent database number history ((acquire pool).run deployment).2 := by
  have idle := consistent.idle entry (List.mem_of_getElem? pooled) shares
  obtain ⟨still, idleLent⟩ := idle.acquire (deployment.clock + 1)
  rw [acquire_run pooled]
  dsimp only
  generalize entry.pool.acquire (deployment.clock + 1) = acquisition at still idleLent ⊢
  obtain ⟨answer, later, time⟩ := acquisition
  have moved := consistent.withPool pool still (max (deployment.clock + 1) time)
  cases answer with
  | error fault => exact moved
  | ok connection =>
      refine moved.lending ⟨{ entry with pool := later }, ?_, shares⟩ (idleLent connection rfl)
      simp [pooled]

end Consistent

section Runs

variable {origin deployment : Deployment} {database : Database} {number lease : Nat}
  {history : History} {lent : Lease}

/-- Every run is as its history says. -/
theorem Runs.consistent (quiet : origin.Quiet number database)
    (runs : Runs origin number history deployment) :
    Consistent database number history deployment := by
  induction runs with
  | start => exact .start quiet
  | lent _ _ pooled shares ih => exact ih.acquired pooled shares
  | asked _ _ held request ih => exact ih.asked quiet.reachable.wellFormed held request
  | returned _ _ held ih => exact ih.returned held
  | dropped _ _ held pooled ih => exact ih.dropped held pooled
  | disturbed _ files clock ih => exact ih.disturbed files clock

/-- Asks connections in turn, and records it. -/
def askAll (deployment : Deployment) (history : History) :
    List (Nat × Request) → History × Deployment
  | [] => (history, deployment)
  | (lease, request) :: rest =>
      let (answer, later) := (request.action lease).run deployment
      askAll later (⟨lease, .asked request (.of answer)⟩ :: history) rest

/-- Asking a connection takes no lease away. -/
theorem isSome_lease_action_run (lends : deployment.Lends lease number lent database)
    (request : Request) {other : Nat} (held : deployment.leases[other]?.join.isSome) :
    ((request.action lease).run deployment).2.leases[other]?.join.isSome := by
  rw [action_run lends]
  dsimp only
  rw [worked, List.getElem?_modify]
  cases found : deployment.leases[other]? with
  | none =>
      rw [found] at held
      cases held
  | some stored =>
      rw [found] at held
      obtain ⟨otherLent, rfl⟩ := Option.isSome_iff_exists.mp held
      by_cases same : lease = other
      · simp [same]
      · simp [same]

/-- Asking connections that are held, one after the other, is a run. -/
theorem Runs.askAll (quiet : origin.Quiet number database)
    (runs : Runs origin number history deployment) (requests : List (Nat × Request))
    (held : ∀ step ∈ requests, (deployment.leases[step.1]?.join).isSome) :
    Runs origin number (deployment.askAll history requests).1
      (deployment.askAll history requests).2 := by
  induction requests generalizing history deployment with
  | nil => exact runs
  | cons step rest ih =>
      obtain ⟨lease, request⟩ := step
      obtain ⟨first, others⟩ := List.forall_mem_cons.mp held
      obtain ⟨lent, isLent⟩ := Option.isSome_iff_exists.mp first
      have isHeld : deployment.leases[lease]? = some (some lent) :=
        Option.join_eq_some_iff.mp isLent
      obtain ⟨tables, lends, -⟩ := (runs.consistent quiet).lends isHeld
      exact ih (runs.asked lease isHeld request) fun other member =>
        isSome_lease_action_run lends request (others other member)

/-! ## Reading -/

/-- Work that changes nothing leaves the deployment as it was. -/
theorem worked_self (lends : deployment.Lends lease number lent database) :
    deployment.worked lease number lent.connection database deployment.files = deployment := by
  have databases : deployment.databases.set number database = deployment.databases := by
    obtain ⟨isThere, rfl⟩ := List.getElem?_eq_some_iff.mp lends.found
    exact List.set_getElem_self isThere
  have leases : deployment.leases.modify lease
      (fun held => held.map (fun held => { held with connection := lent.connection })) =
        deployment.leases := by
    refine List.ext_getElem? fun place => ?_
    rw [List.getElem?_modify]
    by_cases same : lease = place
    · subst same
      rw [lends.held]
      simp
    · simp [same]
  rw [worked, databases, leases]

theorem readConnection_run {α : Type} (lends : deployment.Lends lease number lent database)
    (read : Connection → Database → Except Fault α) :
    (readConnection lease read).run deployment = (read lent.connection database, deployment) := by
  rw [readConnection, onConnection_run lends]
  dsimp only
  rw [worked_self lends]

/-! ## Serial commits -/

/-- Whether commits are serial and transactions isolated, as far as a history and what it has led
to can tell.  The tables are what the batches that have reached them make of the first ones, each
with all of its writes, or with those before the one at which it broke off.  A batch that is
refused does not reach them, and none breaks off whose tables have key columns.  Each write is
brought to the tables once at most, and no others are kept back than the history says: none after a
commit or a rollback, whatever came of it.  A batch is carried out exactly when it can be on these
tables, and reading shows them with the own writes laid over and no others. -/
structure Isolated (database : Database) (number : Nat) (history : History)
    (deployment : Deployment) (tables : Tables) : Prop where
  shared : deployment.databases[number]? = some { database with tables }
  serial : database.tables.receiveAll history.arrivals = .ok tables
  whole : ∀ arrival ∈ history.arrivals, database.tables.Keyed arrival.writes →
    arrival.brokeOff = false
  allOrNothing : (∀ arrival ∈ history.arrivals, database.tables.Keyed arrival.writes) →
    database.tables.inSequence (history.arrivals.flatMap (·.writes)) = .ok tables
  once : ∀ lease, (history.broughtBy lease ++ (history.standing lease).kept).Sublist
    (history.taken lease)
  kept : ∀ lease lent, deployment.leases[lease]? = some (some lent) →
    lent.connection.pending = (history.standing lease).kept ∧
      lent.connection.phase = (history.standing lease).phase
  settled : ∀ lease request ending before,
    history = ⟨lease, .asked request ending⟩ :: before →
      request = .commit ∨ request = .rollback →
        ∀ lent, deployment.leases[lease]? = some (some lent) → lent.connection.pending = []
  granted : ∀ lease lent request writes, deployment.leases[lease]? = some (some lent) →
    (history.standing lease).batch? request = some writes →
      (((request.action lease).run deployment).1 = .ok () ↔
        ∃ later saved, tables.inSequence writes = .ok later ∧
          Database.saveAfter (database.saver deployment.moment) writes later deployment.files =
            .ok saved)
  reads : ∀ lease lent name table, deployment.leases[lease]? = some (some lent) →
    history.standing lease ≠ .ended → tables.get? name = some table →
      let rows := ((history.standing lease).kept.filter (·.table = name)).foldl
        (Connection.overlayRows table.schema.keyIndex) table.rows
      (scanRows lease name).run deployment = (.ok rows.values, deployment) ∧
        ∀ key, (getRow lease name key).run deployment = (.ok (rows.get? key), deployment)

/-- **Commits are serial and isolated, unless one breaks off.**  However many connections share a
database, and in whatever order they are lent, asked and given back, the tables are at every moment
what the batches make of the first ones in their order, and no connection sees writes that another
keeps back.  Where tables have key columns a batch counts as a whole or not at all. -/
theorem Runs.isolated (quiet : origin.Quiet number database)
    (runs : Runs origin number history deployment) :
    ∃ tables, Isolated database number history deployment tables := by
  have consistent := runs.consistent quiet
  obtain ⟨tables, found, serial⟩ := consistent.shared
  obtain ⟨done, carriedOut, inFull⟩ := Tables.inSequence_of_receiveAll serial
  have wellFormed : tables.WellFormed :=
    (Tables.evolves_of_inSequence carriedOut).wellFormed quiet.reachable.wellFormed
  have lends {lease : Nat} {lent : Lease}
      (held : deployment.leases[lease]? = some (some lent)) :
      deployment.Lends lease number lent { database with tables } :=
    ⟨held, (consistent.lent lease lent held).1, found⟩
  refine ⟨tables, ⟨found, serial, consistent.whole, ?allOrNothing,
    fun lease => history.broughtBy_append_kept_sublist lease, ?kept, ?settled, ?granted, ?reads⟩⟩
  case allOrNothing =>
    intro keyed
    rw [← inFull fun arrival member => consistent.whole arrival member (keyed arrival member)]
    exact carriedOut
  case kept =>
    intro lease lent held
    obtain ⟨phase, pending⟩ := (consistent.lent lease lent held).2
    exact ⟨pending, phase⟩
  case settled =>
    rintro lease request ending before rfl ended lent held
    obtain ⟨-, pending⟩ := (consistent.lent lease lent held).2
    rw [pending, History.standing_cons_self]
    obtain rfl | rfl := ended
    · exact Standing.kept_settled _
    · exact Standing.kept_settled _
  case granted =>
    intro lease lent request writes held brings
    have described := (consistent.lent lease lent held).2
    rw [action_run (lends held)]
    dsimp only
    rw [described.operate_of_batch _ _ brings]
    exact Database.apply_granted_iff wellFormed _ _ _
  case reads =>
    intro lease lent name table held usable tableFound rows
    obtain ⟨phase, pending⟩ := (consistent.lent lease lent held).2
    have isOpen : lent.connection.checkOpen = .ok () := by
      rw [Connection.checkOpen, Connection.isOpen, phase]
      cases stands : history.standing lease with
      | outside | inside => rfl
      | ended => exact absurd stands usable
    have view : lent.connection.view name table = rows := by
      rw [Connection.view, Connection.pendingFor, pending]
    rw [scanRows, readConnection_run (lends held),
      Connection.scan_eq_view isOpen tableFound (wellFormed.rows tableFound), view]
    refine ⟨rfl, fun key => ?_⟩
    rw [getRow, readConnection_run (lends held), Connection.get_eq_view isOpen tableFound, view]

end Runs

end Deployment

/-! ## Two connections to a small database -/

namespace Staff

/-- The database behind a pool that has lent nothing yet. -/
def deployment : Deployment where
  files := .empty
  origin := ⟨0, 0⟩
  databases := [database]
  pools := [⟨⟨{ url := .memory "staff" }, [], 0, 1⟩, 0⟩]

theorem deployment_quiet : deployment.Quiet 0 database where
  found := rfl
  reachable := database_reachable
  idle := by
    intro entry member _
    rw [List.mem_singleton.mp member]
    exact nofun
  unlent := rfl

/-- The deployment with a table that has no columns at all. -/
def unlistedDeployment : Deployment := { deployment with databases := [unlisted] }

theorem unlistedDeployment_quiet : unlistedDeployment.Quiet 0 unlisted :=
  ⟨rfl, unlisted_reachable, deployment_quiet.idle, rfl⟩

/-- The deployment when two connections are lent. -/
def lending : Deployment :=
  ((Deployment.acquire 0).run ((Deployment.acquire 0).run deployment).2).2

theorem lending_runs : deployment.Runs 0 [] lending :=
  .lent (.lent .start 0 (rfl : deployment.pools[0]? = some _) rfl) 0
    (rfl : ((Deployment.acquire 0).run deployment).2.pools[0]? = some _) rfl

/-- The requests of both connections.  The one that asks first commits after the other has
written, and refers to what that has written. -/
def requests : List (Nat × Request) :=
  [(0, .begin), (0, .execute (.insert "staff" [.text "eve", .text "dan"])),
    (1, .execute (.insert "staff" [.text "dan", .null])), (0, .commit), (1, .begin),
    (1, .execute (.delete "staff" "bob"))]

end Staff

namespace Deployment

/-- The write of the connection that commits last comes last, and what the other keeps back then
has reached nothing. -/
theorem staff_isolated :
    ∃ history later tables, Runs Staff.deployment 0 history later ∧
      history.batches = [(1, ⟨[.insert "staff" [.text "dan", .null]], false⟩),
        (0, ⟨[.insert "staff" [.text "eve", .text "dan"]], false⟩)] ∧
      Isolated Staff.database 0 history later tables ∧
      tables.row? "staff" "bob" = some [.text "bob", .text "ada"] := by
  have run := Staff.lending_runs.askAll Staff.deployment_quiet Staff.requests
    (by decide)
  obtain ⟨tables, isolated⟩ := run.isolated Staff.deployment_quiet
  have batches : (askAll Staff.lending [] Staff.requests).1.batches =
      [(1, ⟨[.insert "staff" [.text "dan", .null]], false⟩),
        (0, ⟨[.insert "staff" [.text "eve", .text "dan"]], false⟩)] := by
    rfl
  refine ⟨_, _, tables, run, batches, isolated, ?_⟩
  have serial := isolated.serial
  rw [History.arrivals, batches] at serial
  cases serial
  rfl

/-- A commit that breaks off leaves the writes before that in the tables, where others read them. -/
theorem staff_commit_breaks_off :
    ∃ history later database, Runs Staff.unlistedDeployment 0 history later ∧
      history.head? = some ⟨0, .asked .commit .brokenOff⟩ ∧
      Staff.unlisted.tables.row? "staff" "ada" = none ∧
      later.databases[0]? = some database ∧
      database.tables.row? "staff" "ada" = some [.text "ada", .null] := by
  have lent : Runs Staff.unlistedDeployment 0 [] ((acquire 0).run Staff.unlistedDeployment).2 :=
    .lent .start 0 (rfl : Staff.unlistedDeployment.pools[0]? = some _) rfl
  have run := lent.askAll Staff.unlistedDeployment_quiet
    [(0, .begin), (0, .execute (.insert "staff" [.text "ada", .null])),
      (0, .execute (.insert "unlisted" [])), (0, .commit)] (by decide)
  exact ⟨_, _, _, run, rfl, rfl, rfl, rfl⟩

end Deployment

end EntityStore

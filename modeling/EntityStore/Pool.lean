import EntityStore.Config.Settings
import EntityStore.Connection

/-!
# Pools

A pool lends connections and takes them back.  Connections that wait are lent in the
order in which they came back; those that have lived or waited too long are given
up first, and a new one is made when none waits, as long as fewer than the greatest
number are there.

A connection that comes back is rolled back if it has to be.  A closed one is given
up.  Times are in nanoseconds of one clock that never goes back.  Who finds no
connection and may not have a new one looks again and again until the timeout has
passed, so that a refusal comes later than the request.
-/

set_option autoImplicit false

namespace EntityStore

/-- A connection that waits in a pool. -/
structure WaitingConnection where
  connection : Connection
  createdAt : Nat
  lastUsed : Nat
  deriving DecidableEq, Repr

/-- A pool: its settings, the waiting connections, first in line first, the number of all its
connections, and the number that the next new one gets. -/
structure Pool where
  settings : PoolSettings
  waiting : List WaitingConnection
  total : Nat
  nextId : Nat
  deriving DecidableEq, Repr

/-- What a request for a connection answers, the pool afterwards, and the time of the answer. -/
structure Acquisition where
  answer : Except Fault Connection
  pool : Pool
  time : Nat

/-- How many connections a pool has. -/
structure PoolStats where
  total : Nat
  available : Nat
  active : Nat
  maximum : Nat
  deriving DecidableEq, Repr

/-- The text form of the numbers of a pool. -/
def PoolStats.shown (stats : PoolStats) : String :=
  s!"Pool Stats: {stats.active}/{stats.total} active, {stats.available} available, " ++
    s!"max {stats.maximum}"

/-- Whether more than a span lies between two times.  No span is never over. -/
def spanIsOver (span : Option Nat) (since now : Nat) : Bool :=
  match span with
  | some nanoseconds => decide (nanoseconds < now - since)
  | none => false

namespace Pool

/-- The new connection of a pool with a number. -/
def newConnection (pool : Pool) (id : Nat) : Connection :=
  { id, username := pool.settings.username }

/-- The pool with one new connection, which is not among the waiting ones. -/
def create (pool : Pool) : Connection × Pool :=
  (pool.newConnection pool.nextId,
    { pool with total := pool.total + 1, nextId := pool.nextId + 1 })

/-- The pool with a number of new connections that wait. -/
def fill (now : Nat) (pool : Pool) (missing : Nat) : Pool :=
  let created := (List.range' pool.nextId missing).map fun id =>
    (⟨pool.newConnection id, now, now⟩ : WaitingConnection)
  { pool with
    waiting := pool.waiting ++ created
    total := pool.total + missing
    nextId := pool.nextId + missing }

/-- A new pool with the least number of connections. -/
def ofSettings (settings : PoolSettings) (now : Nat) : Except Fault Pool :=
  match settings.validate with
  | .error fault => .error (.config (.badSettings fault))
  | .ok () => .ok (fill now ⟨settings, [], 0, 1⟩ settings.minConnections)

/-- Whether a waiting connection may still be lent. -/
def isFresh (pool : Pool) (now : Nat) (waiting : WaitingConnection) : Bool :=
  !spanIsOver pool.settings.maxLifetime waiting.createdAt now &&
    !spanIsOver pool.settings.idleTimeout waiting.lastUsed now

/-- The pool without the waiting connections that may not be lent any more. -/
def evict (pool : Pool) (now : Nat) : Pool :=
  let kept := pool.waiting.filter (pool.isFresh now)
  { pool with waiting := kept, total := pool.total - (pool.waiting.length - kept.length) }

/-- The nanoseconds between two looks at a pool that has no connection to lend.  They are ten
milliseconds, rounded up to the next tick of a timer that counts milliseconds. -/
def pause : Nat := 11000000

/-- The nanoseconds from a request to its refusal: as many pauses as it takes for the timeout to
pass. -/
def patience (pool : Pool) : Nat :=
  let pauses := (pool.settings.connectTimeout + pause - 1) / pause
  pauses * pause

/-- Lends a connection: the first that waits, or else a new one. -/
def acquire (pool : Pool) (now : Nat) : Acquisition :=
  let pool := pool.evict now
  match pool.waiting with
  | first :: others => ⟨.ok first.connection, { pool with waiting := others }, now⟩
  | [] =>
      if pool.total < pool.settings.maxConnections then
        let (connection, pool) := pool.create
        ⟨.ok connection, pool, now⟩
      else
        ⟨.error (.storageUnavailable (.poolExhausted pool.settings.connectTimeout)), pool,
          now + pool.patience⟩

/-- Takes a connection back.  It is given up when it is closed, or when the pool is busy with
something else at that moment. -/
def takeBack (pool : Pool) (now : Nat) (busy : Bool) (connection : Connection) : Pool :=
  let connection := if connection.isInTransaction then connection.settled else connection
  if connection.isOpen && !busy then
    { pool with waiting := pool.waiting ++ [⟨connection, now, now⟩] }
  else { pool with total := pool.total - 1 }

/-- The numbers of a pool. -/
def stats (pool : Pool) : PoolStats :=
  { total := pool.total
    available := pool.waiting.length
    active := pool.total - pool.waiting.length
    maximum := pool.settings.maxConnections }

end Pool

end EntityStore

import Mathlib.Data.List.Basic
import EntityStore.Deployment.Connections

/-!
# Histories of lent connections

What lent connections were asked, one request at a time, and what came of each
request, is a history.  It tells how each lease stands: whether a transaction is open
on it, and which writes are kept back.  It also tells the batches that have reached
the database.  A write outside a transaction is a batch of its own, and a commit is
the batch of the writes kept back until then.  A batch that was granted has reached
the database as a whole, and one that broke off in part.  All other writes have
reached nothing.

A history knows the requests and the answers, not the connections or the tables.
How far it tells the truth about those is a matter of the runs that it records
(`Deployment.Runs.isolated`).
-/

set_option autoImplicit false

namespace EntityStore

/-! ## Requests -/

/-- What can be asked of a lent connection. -/
inductive Request where
  | begin
  | execute (next : Write)
  | commit
  | rollback
  | close
  | get (table key : String)
  | scan (table : String)
  deriving DecidableEq, Repr

/-- Asks a lent connection.  What is read is passed over. -/
def Request.action (lease : Nat) : Request → Action Unit
  | .begin => Deployment.beginTransaction lease
  | .execute next => Deployment.execute lease next
  | .commit => Deployment.commitTransaction lease
  | .rollback => Deployment.rollbackTransaction lease
  | .close => Deployment.closeConnection lease
  | .get table key => do
      let _ ← Deployment.getRow lease table key
      return
  | .scan table => do
      let _ ← Deployment.scanRows lease table
      return

/-- What comes of a request: it is granted, or refused, or breaks off in the middle. -/
inductive Ending where
  | granted
  | refused
  | brokenOff
  deriving DecidableEq, Repr

/-- The ending that an answer tells. -/
def Ending.of : Except Fault Unit → Ending
  | .ok () => .granted
  | .error .panic => .brokenOff
  | .error _ => .refused

/-- What happens to a lease: its connection is asked something, or given back to its pool. -/
inductive Event where
  | asked (request : Request) (ending : Ending)
  | returned
  deriving DecidableEq, Repr

/-- What happened to which lease. -/
structure Entry where
  lease : Nat
  event : Event
  deriving DecidableEq, Repr

/-- What happened to leases, latest first. -/
abbrev History := List Entry

/-! ## How a lease stands -/

/-- How a lease stands.  Writes are kept back inside a transaction and nowhere else. -/
inductive Standing where
  | outside
  | inside (kept : List Write)
  | ended
  deriving DecidableEq, Repr

namespace Standing

/-- The writes kept back. -/
def kept : Standing → List Write
  | .inside kept => kept
  | .outside | .ended => []

/-- The phase of the connection. -/
def phase : Standing → ConnectionPhase
  | .outside => .active
  | .inside _ => .inTransaction
  | .ended => .closed

/-- How a lease stands with one more write kept back. -/
def keeping (next : Write) : Standing → Standing
  | .inside kept => .inside (kept ++ [next])
  | .outside => .outside
  | .ended => .ended

/-- How a lease stands when no transaction is open on it any more. -/
def settled : Standing → Standing
  | .outside | .inside _ => .outside
  | .ended => .ended

theorem kept_settled (standing : Standing) : standing.settled.kept = [] := by
  cases standing <;> rfl

/-- How a lease stands after an event. -/
def after (standing : Standing) : Event → Standing
  | .asked .begin .granted => .inside []
  | .asked (.execute next) .granted => standing.keeping next
  | .asked .commit _ | .asked .rollback _ => standing.settled
  | .asked .close _ | .returned => .ended
  | .asked _ _ => standing

/-- The batch that a request brings to the database. -/
def batch? (standing : Standing) : Request → Option (List Write)
  | .execute next => if standing = .outside then some [next] else none
  | .commit => match standing with
      | .inside kept => some kept
      | .outside | .ended => none
  | .begin | .rollback | .close | .get _ _ | .scan _ => none

end Standing

/-- A batch that has reached the database, with all of its writes or with those before the one at
which it broke off. -/
structure Arrival where
  writes : List Write
  brokeOff : Bool
  deriving DecidableEq, Repr

/-- The batch that an event has brought to the database. -/
def Standing.arrival? (standing : Standing) : Event → Option Arrival
  | .asked request .granted => (standing.batch? request).map (⟨·, false⟩)
  | .asked request .brokenOff => (standing.batch? request).map (⟨·, true⟩)
  | .asked _ .refused | .returned => none

/-- The write that a connection takes, be it to keep it back or to carry it out. -/
def Event.taken? : Event → Option Write
  | .asked (.execute next) .granted | .asked (.execute next) .brokenOff => some next
  | _ => none

namespace History

/-- How a lease stands after a history. -/
def standing (lease : Nat) : History → Standing
  | [] => .outside
  | entry :: before =>
      if entry.lease = lease then (standing lease before).after entry.event
      else standing lease before

/-- The batches that have reached the database, in order, each with the lease that brought it. -/
def batches : History → List (Nat × Arrival)
  | [] => []
  | entry :: before =>
      batches before ++
        ((standing entry.lease before).arrival? entry.event).toList.map (entry.lease, ·)

/-- The batches that have reached the database. -/
def arrivals (history : History) : List Arrival := history.batches.map (·.2)

/-- The writes that a lease has brought to the database. -/
def broughtBy (lease : Nat) (history : History) : List Write :=
  (history.batches.filter (·.1 = lease)).flatMap (·.2.writes)

/-- The writes that a lease has taken, in order. -/
def taken (lease : Nat) : History → List Write
  | [] => []
  | entry :: before =>
      taken lease before ++ if entry.lease = lease then entry.event.taken?.toList else []

/-! ## One more event -/

variable {lease : Nat} {entry : Entry} {before : History}

theorem standing_cons_self (lease : Nat) (event : Event) (before : History) :
    standing lease (⟨lease, event⟩ :: before) = (standing lease before).after event :=
  if_pos rfl

theorem standing_cons_of_ne (other : entry.lease ≠ lease) :
    standing lease (entry :: before) = standing lease before :=
  if_neg other

theorem arrivals_cons (entry : Entry) (before : History) :
    arrivals (entry :: before) =
      before.arrivals ++ ((standing entry.lease before).arrival? entry.event).toList := by
  rw [arrivals, batches, List.map_append, arrivals, List.map_map]
  exact congrArg _ (List.map_id _)

theorem broughtBy_cons_self (lease : Nat) (event : Event) (before : History) :
    broughtBy lease (⟨lease, event⟩ :: before) =
      before.broughtBy lease ++
        (((standing lease before).arrival? event).map (·.writes)).getD [] := by
  rw [broughtBy, batches, List.filter_append, List.flatMap_append, broughtBy]
  cases (standing lease before).arrival? event <;> simp

theorem broughtBy_cons_of_ne (other : entry.lease ≠ lease) :
    broughtBy lease (entry :: before) = before.broughtBy lease := by
  rw [broughtBy, batches, List.filter_append, List.flatMap_append, broughtBy]
  cases (standing entry.lease before).arrival? entry.event <;> simp [other]

theorem taken_cons_self (lease : Nat) (event : Event) (before : History) :
    taken lease (⟨lease, event⟩ :: before) = before.taken lease ++ event.taken?.toList := by
  rw [taken, if_pos rfl]

theorem taken_cons_of_ne (other : entry.lease ≠ lease) :
    taken lease (entry :: before) = before.taken lease := by
  rw [taken, if_neg other, List.append_nil]

/-! ## No write counts twice -/

/-- What an event brings to the database and what is kept back after it was kept back before, or is
the write that it takes. -/
theorem arrival_append_kept_sublist (standing : Standing) (event : Event) :
    ((((standing.arrival? event).map (·.writes)).getD []) ++ (standing.after event).kept).Sublist
      (standing.kept ++ event.taken?.toList) := by
  cases event with
  | returned => exact List.nil_sublist _
  | asked request ending =>
      cases standing <;> cases request <;> cases ending <;>
        simp [Standing.arrival?, Standing.batch?, Standing.after, Standing.keeping,
          Standing.settled, Standing.kept, Event.taken?]

/-- The writes that a lease has brought to the database, and those that it keeps back, are some of
the writes that it has taken, in the same order and each at most once. -/
theorem broughtBy_append_kept_sublist (lease : Nat) (history : History) :
    (history.broughtBy lease ++ (history.standing lease).kept).Sublist (history.taken lease) := by
  induction history with
  | nil => exact List.Sublist.refl []
  | cons entry before ih =>
      by_cases same : entry.lease = lease
      · obtain ⟨owner, event⟩ := entry
        obtain rfl : owner = lease := same
        have moved := arrival_append_kept_sublist (standing owner before) event
        rw [broughtBy_cons_self, standing_cons_self, taken_cons_self, List.append_assoc]
        refine (moved.append_left _).trans ?_
        rw [← List.append_assoc]
        exact ih.append_right _
      · rw [broughtBy_cons_of_ne same, standing_cons_of_ne same, taken_cons_of_ne same]
        exact ih

end History

end EntityStore

/-!
# Sorting by comparisons

A sort that knows its items only by asking which of two comes first is a tree of
questions (`Comparing`).  It can be run with any way to answer them, also with one
that is no order at all, and one can tell afterwards what it has asked.

The sort of this module is stable and adapts to what it finds.  Up to twenty items
are sorted by insertion.  More are cut into runs from the front: what is in order
already, or falls strictly, is a run, and what is not is sorted in small portions or
left for a quicksort.  The runs are merged in the shape of a balanced tree.

Where the answers contradict each other the items end up in some order, with one
exception.  A small portion is merged from both ends at once, and when the two ends
do not meet, the sort breaks off.
-/

set_option autoImplicit false

namespace EntityStore

/-! ## Questions -/

/-- A computation that asks whether one item comes before another and goes on with the answer, until
it has a result or breaks off. -/
inductive Comparing (α β : Type) where
  | done (result : β)
  | broken
  | ask (left right : α) (next : Bool → Comparing α β)

namespace Comparing

variable {α β γ ε : Type}

/-- Goes on with a result. -/
def bind : Comparing α β → (β → Comparing α γ) → Comparing α γ
  | .done result, next => next result
  | .broken, _ => .broken
  | .ask left right answered, next => .ask left right fun answer => (answered answer).bind next

instance : Monad (Comparing α) where
  pure := .done
  bind := .bind

/-- Asks whether one item comes before another. -/
def before (left right : α) : Comparing α Bool := .ask left right .done

/-- Asks whether one item does not come before another. -/
def notBefore (left right : α) : Comparing α Bool := .ask left right fun answer => .done !answer

/-- The result when questions are answered by `less`, if it does not break off. -/
def run (less : α → α → Bool) : Comparing α β → Option β
  | .done result => some result
  | .broken => none
  | .ask left right next => (next (less left right)).run less

/-- The questions that are asked when they are answered by `less`. -/
def questions (less : α → α → Bool) : Comparing α β → List (α × α)
  | .done _ | .broken => []
  | .ask left right next => (left, right) :: (next (less left right)).questions less

/-- Whether one item comes before another by a comparison that may fail.  Where it fails, the items
count as equal. -/
def places (compare : α → α → Except ε Ordering) (left right : α) : Bool :=
  match compare left right with
  | .ok .lt => true
  | _ => false

/-- The faults of a comparison that may fail, as they are met. -/
def faults (compare : α → α → Except ε Ordering) (computation : Comparing α β) : List ε :=
  (computation.questions (places compare)).filterMap fun question =>
    match compare question.1 question.2 with
    | .ok _ => none
    | .error fault => some fault

end Comparing

namespace StableSort

open Comparing (before notBefore)

variable {α : Type}

/-! ## Insertion -/

/-- Puts an item into sorted ones, latest first, behind all that do not come after it. -/
def insertBack (item : α) : List α → Comparing α (List α)
  | [] => return [item]
  | last :: earlier => do
      if ← before item last then return last :: (← insertBack item earlier)
      else return item :: last :: earlier

/-- Inserts items one after the other into sorted ones, latest first, and puts the result into
order. -/
def insertAll (sorted : List α) : List α → Comparing α (List α)
  | [] => return sorted.reverse
  | item :: items => do insertAll (← insertBack item sorted) items

/-- Items sorted by insertion. -/
def insertionSort (items : List α) : Comparing α (List α) := insertAll [] items

/-! ## Merging -/

/-- Merges sorted items.  One of the second list goes first when `overtakes` says so of it and the
first one of the other list. -/
def mergeBy (overtakes : α → α → Comparing α Bool) : List α → List α → Comparing α (List α)
  | [], right => return right
  | left, [] => return left
  | first :: left, second :: right => do
      if ← overtakes second first then return second :: (← mergeBy overtakes (first :: left) right)
      else return first :: (← mergeBy overtakes left (second :: right))
  termination_by left right => left.length + right.length

/-- Whether an item of the left list goes before one of the right list when both are merged from
their ends. -/
def beforeFromEnd (left right : α) : Comparing α Bool := before right left

/-- Merges sorted items into the room of the longer list, from the front or from the end. -/
def merge (left right : List α) : Comparing α (List α) := do
  if left.length ≤ right.length then mergeBy before left right
  else return (← mergeBy beforeFromEnd right.reverse left.reverse).reverse

/-- What is taken from two lists that are merged, and what is left of them. -/
structure Taken (α : Type) where
  item : α
  left : List α
  right : List α

/-- Takes the item that goes first in a merge. -/
def takeFirst (overtakes : α → α → Comparing α Bool) : List α → List α → Comparing α (Taken α)
  | first :: left, second :: right => do
      if ← overtakes second first then return ⟨second, first :: left, right⟩
      else return ⟨first, left, second :: right⟩
  | _, _ => .broken

/-- How far a merge from both ends has come: the items it took from the front, those it took from
the end, and what it left of the two lists in either direction. -/
structure Meeting (α : Type) where
  front : List α
  left : List α
  right : List α
  back : List α
  leftBack : List α
  rightBack : List α

/-- Takes one item from the front and one from the end, as often as there are rounds. -/
def mergeInward :
    Nat → List α → List α → List α → List α → Comparing α (Meeting α)
  | 0, left, right, leftBack, rightBack => return ⟨[], left, right, [], leftBack, rightBack⟩
  | rounds + 1, left, right, leftBack, rightBack => do
      let first ← takeFirst before left right
      let last ← takeFirst beforeFromEnd rightBack leftBack
      let meeting ← mergeInward rounds first.left first.right last.right last.left
      return { meeting with
        front := first.item :: meeting.front, back := last.item :: meeting.back }

/-- Merges sorted halves from both ends.  The rounds take all items but the middle one of an odd
number, and the ends have met unless one of the halves was taken from beyond what the other end had
left of it. -/
def mergeHalves (left right : List α) : Comparing α (List α) := do
  let meeting ← mergeInward left.length left right left.reverse right.reverse
  let fromLeft := left.length - meeting.left.length
  let fromRight := right.length - meeting.right.length
  if fromLeft ≤ meeting.leftBack.length ∧ fromRight ≤ meeting.rightBack.length then
    return meeting.front ++ (meeting.leftBack.reverse.drop fromLeft ++
      meeting.rightBack.reverse.drop fromRight) ++ meeting.back.reverse
  else .broken

/-! ## Small portions -/

/-- Two items in order. -/
def sortTwo (first second : α) : Comparing α (α × α) := do
  if ← before second first then return (second, first) else return (first, second)

/-- Four items in order, with five questions. -/
def sortFour (first second third fourth : α) : Comparing α (List α) := do
  let (low, high) ← sortTwo first second
  let (otherLow, otherHigh) ← sortTwo third fourth
  let lowOvertaken ← before otherLow low
  let highOvertaken ← before otherHigh high
  let least := if lowOvertaken then otherLow else low
  let greatest := if highOvertaken then high else otherHigh
  -- Of the two others it is known which one was further left.
  let left := if lowOvertaken then low else if highOvertaken then otherLow else high
  let right := if highOvertaken then otherHigh else if lowOvertaken then high else otherLow
  let (left, right) ← sortTwo left right
  return [least, left, right, greatest]

/-- The first items of a half in order, and the others. -/
def sortHead (byFour : Bool) : List α → Comparing α (List α × List α)
  | first :: second :: third :: fourth :: items => do
      if byFour then return (← sortFour first second third fourth, items)
      else return ([first], second :: third :: fourth :: items)
  | items => return (items.take 1, items.drop 1)

/-- A small portion of items sorted in two halves. -/
def smallSort (items : List α) : Comparing α (List α) := do
  if items.length < 2 then return items
  let half := items.length / 2
  let (left, leftRest) ← sortHead (8 ≤ items.length) (items.take half)
  let (right, rightRest) ← sortHead (8 ≤ items.length) (items.drop half)
  let left ← insertAll left.reverse leftRest
  let right ← insertAll right.reverse rightRest
  mergeHalves left right

/-- The length up to which a portion is small. -/
def smallLength : Nat := 32

/-! ## Runs -/

/-- A part of the items that may be sorted already. -/
structure Run (α : Type) where
  items : List α
  sorted : Bool

/-- Lengthens a run, latest first, as long as it falls or as long as it does not. -/
def extendRun (falling : Bool) (last : α) (run : List α) :
    List α → Comparing α (List α × List α)
  | [] => return (last :: run, [])
  | item :: items => do
      if (← before item last) = falling then extendRun falling item (last :: run) items
      else return (last :: run, item :: items)

/-- The run at the front of the items, in order, and the others. -/
def naturalRun : List α → Comparing α (List α × List α)
  | first :: second :: items => do
      let falling ← before second first
      let (run, rest) ← extendRun falling second [first] items
      return (if falling then run else run.reverse, rest)
  | items => return (items, [])

/-- The run at the front of enough items, and the others. -/
def runFrom (minimum : Nat) (items : List α) : Comparing α (List α × List α) :=
  if minimum ≤ items.length then naturalRun items else return ([], items)

/-- Cuts a run off: one that is there and long enough, or else one that is made, either by sorting a
small portion at once or by leaving items unsorted. -/
def createRun (eager : Bool) (minimum : Nat) (items : List α) : Comparing α (Run α × List α) := do
  let (run, rest) ← runFrom minimum items
  if minimum ≤ run.length then return (⟨run, true⟩, rest)
  else if eager then
    return (⟨← smallSort (items.take smallLength), true⟩, items.drop smallLength)
  else return (⟨items.take minimum, false⟩, items.drop minimum)

/-- The items of a run in order. -/
def Run.settle (sortPart : List α → Comparing α (List α)) (run : Run α) : Comparing α (List α) :=
  if run.sorted then return run.items else sortPart run.items

/-- Joins two runs.  Two that are both unsorted stay so, as long as they can be sorted together in
the room there is. -/
def joinRuns (room : Nat) (sortPart : List α → Comparing α (List α)) (left right : Run α) :
    Comparing α (Run α) := do
  if left.items.length + right.items.length ≤ room ∧ !left.sorted ∧ !right.sorted then
    return ⟨left.items ++ right.items, false⟩
  else
    let leftItems ← left.settle sortPart
    let rightItems ← right.settle sortPart
    return ⟨← merge leftItems rightItems, true⟩

/-- Joins the latest run with those before it that lie at least so deep in the tree of merges.  The
run at the bottom is never joined. -/
def joinDeeper (room : Nat) (sortPart : List α → Comparing α (List α)) (depth : Nat)
    (latest : Run α) : List (Run α × Nat) → Comparing α (Run α × List (Run α × Nat))
  | (run, runDepth) :: next :: earlier => do
      if depth ≤ runDepth then
        joinDeeper room sortPart depth (← joinRuns room sortPart run latest) (next :: earlier)
      else return (latest, (run, runDepth) :: next :: earlier)
  | earlier => return (latest, earlier)

/-- The leading zeros of a number of sixty-four bits. -/
def leadingZeros (number : Nat) : Nat := if number = 0 then 64 else 63 - Nat.log2 number

/-- How deep two neighbouring runs lie in the tree of merges over so many items. -/
def mergeDepth (count start middle stop : Nat) : Nat :=
  let factor := ((1 <<< 62) + count - 1) / count
  leadingZeros ((factor * (start + middle)) ^^^ (factor * (middle + stop)))

/-- How runs of a sort are made and joined. -/
structure RunPolicy (α : Type) where
  eager : Bool
  count : Nat
  room : Nat
  minimum : Nat
  sortPart : List α → Comparing α (List α)

/-- Cuts items into runs and joins them.  As many runs are made at most as `limit` says; no run is
empty, so the number of items is enough. -/
def joinAll (policy : RunPolicy α) :
    Nat → Nat → Run α → List (Run α × Nat) → List α → Comparing α (Run α)
  | _, _, latest, earlier, [] => do
      return (← joinDeeper policy.room policy.sortPart 0 latest earlier).1
  | 0, _, _, _, _ :: _ => .broken
  | limit + 1, scanned, latest, earlier, item :: items => do
      let (run, rest) ← createRun policy.eager policy.minimum (item :: items)
      let reached := scanned + run.items.length
      let depth := mergeDepth policy.count (scanned - latest.items.length) scanned reached
      let (joined, earlier) ← joinDeeper policy.room policy.sortPart depth latest earlier
      joinAll policy limit reached run ((joined, depth) :: earlier) rest

/-- A number near the square root. -/
def nearSqrt (number : Nat) : Nat :=
  let shift := (1 + Nat.log2 number) / 2
  ((1 <<< shift) + (number >>> shift)) / 2

/-- The length from which a run of so many items is good. -/
def goodLength (count : Nat) : Nat :=
  if count ≤ 64 * 64 then min (count - count / 2) 64 else nearSqrt count

/-- Items sorted by runs. -/
def sortByRuns (eager : Bool) (room : Nat) (sortPart : List α → Comparing α (List α))
    (items : List α) : Comparing α (List α) := do
  let count := items.length
  let policy : RunPolicy α := { eager, count, room, minimum := goodLength count, sortPart }
  (← joinAll policy count 0 ⟨[], true⟩ [] items).settle sortPart

/-! ## Quicksort -/

/-- The place among three that holds the middle item. -/
def middleOf (items : List α) (first second third : Nat) : Comparing α Nat :=
  match items[first]?, items[second]?, items[third]? with
  | some a, some b, some c => do
      let overSecond ← before a b
      let overThird ← before a c
      if overSecond = overThird then
        if (← before b c) = overSecond then return second else return third
      else return first
  | _, _, _ => return first

/-- The place of an item that is probably in the middle, from three regions of a length. -/
def middleOfRegions (items : List α) (first second third length : Nat) : Comparing α Nat := do
  if 64 ≤ length * 8 then
    let part := length / 8
    let first ← middleOfRegions items first (first + part * 4) (first + part * 7) part
    let second ← middleOfRegions items second (second + part * 4) (second + part * 7) part
    let third ← middleOfRegions items third (third + part * 4) (third + part * 7) part
    middleOf items first second third
  else middleOf items first second third
  termination_by length

/-- The place of the item at which a quicksort parts the items. -/
def choosePivot (items : List α) : Comparing α Nat :=
  let part := items.length / 8
  middleOfRegions items 0 (part * 4) (part * 7) part

/-- Parts items into those that go to the left and the others, both in their old order. -/
def part (goesLeft : α → Comparing α Bool) : List α → Comparing α (List α × List α)
  | [] => return ([], [])
  | item :: items => do
      let goes ← goesLeft item
      let (left, right) ← part goesLeft items
      return if goes then (item :: left, right) else (left, item :: right)

/-- Parts items around one of them, which goes to the given side unasked. -/
def partAround (goesLeft : α → Comparing α Bool) (pivotLeft : Bool) (earlier : List α) (pivot : α)
    (later : List α) : Comparing α (List α × List α) := do
  let (left, right) ← part goesLeft earlier
  let (laterLeft, laterRight) ← part goesLeft later
  return if pivotLeft then (left ++ pivot :: laterLeft, right ++ laterRight)
    else (left ++ laterLeft, right ++ pivot :: laterRight)

/-- Whether an ancestor does not come before the pivot. -/
def tiesWith (pivot : α) : Option α → Comparing α Bool
  | none => return false
  | some ancestor => notBefore ancestor pivot

/-- Parts items into those that come before the pivot and the others, unless the pivot ties with an
ancestor that none of the items comes before. -/
def partBelow (ancestor : Option α) (earlier : List α) (pivot : α) (later : List α) :
    Comparing α (List α × List α) := do
  if ← tiesWith pivot ancestor then return ([], earlier ++ pivot :: later)
  else partAround (before · pivot) false earlier pivot later

/-- Items sorted by parting them, up to a depth from which they are sorted by runs.  Where no item
is below the pivot, those that tie with it are sorted already. -/
def quicksort (room : Nat) : Nat → Option α → List α → Comparing α (List α)
  | limit, ancestor, items => do
      if items.length ≤ smallLength then smallSort items
      else
        match limit with
        -- An eager sort leaves no run unsorted, so it does not matter what sorts them.
        | 0 => sortByRuns true room insertionSort items
        | limit + 1 =>
            let place ← choosePivot items
            match items.drop place with
            | [] => .broken
            | pivot :: later =>
                let earlier := items.take place
                let (below, others) ← partBelow ancestor earlier pivot later
                if below.isEmpty then
                  let (same, above) ← partAround (notBefore pivot) true earlier pivot later
                  return same ++ (← quicksort room limit none above)
                else
                  let others ← quicksort room limit (some pivot) others
                  return (← quicksort room limit ancestor below) ++ others

/-! ## Sorting -/

/-- How many items the room of eight million bytes holds, at three words an item. -/
def fullRoom : Nat := 8000000 / 24

/-- For how many items there is room besides the ones that are sorted. -/
def roomFor (count : Nat) : Nat := max (max (count - count / 2) (min count fullRoom)) 48

/-- Items in order, those that tie as they stood. -/
def sort (items : List α) : Comparing α (List α) :=
  if items.length ≤ 20 then insertionSort items
  else
    let room := roomFor items.length
    sortByRuns (items.length ≤ 2 * smallLength) room
      (fun part => quicksort room (2 * Nat.log2 part.length) none part) items

end StableSort

end EntityStore

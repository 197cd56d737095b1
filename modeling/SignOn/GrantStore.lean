import Std.Data.HashMap
import SignOn.Breakdown
import SignOn.Log
import SignOn.Text.Number
import SignOn.Time.Span

/-
This file keeps proxy-granting tickets until the assertions that they belong to arrive.
-/

namespace SignOn

open SignOn.Text

/-- A granting ticket is kept with the time at which it was delivered, as the n-th one. -/
structure Grant where
  ticket : String
  savedAt : Span
  arrival : Nat
  deriving DecidableEq, Repr, Inhabited

/-- Granting tickets are found by a reference to them, for as long as they are retained. -/
structure GrantStore where
  retention : Span
  capacity : Nat
  grants : Std.HashMap String Grant
  /-- How many grants there were when the store was last cleaned up. -/
  counted : Nat
  arrivals : Nat

namespace GrantStore

def defaultCapacity : Nat := 100000

def defaultRetention : Span := .ofSeconds 60

/-- A thousand years of 365 days are the longest time for which a store can retain. -/
def longestRetention : Span := .ofSeconds (1000 * 365 * 86400)

def empty (retention : Span) (capacity : Nat) : GrantStore :=
  ⟨retention, capacity, ∅, 0, 0⟩

/-- A store that would have to retain for too long breaks down. -/
def create (retention : Span) (capacity : Nat) : Except Breakdown GrantStore :=
  if longestRetention.nanos < retention.nanos then .error .retentionTooLong
  else .ok (empty retention capacity)

/-- A grant expires when it is as old as the retention. -/
def isExpired (store : GrantStore) (now : Span) (grant : Grant) : Bool :=
  grant.savedAt.nanos + store.retention.nanos ≤ now.nanos

/-- Products that do not fit into sixty-four bits are cut to the largest number that does. -/
def saturated (number : Nat) : Nat := min number (limit64 - 1)

/-- A store is nearly full from nine tenths of its capacity on, as far as it has counted. -/
def isNearCapacity (store : GrantStore) : Bool :=
  saturated (store.capacity * 9) ≤ saturated (store.counted * 10)

/-- The newest delivery under a reference replaces the ones before it. -/
def put (store : GrantStore) (now : Span) (iou ticket : String) : GrantStore :=
  if store.capacity = 0 then store
  else
    { store with
      grants := store.grants.insert iou ⟨ticket, now, store.arrivals⟩
      arrivals := store.arrivals + 1 }

def save (store : GrantStore) (now : Span) (iou ticket : String) : Logged GrantStore := do
  if store.isNearCapacity then
    Logged.write .warn
      (s!"Proxy-granting ticket store near capacity ({store.counted} of {store.capacity} " ++
        s!"entries); IOU {iou} may be dropped")
  else Logged.write .debug s!"Saving proxy-granting ticket for IOU {iou}"
  return store.put now iou ticket

def take (store : GrantStore) (iou : String) : GrantStore :=
  { store with grants := store.grants.erase iou }

/-- A grant is handed out at most once, and not when it has expired. -/
def retrieve (store : GrantStore) (now : Span) (iou : String) :
    Logged (Option String × GrantStore) :=
  match store.grants[iou]? with
  | none => do
    Logged.write .debug s!"No proxy-granting ticket found for IOU {iou}"
    return (none, store)
  | some grant =>
    if store.isExpired now grant then do
      Logged.write .debug s!"Proxy-granting ticket for IOU {iou} expired"
      return (none, store.take iou)
    else return (some grant.ticket, store.take iou)

/-- Of more grants than fit, the ones that arrived first stay. -/
def withinCapacity (capacity : Nat) (grants : Std.HashMap String Grant) :
    Std.HashMap String Grant :=
  if grants.size ≤ capacity then grants
  else
    let byArrival := grants.toList.mergeSort fun left right => left.2.arrival ≤ right.2.arrival
    Std.HashMap.ofList (byArrival.take capacity)

def purge (store : GrantStore) (now : Span) : GrantStore :=
  let live := store.grants.filter fun _ grant => !store.isExpired now grant
  let kept := withinCapacity store.capacity live
  { store with grants := kept, counted := kept.size }

/-- Expired grants are dropped, and the rest is counted. -/
def cleanUp (store : GrantStore) (now : Span) : Logged GrantStore := do
  let purged := store.purge now
  Logged.write .debug s!"Proxy-granting ticket store cleaned up, {purged.counted} entries pending"
  return purged

end GrantStore

end SignOn

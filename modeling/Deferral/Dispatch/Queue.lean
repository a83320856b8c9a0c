import Deferral.Dispatch.Record

/-!
# Queue

The queue of a container holds its records in the order in which they were queued. A record is idle
until a tick claims it; only idle records can be cancelled or replaced. Four counters tell what
became of the records that were offered.
-/

namespace Deferral

/-- Why a record was not queued. -/
inductive QueueError where
  /-- A record with its id is queued already. -/
  | duplicateId (id : RecordId)
deriving DecidableEq

/-- The words for a record that was not queued. -/
def QueueError.message : QueueError → String
  | duplicateId id => "dispatch " ++ String.ofList id.render ++ " is already queued"

/-- What became of a record that was offered, with the like records that were there. -/
inductive EnqueueOutcome where
  | inserted
  | skipped (existing : List RecordId)
  | replaced (removed : List RecordId)
  | duplicated (existing : List RecordId)
deriving DecidableEq

namespace EnqueueOutcome

/-- Whether the record was queued. -/
def isInserted : EnqueueOutcome → Bool
  | skipped _ => false
  | _ => true

/-- The word for an outcome. -/
def word : EnqueueOutcome → String
  | inserted => "inserted"
  | skipped _ => "skipped"
  | replaced _ => "replaced"
  | duplicated _ => "duplicated"

/-- The like records that were there. -/
def others : EnqueueOutcome → List RecordId
  | inserted => []
  | skipped ids | replaced ids | duplicated ids => ids

/-- The like records that were taken out. -/
def removed : EnqueueOutcome → List RecordId
  | replaced ids => ids
  | _ => []

/-- The outcome as JSON. -/
def toJson (o : EnqueueOutcome) : Json :=
  .ofMembers [
    ("outcome", .str o.word), ("ids", .arr (o.others.map RecordId.toJson)),
    ("inserted", .bool o.isInserted)]

end EnqueueOutcome

/-- How many records were queued, not queued, replaced and cancelled. -/
structure QueueCounters where
  enqueued : Nat
  skipped : Nat
  replaced : Nat
  cancelled : Nat
deriving DecidableEq, Repr

namespace QueueCounters

/-- Nothing counted. -/
def zero : QueueCounters := ⟨0, 0, 0, 0⟩

/-- The counters as JSON. -/
def toJson (c : QueueCounters) : Json :=
  .ofMembers [
    ("enqueued", .nat c.enqueued), ("skipped", .nat c.skipped), ("replaced", .nat c.replaced),
    ("cancelled", .nat c.cancelled)]

end QueueCounters

/-- A queue. -/
structure Queue where
  name : String
  records : List Record
  counters : QueueCounters

namespace Queue

/-- A queue without records. -/
def new (name : String) : Queue := ⟨name, [], .zero⟩

/-- The ids of the records. -/
def ids (q : Queue) : List RecordId := q.records.map (·.id)

/-- The record with an id. -/
def get? (q : Queue) (id : RecordId) : Option Record := q.records.find? (·.id == id)

/-- The number of idle records. -/
def pending (q : Queue) : Nat := q.records.countP (·.isIdle)

/-- The records of an activity with a wanted identifier; any will do if none is wanted. -/
def find (q : Queue) (activityId : String) (identifier : Option String) : List Record :=
  q.records.filter fun r => r.activity.id == activityId && r.hasIdentifier identifier

/-- Puts a record at the end, unless its id is there. -/
def insert (q : Queue) (r : Record) : Except QueueError Queue :=
  if q.records.any (·.id == r.id) then .error (.duplicateId r.id)
  else
    .ok
      { q with
        records := q.records ++ [r]
        counters := { q.counters with enqueued := q.counters.enqueued + 1 } }

/-- Whether an idle record is like a new one: of the same activity, and with its identifier if the
new one has any. -/
def collides (new r : Record) : Bool :=
  r.isIdle && r.activity.id == new.activity.id && r.hasIdentifier new.identifier

/-- The ids of the idle records that are like a new one. -/
def collisions (q : Queue) (new : Record) : List RecordId :=
  (q.records.filter (collides new)).map (·.id)

/-- Takes out the idle records that are wanted. -/
def drain (q : Queue) (wanted : Record → Bool) : List Record × Queue :=
  let (out, kept) := q.records.partition fun r => r.isIdle && wanted r
  (out, { q with records := kept })

/-- A record put at the end after its like ones were dealt with. -/
def insertAs (q : Queue) (r : Record) (outcome : EnqueueOutcome) :
    Except QueueError EnqueueOutcome × Queue :=
  match q.insert r with
  | .ok q => (.ok outcome, q)
  | .error e => (.error e, q)

/-- Offers a record, whose own policy says what to do if like ones are there. -/
def enqueue (q : Queue) (r : Record) : Except QueueError EnqueueOutcome × Queue :=
  match q.collisions r with
  | [] => q.insertAs r .inserted
  | existing =>
      match r.onExisting with
      | .skip =>
          (.ok (.skipped existing),
            { q with counters := { q.counters with skipped := q.counters.skipped + 1 } })
      | .replace =>
          let (out, q) := q.drain fun o => existing.contains o.id
          let q :=
            { q with
              counters := { q.counters with replaced := q.counters.replaced + out.length } }
          q.insertAs r (.replaced (out.map (·.id)))
      | .ignore => q.insertAs r (.duplicated existing)

/-- Takes out the record with an id. -/
def remove (q : Queue) (id : RecordId) : Option Record × Queue :=
  (q.get? id, { q with records := q.records.eraseP (·.id == id) })

/-- Takes out a record that was run. -/
def complete (q : Queue) (id : RecordId) : Option Record × Queue := q.remove id

/-- Marks the idle records that are due as processing, and returns them by the time at which they
were queued; those queued at one time keep their order. -/
def claimDue (q : Queue) (now : Instant) : List Record × Queue :=
  let isWanted (r : Record) : Bool := r.isIdle && r.isDue now
  let claimed := (q.records.filter isWanted).map fun r => { r with processing := true }
  (claimed.mergeSort fun a b => a.queuedAt ≤ b.queuedAt,
    { q with
      records := q.records.map fun r => if isWanted r then { r with processing := true } else r })

/-- Cancels the idle records that are wanted, or only lists them in a dry run. -/
def cancelMatching (q : Queue) (wanted : Record → Bool) (dryRun : Bool) : List Record × Queue :=
  let (out, drained) := q.drain wanted
  if dryRun then (out, q)
  else
    (out,
      { drained with
        counters := { q.counters with cancelled := q.counters.cancelled + out.length } })

/-- Cancels the idle records of an activity that gives way to activity from a source. -/
def cancelSuperseded (q : Queue) (activityId : String) (source : Source) : List Record × Queue :=
  if source.isDispatch then ([], q)
  else
    q.cancelMatching (fun r => r.activity.id == activityId && r.cancelRule.applies source) false

/-- Takes out all records and counts them. -/
def clear (q : Queue) : Nat × Queue := (q.records.length, { q with records := [] })

end Queue

/-! ### Operations

The producers, cancellers and ticks of a container share its queue. An operation is done as a whole
before the next one begins, so whatever any number of clients do comes to one list of operations.
A history tells what was answered to each of them. -/

/-- Something that a client asks of a queue. -/
inductive QueueOp where
  | insert (r : Record)
  | enqueue (r : Record)
  | claimDue (now : Instant)
  | complete (id : RecordId)
  | remove (id : RecordId)
  | cancelMatching (wanted : Record → Bool) (dryRun : Bool)
  | cancelSuperseded (activityId : String) (source : Source)
  | clear

/-- The record that an operation offers. -/
def QueueOp.offered? : QueueOp → Option Record
  | insert r | enqueue r => some r
  | _ => none

/-- Whether an operation only lists what it would cancel. -/
def QueueOp.isDryRun : QueueOp → Bool
  | cancelMatching _ dryRun => dryRun
  | _ => false

/-- The records that operations offer, in order. -/
def QueueOp.offers (ops : List QueueOp) : List Record := ops.filterMap offered?

/-- What a queue answers. -/
inductive QueueAnswer where
  | inserted (result : Except QueueError Unit)
  | enqueued (result : Except QueueError EnqueueOutcome)
  | claimed (records : List Record)
  | removed (record : Option Record)
  | cancelled (records : List Record)
  | cleared (count : Nat)

/-- An operation with its answer. -/
structure Exchange where
  op : QueueOp
  answer : QueueAnswer

namespace Exchange

/-- The ids of the records that are handed out to be run. -/
def claimed (x : Exchange) : List RecordId :=
  match x.answer with
  | .claimed records => records.map (·.id)
  | _ => []

/-- The ids of the records that are listed as cancelled, or as like ones of a record that was
offered. -/
def named (x : Exchange) : List RecordId :=
  match x.answer with
  | .cancelled records => records.map (·.id)
  | .enqueued (.ok outcome) => outcome.others
  | _ => []

/-- The ids of the records that are taken out because they were cancelled or replaced. -/
def withdrawn (x : Exchange) : List RecordId :=
  match x.answer with
  | .cancelled records => if x.op.isDryRun then [] else records.map (·.id)
  | .enqueued (.ok outcome) => outcome.removed
  | _ => []

end Exchange

namespace Queue

/-- Does one operation. -/
def perform (q : Queue) : QueueOp → QueueAnswer × Queue
  | .insert r =>
      match q.insert r with
      | .ok q => (.inserted (.ok ()), q)
      | .error e => (.inserted (.error e), q)
  | .enqueue r => (.enqueued (q.enqueue r).1, (q.enqueue r).2)
  | .claimDue now => (.claimed (q.claimDue now).1, (q.claimDue now).2)
  | .complete id => (.removed (q.complete id).1, (q.complete id).2)
  | .remove id => (.removed (q.remove id).1, (q.remove id).2)
  | .cancelMatching wanted dryRun =>
      (.cancelled (q.cancelMatching wanted dryRun).1, (q.cancelMatching wanted dryRun).2)
  | .cancelSuperseded activityId source =>
      (.cancelled (q.cancelSuperseded activityId source).1,
        (q.cancelSuperseded activityId source).2)
  | .clear => (.cleared q.clear.1, q.clear.2)

/-- The queue after operations, one after another. -/
def run (q : Queue) (ops : List QueueOp) : Queue := ops.foldl (fun q op => (q.perform op).2) q

/-- One operation with what is answered to it. -/
def exchange (q : Queue) (op : QueueOp) : Exchange := ⟨op, (q.perform op).1⟩

/-- What is answered to operations, one after another. -/
def history (q : Queue) : List QueueOp → List Exchange
  | [] => []
  | op :: ops => q.exchange op :: history (q.perform op).2 ops

end Queue

end Deferral

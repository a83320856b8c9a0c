import Deferral.Activity
import Deferral.Dispatch.Queue

/-!
# Ticks

A tick claims the records that are due and runs each of them once. At most a fixed number run at the
same time; they take turns. The first turn of a record asks the platform for its activity, and the
checks are started on it in the turn in which the platform has answered. A turn ends in one of three
ways: the record gives way and goes to the back of those that run, it stalls and gets no further
turn, or it finishes and makes room for the next that waits. A record leaves the queue when it
finishes, whether it succeeded or not, and all that are left leave it when the tick is abandoned.
-/

namespace Deferral

/-- What the checks are told about a run. -/
structure RunOptions where
  source : Source
  type : DispatchType
  goto : Option String
  identifier : Option String
  dryRun : Option Bool
  tardy : Bool
  action : String
deriving DecidableEq, Repr

/-- The options as JSON. -/
def RunOptions.toJson (o : RunOptions) : Json :=
  .ofMembers [
    ("source", o.source.toJson), ("dispatch_type", o.type.toJson),
    ("goto", .ofOption .str o.goto), ("identifier", .ofOption .str o.identifier),
    ("dry_run", .ofOption .bool o.dryRun), ("tardy", .bool o.tardy), ("action", .str o.action)]

/-- What a tick did. -/
structure TickReport where
  due : Nat
  executed : Nat
  failed : Nat
  tardy : Nat
deriving DecidableEq, Repr

namespace TickReport

/-- The report as JSON. -/
def toJson (r : TickReport) : Json :=
  .ofMembers [
    ("due", .nat r.due), ("executed", .nat r.executed), ("failed", .nat r.failed),
    ("tardy", .nat r.tardy)]

/-- One more record that was run. -/
def add (r : TickReport) (succeeded tardy : Bool) : TickReport :=
  { r with
    executed := r.executed + succeeded.toNat
    failed := r.failed + (!succeeded).toNat
    tardy := r.tardy + tardy.toNat }

end TickReport

/-- What operators are told about a tick. -/
inductive TickNotice where
  | tardy
  | failed (f : Failure)
  /-- A record was not in the queue any more when it left the tick. -/
  | gone
deriving DecidableEq

/-- The line of a notice. -/
def TickNotice.line : TickNotice → String
  | tardy => "WARN dispatch: running tardy"
  | failed f => "ERROR dispatch: execution failed, record removed: " ++ f.message
  | gone => "WARN dispatch: executed record was already gone from the queue"

/-- How far a claimed record has come. -/
inductive Stage where
  /-- It has had no turn. -/
  | fresh
  /-- The platform was asked for its activity and has not answered. -/
  | asking
  /-- The checks were started on an activity. -/
  | underWay (a : Activity)
deriving DecidableEq

/-- A claimed record on its way through a tick. -/
structure Execution where
  record : Record
  tardy : Bool
  stage : Stage
  /-- How often its checks have given way. -/
  gaveWay : Nat
deriving DecidableEq

/-- What a turn of a record begins with before the checks are started. -/
structure Opening where
  notices : List TickNotice
  calls : List FetchCall
  /-- The activity on which the checks are started, or why they are not. -/
  answer : Except Failure Activity

/-- How a turn ends. -/
inductive TurnEnd where
  /-- The platform has not answered. -/
  | awaiting
  | gaveWay (a : Activity)
  | stalled (a : Activity)
  | succeeded
  | failed (f : Failure)
deriving DecidableEq

namespace Execution

/-- A claimed record before its first turn. -/
def new (now : Instant) (tickInterval : Span) (r : Record) : Execution :=
  ⟨r, r.isTardy now tickInterval, .fresh, 0⟩

/-- Whether the record has had no turn. -/
def isFresh (e : Execution) : Bool := e.stage == .fresh

/-- The activity on which the checks were started, once they were. -/
def underWay (e : Execution) : Option Activity :=
  match e.stage with
  | .underWay a => some a
  | _ => none

/-- What the checks are told about the run. -/
def options (e : Execution) : RunOptions where
  source := e.record.source
  type := e.record.type
  goto := e.record.goto
  identifier := e.record.identifier
  dryRun := e.record.dryRun
  tardy := e.tardy
  action := e.record.action

/-- A turn begins before the checks are started: the activity is asked for in the first turn, or
taken from the record in a dry run. -/
def opening (e : Execution) (fetcher : Fetcher) : Opening where
  notices := if e.isFresh && e.tardy then [.tardy] else []
  calls :=
    if e.isFresh && e.record.dryRun != some true then [.activity e.record.activity.id] else []
  answer :=
    if e.record.dryRun = some true then .ok e.record.activity
    else fetcher.activity 0 e.record.activity

end Execution

/-- A tick under way. -/
structure Tick where
  now : Instant
  /-- Those that run, the one whose turn it is in front. -/
  running : List Execution
  /-- Those that run and have stalled. -/
  stalled : List Execution
  waiting : List Execution
  report : TickReport

namespace Tick

/-- A tick that claims what is due. -/
def begin (now : Instant) (tickInterval : Span) (maxConcurrent : Nat) (q : Queue) :
    Tick × Queue :=
  let (claimed, q) := q.claimDue now
  let executions := claimed.map (Execution.new now tickInterval)
  (⟨now, executions.take maxConcurrent, [], executions.drop maxConcurrent,
    ⟨claimed.length, 0, 0, 0⟩⟩, q)

/-- The record whose turn it is. -/
def turn? (t : Tick) : Option Execution := t.running.head?

/-- The records of a tick that have not finished. -/
def unfinished (t : Tick) : List Execution := t.running ++ t.stalled ++ t.waiting

/-- Whether every record has finished. -/
def isOver (t : Tick) : Bool := t.unfinished.isEmpty

/-- What is said when a record leaves the queue, given what was taken out. -/
def leaving (removed : Option Record) : List TickNotice :=
  if removed.isSome then [] else [.gone]

/-- The record in front finishes. It leaves the queue, and the next that waits joins those that
run. -/
def finish (t : Tick) (e : Execution) (others : List Execution) (failure : Option Failure)
    (q : Queue) : List TickNotice × Tick × Queue :=
  let (removed, q) := q.complete e.record.id
  ((failure.map .failed).toList ++ leaving removed,
    { t with
      running := others ++ t.waiting.take 1
      waiting := t.waiting.drop 1
      report := t.report.add failure.isNone e.tardy },
    q)

/-- The turn of the record in front ends. -/
def endTurn (t : Tick) (how : TurnEnd) (q : Queue) : List TickNotice × Tick × Queue :=
  match t.running with
  | [] => ([], t, q)
  | e :: others =>
      match how with
      | .awaiting =>
          let e := { e with stage := .asking }
          ([], { t with running := others ++ [e] }, q)
      | .gaveWay a =>
          let e := { e with stage := .underWay a, gaveWay := e.gaveWay + 1 }
          ([], { t with running := others ++ [e] }, q)
      | .stalled a =>
          let e := { e with stage := .underWay a }
          ([], { t with running := others, stalled := t.stalled ++ [e] }, q)
      | .succeeded => t.finish e others none q
      | .failed f => t.finish e others (some f) q

/-- The tick is given up, and what has not finished leaves the queue. -/
def abandon (t : Tick) (q : Queue) : List TickNotice × Queue :=
  t.unfinished.foldl (fun (notices, q) e =>
    let (removed, q) := q.complete e.record.id
    (notices ++ leaving removed, q)) ([], q)

end Tick

end Deferral

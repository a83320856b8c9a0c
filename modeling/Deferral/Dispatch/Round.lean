import Deferral.Dispatch.Queue
import Deferral.Dispatch.Tick

/-!
# Rounds

A round is a tick with the queue it works on, from its claim to its end. Between two turns of its
records the other clients of the queue do what they like. What a client does during a turn counts as
done before it, for a turn meets the queue only when its record finishes. A record that is not ready
to go on has a turn in which it gives way, so that those that run may go on in any order.
-/

namespace Deferral

/-- How the calls that a tick makes for a record end. -/
structure Script where
  /-- The call for its activity, if there is one. -/
  fetch : CallEnd Activity
  /-- The run of the checks, if there is one. -/
  checks : CallEnd Unit

/-- How far a record comes in a turn, unless a call fails before. -/
inductive Pace where
  /-- It asks for its activity and waits for the answer. -/
  | asks
  /-- Its checks give way. -/
  | givesWay
  /-- Its checks stall. -/
  | stalls
  /-- Its checks end. -/
  | finishes
deriving DecidableEq, Repr

/-- A call of the checks, with the record for which it is made. -/
structure CheckCall where
  record : RecordId
  activity : Activity
  options : RunOptions
deriving DecidableEq

/-- What a turn of a record comes to. -/
structure Turn where
  notices : List TickNotice
  fetches : List FetchCall
  /-- The call with which the checks are started in this turn, if they are. -/
  check : Option CheckCall
  ending : TurnEnd

namespace Script

/-- The platform as the record finds it. -/
def fetcher (s : Script) : Fetcher := .constant s.fetch.result

/-- How a turn ends in which the checks on an activity are under way. -/
def proceed (s : Script) (a : Activity) : Pace → TurnEnd
  | .asks | .givesWay => .gaveWay a
  | .stalls => .stalled a
  | .finishes =>
      match s.checks.result with
      | .ok () => .succeeded
      | .error f => .failed f

end Script

namespace Execution

/-- The call with which the checks of a record are started, unless its activity cannot be had. -/
def check? (e : Execution) (s : Script) : Option CheckCall :=
  match (e.opening s.fetcher).answer with
  | .ok a => some ⟨e.record.id, a, e.options⟩
  | .error _ => none

/-- A turn of a record whose checks have not been started. -/
def openingTurn (e : Execution) (s : Script) (pace : Pace) : Turn :=
  let o := e.opening s.fetcher
  -- a dry run has nothing to wait for
  if pace = .asks ∧ e.record.dryRun ≠ some true then ⟨o.notices, o.calls, none, .awaiting⟩
  else
    match o.answer with
    | .ok a => ⟨o.notices, o.calls, some ⟨e.record.id, a, e.options⟩, s.proceed a pace⟩
    | .error f => ⟨o.notices, o.calls, none, .failed f⟩

/-- A turn of a record. -/
def turn (e : Execution) (s : Script) (pace : Pace) : Turn :=
  match e.stage with
  | .underWay a => ⟨[], [], none, s.proceed a pace⟩
  | _ => e.openingTurn s pace

end Execution

/-- Whether a record has finished when its turn has ended so. -/
def TurnEnd.isFinal : TurnEnd → Bool
  | succeeded | failed _ => true
  | _ => false

/-- Something that happens in a round. -/
inductive RoundEvent where
  /-- Another client of the queue does something. -/
  | client (op : QueueOp)
  /-- The record in front has a turn. -/
  | turn (pace : Pace)

/-- What another client does. -/
def RoundEvent.op? : RoundEvent → Option QueueOp
  | client op => some op
  | turn _ => none

/-- A tick on its way, with what has been seen of it. -/
structure Round where
  tick : Tick
  queue : Queue
  /-- The ids of the records that have had a turn, by their first ones. -/
  started : List RecordId
  fetches : List FetchCall
  checks : List CheckCall
  /-- The records that have finished, in that order. -/
  finished : List Record
  notices : List TickNotice

namespace Round

/-- A round that begins with the claim of its tick. -/
def begin (now : Instant) (tickInterval : Span) (maxConcurrent : Nat) (q : Queue) : Round :=
  let (tick, queue) := Tick.begin now tickInterval maxConcurrent q
  ⟨tick, queue, [], [], [], [], []⟩

/-- The record in front has a turn, and the calls for it end as `scripts` says. -/
def turn (scripts : RecordId → Script) (r : Round) (pace : Pace) : Round :=
  match r.tick.turn? with
  | none => r
  | some e =>
      let turn := e.turn (scripts e.record.id) pace
      let (notices, tick, queue) := r.tick.endTurn turn.ending r.queue
      {
        tick
        queue
        started := if e.isFresh then r.started ++ [e.record.id] else r.started
        fetches := r.fetches ++ turn.fetches
        checks := r.checks ++ turn.check.toList
        finished := if turn.ending.isFinal then r.finished ++ [e.record] else r.finished
        notices := r.notices ++ turn.notices ++ notices
      }

/-- One event of a round. -/
def step (scripts : RecordId → Script) (r : Round) : RoundEvent → Round
  | .client op => { r with queue := (r.queue.perform op).2 }
  | .turn pace => r.turn scripts pace

/-- The round after events, one after another. -/
def run (scripts : RecordId → Script) (r : Round) (events : List RoundEvent) : Round :=
  events.foldl (step scripts) r

end Round

end Deferral

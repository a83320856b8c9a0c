import Deferral.Dispatch.Tick
import Deferral.Settings.Config
import Deferral.Dispatch.Action
import Deferral.Dispatch.Queue

/-!
# Schedulers at work

The scheduler of a queue, and the service that it does together with its ticks that are under way.
-/

namespace Deferral

/-! ### Schedulers

A scheduler ticks on the queue of its container and keeps count of what its ticks did. A running one
ticks at once and then regularly, an interval after the last tick. -/

/-- What the ticks of a scheduler did. -/
structure TickTotals where
  ticks : Nat
  executed : Nat
  failed : Nat
  tardy : Nat
  lastTick : Option Instant
deriving DecidableEq

namespace TickTotals

/-- No ticks. -/
def zero : TickTotals := ⟨0, 0, 0, 0, none⟩

/-- One more tick. -/
def add (m : TickTotals) (r : TickReport) (now : Instant) : TickTotals :=
  ⟨m.ticks + 1, m.executed + r.executed, m.failed + r.failed, m.tardy + r.tardy, some now⟩

end TickTotals

/-- What a scheduler and its queue have counted, with the number of idle records. -/
structure Metrics where
  enqueued : Nat
  skipped : Nat
  replaced : Nat
  cancelled : Nat
  executed : Nat
  failed : Nat
  tardy : Nat
  ticks : Nat
  lastTick : Option Instant
  pending : Nat
deriving DecidableEq

/-- The counts as JSON. -/
def Metrics.toJson (m : Metrics) : Json :=
  .ofMembers [
    ("enqueued", .nat m.enqueued), ("skipped", .nat m.skipped), ("replaced", .nat m.replaced),
    ("cancelled", .nat m.cancelled), ("executed", .nat m.executed), ("failed", .nat m.failed),
    ("tardy", .nat m.tardy), ("ticks", .nat m.ticks),
    ("last_tick", .ofOption Instant.toJson m.lastTick), ("pending", .nat m.pending)]

/-- A scheduler with its queue. -/
structure Scheduler where
  queue : Queue
  tickInterval : Span
  maxConcurrent : Nat
  totals : TickTotals
  /-- When the next tick is due if the scheduler runs, in nanoseconds of elapsed time. -/
  nextTick : Option Nat

namespace Scheduler

/-- A scheduler that does not run, with an empty queue. -/
def new (name : String) (s : DispatchSettings) : Scheduler :=
  ⟨.new name, s.tickInterval, max s.maxConcurrent 1, .zero, none⟩

/-- Starts the scheduler at a time; one that runs goes on as it was. -/
def start (s : Scheduler) (time : Nat) : Scheduler :=
  { s with nextTick := s.nextTick.or (some time) }

/-- Stops the scheduler. -/
def stop (s : Scheduler) : Scheduler := { s with nextTick := none }

/-- A tick begins. -/
def beginTick (s : Scheduler) (now : Instant) : Tick × Scheduler :=
  let (t, queue) := Tick.begin now s.tickInterval s.maxConcurrent s.queue
  (t, { s with queue })

/-- A tick that has run to its end is counted. -/
def endTick (s : Scheduler) (t : Tick) : Scheduler :=
  { s with totals := s.totals.add t.report t.now }

/-- The next tick of a running scheduler is due an interval after a time. -/
def rearm (s : Scheduler) (time : Nat) : Scheduler :=
  { s with nextTick := s.nextTick.map fun _ => time + s.tickInterval.nanos }

/-- Everything that is counted for the queue and for the ticks on it. -/
def tally (s : Scheduler) : Metrics where
  enqueued := s.queue.counters.enqueued
  skipped := s.queue.counters.skipped
  replaced := s.queue.counters.replaced
  cancelled := s.queue.counters.cancelled
  executed := s.totals.executed
  failed := s.totals.failed
  tardy := s.totals.tardy
  ticks := s.totals.ticks
  lastTick := s.totals.lastTick
  pending := s.queue.pending

/-- Everything that is counted, as JSON. -/
def metrics (s : Scheduler) : Json := s.tally.toJson

end Scheduler

/-! ### Services

A service is a scheduler at work, together with the ticks of it that are under way. While they run,
the clients of its queue go on, actions are handled, and further ticks may begin. A turn of a record
may end in any way. Whatever happens to a service comes to one list of events. -/

/-- A scheduler with its ticks that are under way. -/
structure Service where
  scheduler : Scheduler
  ticks : List Tick

/-- Something that happens to a service. -/
inductive ServiceEvent where
  /-- A client of the queue does something. -/
  | client (op : QueueOp)
  /-- A dispatch action is handled, in a run of the checks. -/
  | dispatch (a : DispatchAction) (fetcher : Fetcher) (now : Instant) (fresh : Nat → RecordId)
      (run : RunContext)
  /-- A cancel action is handled, in a run of the checks. -/
  | cancel (a : CancelAction) (fetcher : Fetcher) (run : RunContext)
  | beginTick (now : Instant)
  /-- The record in front of a tick has a turn. -/
  | turn (tick : Nat) (how : TurnEnd)
  /-- A tick ends, if every record of it has finished. -/
  | endTick (tick : Nat)

namespace Service

/-- A service with an empty queue. -/
def new (name : String) (settings : DispatchSettings) : Service := ⟨.new name settings, []⟩

/-- The queue of a service. -/
def queue (v : Service) : Queue := v.scheduler.queue

/-- The service with another queue. -/
def withQueue (v : Service) (queue : Queue) : Service :=
  { v with scheduler := { v.scheduler with queue } }

/-- One event. -/
def step (v : Service) : ServiceEvent → Service
  | .client op => v.withQueue (v.queue.perform op).2
  | .dispatch a fetcher now fresh run => v.withQueue (a.handle fetcher now fresh run v.queue).queue
  | .cancel a fetcher run => v.withQueue (a.handle fetcher run v.queue).queue
  | .beginTick now => ⟨(v.scheduler.beginTick now).2, v.ticks ++ [(v.scheduler.beginTick now).1]⟩
  | .turn i how =>
      match v.ticks[i]? with
      | none => v
      | some t =>
          let (_, t, queue) := t.endTurn how v.queue
          { v.withQueue queue with ticks := v.ticks.set i t }
  | .endTick i =>
      match v.ticks[i]? with
      | none => v
      | some t => if t.isOver then ⟨v.scheduler.endTick t, v.ticks.eraseIdx i⟩ else v

/-- The service after events, one after another. -/
def run (v : Service) (events : List ServiceEvent) : Service := events.foldl step v

end Service

end Deferral

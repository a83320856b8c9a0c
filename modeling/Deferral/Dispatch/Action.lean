import Deferral.Dispatch.Config
import Deferral.Activity
import Deferral.Dispatch.Queue

/-!
# Actions

A dispatch action queues a record for each of its targets; a cancel action cancels idle records.
Both work out their targets first. In a dry run the submission above a comment is taken from the
comment, if the comment names it, and not fetched.
-/

namespace Deferral

/-- Why an action failed. -/
inductive DispatchError where
  | config (e : ConfigError)
  | fetch (f : Failure)
  | queue (e : QueueError)
deriving DecidableEq

/-- The words for each failure. -/
def DispatchError.message : DispatchError → String
  | config e => e.message
  | fetch f => "activity fetch failed: " ++ f.message
  | queue e => e.message

/-- The run of a check in which an action is met. -/
structure RunContext where
  activity : Activity
  source : Source
  dryRun : Bool
deriving DecidableEq, Repr

/-- What an action did. -/
structure ActionResult where
  name : String
  triggered : Bool
  dryRun : Bool
  result : String
  records : List RecordId
deriving DecidableEq

namespace ActionResult

/-- An action that did nothing, and why. -/
def idle (name : String) (dryRun : Bool) (reason : String) : ActionResult :=
  ⟨name, false, dryRun, reason, []⟩

end ActionResult

/-- What came of an action: its answer, the queue afterwards, and what was asked of the platform. -/
structure Handled where
  answer : Except DispatchError ActionResult
  queue : Queue
  calls : List FetchCall

/-! ### Targets -/

/-- The activities that targets come to, with the reason if one of them is impossible. -/
structure Targets where
  activities : List Activity
  impossible : Option String
deriving DecidableEq, Repr

namespace Targets

/-- No activities. -/
def none : Targets := ⟨[], Option.none⟩

/-- One more activity, unless its id is there. -/
def add (t : Targets) (a : Activity) : Targets :=
  if t.activities.any (·.id == a.id) then t else { t with activities := t.activities ++ [a] }

/-- Why a submission has no parent. -/
def noParent (a : Activity) : String :=
  "target 'parent' is not possible for " ++ a.kind.word ++ " " ++ a.id ++ ", it has no parent"

/-- Why nothing is done for targets without activities. -/
def idleReason (t : Targets) : String := t.impossible.getD "no target activity resolved"

/-- Adds the activities of the targets one after another, and lists what was asked of the
platform. -/
def resolveFrom (fetcher : Fetcher) (a : Activity) (dryRun : Bool) (found : Targets) :
    List Target → Except Failure Targets × List FetchCall
  | [] => (.ok found, [])
  | .current :: targets => resolveFrom fetcher a dryRun (found.add a) targets
  | .any :: targets => resolveFrom fetcher a dryRun found targets
  | .parent :: targets =>
      if a.isRoot then
        resolveFrom fetcher a dryRun { found with impossible := some (noParent a) } targets
      else
        match dryRun, a.parentStub? with
        | true, some stub => resolveFrom fetcher a dryRun (found.add stub) targets
        | _, _ =>
            let call := FetchCall.submissionOf a.id
            match fetcher.submissionOf 0 a with
            | .error f => (.error f, [call])
            | .ok parent =>
                let (answer, calls) := resolveFrom fetcher.later a dryRun (found.add parent) targets
                (answer, call :: calls)

/-- The activities that targets come to, and what was asked of the platform for them. -/
def resolve (fetcher : Fetcher) (a : Activity) (dryRun : Bool) (targets : List Target) :
    Except Failure Targets × List FetchCall :=
  resolveFrom fetcher a dryRun none targets

end Targets

/-! ### Dispatching -/

/-- An action that queues records. -/
structure DispatchAction where
  name : String
  type : DispatchType
  config : DispatchConfig
  delay : Span

namespace DispatchAction

/-- The delay of every record when delays are disabled. -/
def disabledDelay : Span := .ofSeconds 1

/-- The action of valid settings. -/
def build (type : DispatchType) (config : DispatchConfig) (disableDelays : Bool) :
    Except DispatchError DispatchAction :=
  match config.validate with
  | .error e => .error (.config e)
  | .ok delay =>
      .ok ⟨config.name.getD type.word, type, config, if disableDelays then disabledDelay else delay⟩

/-- Whether a record is marked for a dry run: the action's own setting wins, and otherwise a dry run
marks what it queues. -/
def recordDryRun (a : DispatchAction) (run : RunContext) : Option Bool :=
  a.config.dryRun.or (if run.dryRun then some true else none)

/-- The record that is queued for an activity. -/
def recordFor (a : DispatchAction) (id : RecordId) (now : Instant) (dryRun : Option Bool)
    (activity : Activity) : Record where
  id
  activity
  type := a.type
  queuedAt := now
  delay := a.delay
  identifier := a.config.identifier
  goto := a.config.goto
  onExisting := a.config.onExisting
  tolerance := a.config.tolerance
  cancelRule := a.config.cancelRule
  action := a.name
  dryRun
  processing := false

/-- The line that tells what became of a record. -/
def line (type : DispatchType) (activityId : String) (outcome : EnqueueOutcome) : String :=
  let count := Decimal.natString outcome.others.length
  let queued := "queued " ++ type.word ++ " for " ++ activityId
  match outcome with
  | .inserted => queued
  | .skipped _ => "skipped " ++ activityId ++ ", " ++ count ++ " matching record(s) already queued"
  | .replaced _ => queued ++ ", replaced " ++ count ++ " record(s)"
  | .duplicated _ => queued ++ " alongside " ++ count ++ " record(s)"

/-- What queueing several records came to. -/
structure Queued where
  ids : List RecordId
  lines : List String

/-- Queues a record for each activity; `fresh` gives the id of each. -/
def queueAll (a : DispatchAction) (now : Instant) (dryRun : Option Bool) (fresh : Nat → RecordId)
    (done : Queued) : List Activity → Queue → Except QueueError Queued × Queue
  | [], q => (.ok done, q)
  | activity :: activities, q =>
      let record := a.recordFor (fresh 0) now dryRun activity
      match q.enqueue record with
      | (.error e, q) => (.error e, q)
      | (.ok outcome, q) =>
          let ids := if outcome.isInserted then done.ids ++ [record.id] else done.ids
          let lines := done.lines ++ [line a.type activity.id outcome]
          queueAll a now dryRun (fun n => fresh (n + 1)) ⟨ids, lines⟩ activities q

/-- Queues a record for each target. -/
def handle (a : DispatchAction) (fetcher : Fetcher) (now : Instant) (fresh : Nat → RecordId)
    (run : RunContext) (q : Queue) : Handled :=
  let recordDryRun := a.recordDryRun run
  let dryRun := recordDryRun.getD false
  let (targets, calls) := Targets.resolve fetcher run.activity dryRun a.config.target
  match targets with
  | .error f => ⟨.error (.fetch f), q, calls⟩
  | .ok targets =>
      if targets.activities.isEmpty then
        ⟨.ok (.idle a.name dryRun targets.idleReason), q, calls⟩
      else
        match a.queueAll now recordDryRun fresh ⟨[], []⟩ targets.activities q with
        | (.error e, q) => ⟨.error (.queue e), q, calls⟩
        | (.ok done, q) =>
            let lines := done.lines ++ targets.impossible.toList
            ⟨.ok ⟨a.name, !done.ids.isEmpty, dryRun, "; ".intercalate lines, done.ids⟩, q, calls⟩

end DispatchAction

/-! ### Cancelling -/

/-- An action that cancels records. -/
structure CancelAction where
  name : String
  config : CancelConfig

namespace CancelAction

/-- The action of valid settings. -/
def build (config : CancelConfig) : Except DispatchError CancelAction :=
  match config.validate with
  | .error e => .error (.config e)
  | .ok () => .ok ⟨config.name.getD "cancelDispatch", config⟩

/-- Whether a record is one to cancel, given the ids of the targets, or none if every activity is
meant. -/
def wants (a : CancelAction) (targets : Option (List String)) (r : Record) : Bool :=
  targets.all (·.contains r.activity.id) && a.config.identifier.admits r.identifier

/-- Cancels the idle records that are wanted. -/
def cancel (a : CancelAction) (dryRun : Bool) (targets : Option (List String)) (q : Queue) :
    ActionResult × Queue :=
  let (out, q) := q.cancelMatching (a.wants targets) dryRun
  let verb := if dryRun then "would cancel " else "cancelled "
  (⟨a.name, true, dryRun, verb ++ Decimal.natString out.length ++ " queued dispatch(es)",
    out.map (·.id)⟩, q)

/-- Cancels the idle records of the targets. Only ids are compared, so targets are worked out as in
a dry run. -/
def handle (a : CancelAction) (fetcher : Fetcher) (run : RunContext) (q : Queue) :
    Handled :=
  let dryRun := a.config.dryRun.getD run.dryRun
  if a.config.target.contains .any then
    let (result, q) := a.cancel dryRun none q
    ⟨.ok result, q, []⟩
  else
    let (targets, calls) := Targets.resolve fetcher run.activity true a.config.target
    match targets with
    | .error f => ⟨.error (.fetch f), q, calls⟩
    | .ok targets =>
        if targets.activities.isEmpty then
          ⟨.ok (.idle a.name dryRun targets.idleReason), q, calls⟩
        else
          let (result, q) := a.cancel dryRun (some (targets.activities.map (·.id))) q
          ⟨.ok result, q, calls⟩

end CancelAction

end Deferral

import Deferral.Json.Decode
import Deferral.Text.Basic
import Deferral.Delay.Input
import Deferral.Time.Span

/-!
# Rules of a dispatch

Where a run comes from, what becomes of a new record when like ones are queued already, how late a
record may run, and when fresh activity cancels it.
-/

namespace Deferral

/-! ### Where a run comes from

A run of a check is asked for by the poller, by a user, or by an earlier dispatch, which may carry a
tag. -/

/-- Where a run comes from. -/
inductive Source where
  | poll
  | user
  | dispatch (tag : Option String)
deriving DecidableEq, Repr

/-- Why a text names no source. -/
inductive SourceError where
  | unknown (text : String)
deriving DecidableEq, Repr

/-- The words for a text that names no source. -/
def SourceError.message : SourceError → String
  | unknown text => "unknown activity source '" ++ text ++ "'"

namespace Source

/-- Whether an earlier dispatch asked for the run. -/
def isDispatch : Source → Bool
  | dispatch _ => true
  | _ => false

/-- The text of a source. -/
def text : Source → String
  | poll => "poll"
  | user => "user"
  | dispatch none => "dispatch"
  | dispatch (some tag) => "dispatch:" ++ tag

/-- The tag after the colon, if there is a colon and the tag is not empty. -/
def tag? (cs : List Char) : Option (List Char) :=
  let head := "dispatch:".toList
  if head.isPrefixOf cs && head.length < cs.length then some (cs.drop head.length) else none

/-- The source that a text names; white space at its ends does not count. -/
def read (s : String) : Except SourceError Source :=
  let cs := Text.trim s.toList
  if cs = "poll".toList then .ok poll
  else if cs = "user".toList then .ok user
  else if cs = "dispatch".toList then .ok (dispatch none)
  else
    match tag? cs with
    | some tag => .ok (dispatch (some (String.ofList tag)))
    | none => .error (.unknown (String.ofList cs))

/-- A source as JSON. -/
def toJson (s : Source) : Json := .str s.text

/-- Reads a source. -/
def ofJson? : Json → Option Source
  | .str s => (read s).toOption
  | _ => none

end Source

/-! ### Rules -/

/-- What a record was queued for. -/
inductive DispatchType where
  | dispatch
  | rerun
deriving DecidableEq, Repr

namespace DispatchType

/-- The word for a type. -/
def word : DispatchType → String
  | dispatch => "dispatch"
  | rerun => "rerun"

/-- The types by their words. -/
def words : List (String × DispatchType) := [dispatch, rerun].map fun t => (t.word, t)

/-- A type as JSON. -/
def toJson (t : DispatchType) : Json := .str t.word

/-- Reads a type. -/
def ofJson? : Json → Option DispatchType := Json.asWord? words

end DispatchType

/-- What to do with a new record when like ones are queued already. -/
inductive OnExisting where
  /-- The new record is not queued. -/
  | skip
  /-- The new record takes the place of the others. -/
  | replace
  /-- The new record is queued beside the others. -/
  | ignore
deriving DecidableEq, Repr

namespace OnExisting

/-- The word for a policy. -/
def word : OnExisting → String
  | skip => "skip"
  | replace => "replace"
  | ignore => "ignore"

/-- The policies by their words. -/
def words : List (String × OnExisting) := [skip, replace, ignore].map fun p => (p.word, p)

/-- A policy as JSON. -/
def toJson (p : OnExisting) : Json := .str p.word

/-- Reads a policy. -/
def ofJson? : Json → Option OnExisting := Json.asWord? words

end OnExisting

/-- How late a record may run before it is called tardy. -/
inductive Tolerance where
  /-- Later than one tick is tardy. -/
  | strict
  /-- Nothing is tardy. -/
  | tolerant
  /-- Later than a span is tardy. -/
  | within (limit : Span)
deriving DecidableEq

/-- Why a value is no tolerance. -/
inductive ToleranceError where
  /-- It is neither a flag nor a delay. -/
  | shape
  | delay (e : DelayError)

/-- The words for a value that is no tolerance. -/
def ToleranceError.message : ToleranceError → String
  | shape => "data did not match any variant of untagged enum RawTardy"
  | delay e => e.message

namespace Tolerance

/-- Whether a record that is overdue by a span is tardy. -/
def isTardy (t : Tolerance) (overdue tick : Span) : Bool :=
  match t with
  | strict => tick < overdue
  | tolerant => false
  | within limit => limit < overdue

/-- A tolerance as JSON: a flag, or the limit as a delay. -/
def toJson : Tolerance → Json
  | strict => .bool false
  | tolerant => .bool true
  | within limit => (DelayInput.ofSpan limit).toJson

/-- Reads a tolerance. -/
def read : Json → Except ToleranceError Tolerance
  | .bool false => .ok strict
  | .bool true => .ok tolerant
  | j =>
      match DelayInput.ofJson? j with
      | none => .error .shape
      | some input =>
          match input.resolve with
          | .ok limit => .ok (within limit)
          | .error e => .error (.delay e)

/-- Reads a tolerance. -/
def ofJson? (j : Json) : Option Tolerance := (read j).toOption

end Tolerance

/-- Whether fresh activity cancels a record that is still queued. -/
inductive CancelRule where
  | never
  /-- Any fresh activity cancels it. -/
  | anyFresh
  /-- Fresh activity cancels it if its source is in the list. -/
  | sources (texts : List String)
deriving DecidableEq, Repr

namespace CancelRule

/-- Whether activity from a source cancels a record. A dispatch is never fresh activity. -/
def applies (rule : CancelRule) (source : Source) : Bool :=
  match rule with
  | never => false
  | anyFresh => !source.isDispatch
  | sources texts => !source.isDispatch && texts.contains source.text

/-- A rule as JSON: a flag, or the list of sources. -/
def toJson : CancelRule → Json
  | never => .bool false
  | anyFresh => .bool true
  | sources texts => .arr (texts.map .str)

/-- Reads a rule: a flag, one source or a list of sources. -/
def ofJson? : Json → Option CancelRule
  | .bool false => some never
  | .bool true => some anyFresh
  | j => (Json.asOneOrMany? Json.asString? j).map sources

end CancelRule

end Deferral

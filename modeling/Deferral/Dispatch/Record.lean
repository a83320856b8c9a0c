import Deferral.Json.Decode
import Deferral.Text.Basic
import Deferral.Activity
import Deferral.Dispatch.Policy
import Deferral.Time.Rfc3339

/-!
# Records

A record asks for an activity to be checked again when its delay has passed. It is idle while it
waits in the queue and processing once a tick has claimed it.

## Main results

* `isDue_iff` — a record is due once its delay has passed since it was queued.
-/

namespace Deferral

/-! ### Record ids

A record has an id of 128 bits, written as 32 hexadecimal digits in five groups. -/

/-- The id of a record. -/
structure RecordId where
  bits : BitVec 128
deriving DecidableEq

namespace RecordId

/-- The lengths of the groups of digits. -/
def groups : List Nat := [8, 4, 4, 4, 12]

/-- Digits cut into groups with hyphens between them. -/
def hyphenated : List Nat → List Char → List Char
  | [], cs => cs
  | [_], cs => cs
  | n :: ns, cs => cs.take n ++ '-' :: hyphenated ns (cs.drop n)

/-- The text of an id. -/
def render (id : RecordId) : List Char := hyphenated groups (Text.hexDigits 32 id.bits.toNat)

/-- The digits of groups with hyphens between them. -/
def digits? : List Nat → List Char → Option (List Char)
  | [], cs => if cs.isEmpty then some [] else none
  | [n], cs => if cs.length == n then some cs else none
  | n :: ns, cs =>
      match cs.drop n with
      | '-' :: r => (digits? ns r).map (cs.take n ++ ·)
      | _ => none

/-- The id with 32 digits in either case. -/
def ofDigits? (cs : List Char) : Option RecordId :=
  if cs.length == 32 then (Text.readHex? 0 cs).map fun n => ⟨BitVec.ofNat 128 n⟩ else none

/-- Reads an id: digits alone, or in groups, which may stand in braces or after a scheme. -/
def read? (cs : List Char) : Option RecordId :=
  let grouped (cs : List Char) : Option RecordId := (digits? groups cs).bind ofDigits?
  let scheme := "urn:uuid:".toList
  match cs.length with
  | 32 => ofDigits? cs
  | 36 => grouped cs
  | 38 =>
      if cs.head? == some '\x7B' && cs.getLast? == some '\x7D' then grouped ((cs.drop 1).take 36)
      else none
  | 45 => if scheme.isPrefixOf cs then grouped (cs.drop scheme.length) else none
  | _ => none

/-- An id as JSON. -/
def toJson (id : RecordId) : Json := Json.text id.render

/-- Reads an id. -/
def ofJson? : Json → Option RecordId
  | .str s => read? s.toList
  | _ => none

end RecordId

/-! ### Records and when they are due -/

/-- A check that is put off. -/
structure Record where
  id : RecordId
  activity : Activity
  type : DispatchType
  queuedAt : Instant
  delay : Span
  identifier : Option String
  goto : Option String
  onExisting : OnExisting
  tolerance : Tolerance
  cancelRule : CancelRule
  action : String
  dryRun : Option Bool
  processing : Bool
deriving DecidableEq

namespace Record

/-- An idle record with no settings of its own. -/
def plain (id : RecordId) (activity : Activity) (type : DispatchType) (delay : Span)
    (queuedAt : Instant) : Record :=
  ⟨id, activity, type, queuedAt, delay, none, none, .ignore, .strict, .never, "", none, false⟩

/-- Whether no tick has claimed the record. -/
def isIdle (r : Record) : Bool := !r.processing

/-- When the record is due, unless that lies beyond the calendar. -/
def dueAt? (r : Record) : Option Instant := r.queuedAt.after? r.delay

/-- Whether the delay of the record has passed. -/
def isDue (r : Record) (now : Instant) : Bool :=
  match r.queuedAt.elapsed? now with
  | some elapsed => r.delay ≤ elapsed
  | none => false

/-- A record is due once its delay has passed since it was queued. -/
theorem isDue_iff {r : Record} {now : Instant} :
    r.isDue now = true ↔ r.queuedAt.nanos + r.delay.nanos ≤ now.nanos := by
  rw [isDue]
  split
  · rename_i elapsed h
    rw [Instant.elapsed?_eq_some_iff] at h
    rw [decide_eq_true_iff]
    show r.delay.nanos ≤ elapsed.nanos ↔ _
    omega
  · rename_i h
    rw [Instant.elapsed?_eq_none_iff] at h
    simp only [Bool.false_eq_true, false_iff]
    omega

/-- By how much the record is late. -/
def overdue (r : Record) (now : Instant) : Span :=
  match r.queuedAt.elapsed? now with
  | some elapsed => elapsed.sub r.delay
  | none => .zero

/-- The source of the run that the record leads to. -/
def source (r : Record) : Source := .dispatch r.identifier

/-- Whether the record has a wanted identifier; any will do if none is wanted. -/
def hasIdentifier (r : Record) (wanted : Option String) : Bool :=
  match wanted with
  | none => true
  | some w => r.identifier == some w

/-- Whether the record is tardy at a time. -/
def isTardy (r : Record) (now : Instant) (tick : Span) : Bool :=
  r.tolerance.isTardy (r.overdue now) tick

/-- The fields of a record. -/
def shape : List Json.Field :=
  [
    .required "id", .required "activity", .required "type", .required "queuedAt",
    .required "delay", .required "identifier", .required "goto", .required "onExistingFound",
    .required "tardyTolerant", .required "cancelIfQueued", .required "action",
    .required "dryRun", .required "processing"
  ]

/-- A record as JSON. -/
def toJson (r : Record) : Json :=
  .ofMembers [
    ("id", r.id.toJson), ("activity", r.activity.toJson), ("type", r.type.toJson),
    ("queuedAt", r.queuedAt.toJson), ("delay", r.delay.toJson),
    ("identifier", .ofOption .str r.identifier), ("goto", .ofOption .str r.goto),
    ("onExistingFound", r.onExisting.toJson), ("tardyTolerant", r.tolerance.toJson),
    ("cancelIfQueued", r.cancelRule.toJson), ("action", .str r.action),
    ("dryRun", .ofOption .bool r.dryRun), ("processing", .bool r.processing)]

/-- Reads a record. -/
def ofJson? (j : Json) : Option Record :=
  match Json.fields? shape j with
  | some [id, activity, type, queuedAt, delay, identifier, goto, onExisting, tolerance, cancelRule,
      action, dryRun, processing] => do
    some {
      id := ← Json.required RecordId.ofJson? id
      activity := ← Json.required Activity.ofJson? activity
      type := ← Json.required DispatchType.ofJson? type
      queuedAt := ← Json.required Instant.ofJson? queuedAt
      delay := ← Json.required Span.ofJson? delay
      identifier := ← Json.optional Json.asString? identifier
      goto := ← Json.optional Json.asString? goto
      onExisting := ← Json.required OnExisting.ofJson? onExisting
      tolerance := ← Json.required Tolerance.ofJson? tolerance
      cancelRule := ← Json.required CancelRule.ofJson? cancelRule
      action := ← Json.required Json.asString? action
      dryRun := ← Json.optional Json.asBool? dryRun
      processing := ← Json.required Json.asBool? processing }
  | _ => none

end Record

end Deferral

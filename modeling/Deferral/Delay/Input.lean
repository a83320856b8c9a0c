import Deferral.Delay.Grammar
import Deferral.Time.Span
import Deferral.Json.Decode
import Deferral.Decimal.Layout

/-!
# Delays

The span that a text or a setting of an operator asks for.
-/

namespace Deferral

/-! ### Reading a delay

A delay text is an ISO 8601 form if it starts with `P`; else a number of seconds if it is a decimal
literal; else a sequence of tokens. -/

/-- Why a text or a number of seconds is no delay. -/
inductive DelayError where
  | empty
  | unrecognized (text : List Char)
  | unknownUnit (unit text : List Char)
  | negative
  | tooLarge
deriving DecidableEq, Repr

/-- The words for each error. -/
def DelayError.message : DelayError → String
  | empty => "duration is empty"
  | unrecognized text => "unrecognized duration '" ++ String.ofList text ++ "'"
  | unknownUnit unit text =>
      "unknown duration unit '" ++ String.ofList unit ++ "' in '" ++ String.ofList text ++ "'"
  | negative => "duration must not be negative"
  | tooLarge => "duration is too large"

namespace Delay

/-- A number of seconds as a span. A minus sign is refused even before zero. -/
def ofSeconds (seconds : Double) : Except DelayError Span :=
  if seconds.isNegative then .error .negative
  else
    match Span.ofDouble? seconds with
    | some d => .ok d
    | none => .error .tooLarge

/-- The span that a text without blanks at its ends stands for. -/
def parseTrimmed (cs : List Char) : Except DelayError Span :=
  match cs with
  | [] => .error .empty
  | 'P' :: r =>
      match isoComponents? r with
      | some amounts => ofSeconds (totalSeconds amounts)
      | none => .error (.unrecognized cs)
  | _ =>
      match Decimal.readDouble? cs with
      | some seconds => ofSeconds seconds
      | none =>
          match tokens cs with
          | .ok amounts => ofSeconds (totalSeconds amounts)
          | .error .noToken => .error (.unrecognized cs)
          | .error (.unknownUnit unit) => .error (.unknownUnit unit cs)

/-- The span that a text stands for. -/
def parse (cs : List Char) : Except DelayError Span := parseTrimmed (Text.trim cs)

end Delay

/-! ### Delays in settings

A setting gives a delay as a text or as a number of each unit. A text is only read when the delay is
needed; the parts of the other form are added up from the largest unit to the smallest. -/

/-- A delay as a number of each unit, any of which may be absent. -/
structure DelayParts where
  years : Option Double
  months : Option Double
  weeks : Option Double
  days : Option Double
  hours : Option Double
  minutes : Option Double
  seconds : Option Double
  milliseconds : Option Double
deriving DecidableEq, Repr

namespace DelayParts

/-- No unit at all. -/
def none : DelayParts := ⟨.none, .none, .none, .none, .none, .none, .none, .none⟩

/-- Each part with its name and unit, from the largest unit to the smallest. -/
def named (p : DelayParts) : List (String × TimeUnit × Option Double) :=
  [
    ("years", .year, p.years), ("months", .month, p.months), ("weeks", .week, p.weeks),
    ("days", .day, p.days), ("hours", .hour, p.hours), ("minutes", .minute, p.minutes),
    ("seconds", .second, p.seconds), ("milliseconds", .millisecond, p.milliseconds)
  ]

/-- The sum of all parts in seconds. -/
def totalSeconds (p : DelayParts) : Double :=
  p.named.foldl (fun sum (_, unit, amount) =>
    sum.add ((amount.getD Double.zero).mul unit.seconds)) Double.negZero

/-- The fields of the parts. -/
def shape : List Json.Field := (named none).map fun part => .defaulted part.1

/-- The parts that are present, as members of an object. -/
def toJson (p : DelayParts) : Json :=
  .ofMembers (p.named.filterMap fun (name, _, amount) => amount.map fun x => (name, .float x))

/-- Reads parts; no other field is allowed. -/
def ofJson? (j : Json) : Option DelayParts := do
  let fields ← Json.closedFields? shape j
  let amounts ← fields.mapM (Json.optional Json.asDouble?)
  match amounts with
  | [y, mo, w, d, h, mi, s, ms] => some ⟨y, mo, w, d, h, mi, s, ms⟩
  | _ => Option.none

/-- Whether two lists of parts have the same numbers. -/
def same (p q : DelayParts) : Bool :=
  (p.named.zip q.named).all fun ((_, _, a), (_, _, b)) =>
    match a, b with
    | .some x, .some y => x.sameNumber y
    | .none, .none => true
    | _, _ => false

end DelayParts

/-- A delay as a setting gives it. -/
inductive DelayInput where
  | text (s : String)
  | parts (p : DelayParts)
deriving DecidableEq, Repr

namespace DelayInput

/-- The span that the setting stands for. -/
def resolve : DelayInput → Except DelayError Span
  | text s => Delay.parse s.toList
  | parts p => Delay.ofSeconds p.totalSeconds

/-- A span as a number of seconds. -/
def ofSpan (d : Span) : DelayInput := parts { DelayParts.none with seconds := some d.toDouble }

/-- The setting as a message shows it: the text itself, or the sum in seconds. -/
def display : DelayInput → List Char
  | text s => s.toList
  | parts p => Decimal.Layout.shown.render p.totalSeconds ++ ['s']

/-- The setting as JSON. -/
def toJson : DelayInput → Json
  | text s => .str s
  | parts p => p.toJson

/-- Reads a setting: a string is a text, an object or array gives the parts. -/
def ofJson? : Json → Option DelayInput
  | .str s => some (text s)
  | j => (DelayParts.ofJson? j).map parts

/-- Whether two settings are the same: equal texts, or the same numbers. -/
def same : DelayInput → DelayInput → Bool
  | text s, text t => s == t
  | parts p, parts q => p.same q
  | _, _ => false

end DelayInput

end Deferral

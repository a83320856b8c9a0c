import Deferral.Dispatch.Policy

/-!
# Settings of actions

What an operator writes for a rule that puts off a check, and for a rule that cancels such checks.
-/

namespace Deferral

/-- Which activities a rule means, seen from the one at hand. -/
inductive Target where
  | current
  | parent
  | any
deriving DecidableEq, Repr

namespace Target

/-- The word for a target. -/
def word : Target → String
  | current => "self"
  | parent => "parent"
  | any => "any"

/-- The targets by their words. -/
def words : List (String × Target) := [current, parent, any].map fun t => (t.word, t)

/-- A target as JSON. -/
def toJson (t : Target) : Json := .str t.word

/-- Reads a target. -/
def ofJson? : Json → Option Target := Json.asWord? words

/-- Reads one target or a list of targets. -/
def listOfJson? : Json → Option (List Target) := Json.asOneOrMany? ofJson?

/-- The targets of a rule that names none. -/
def standard : List Target := [current]

end Target

/-- Why the settings of a rule are refused. -/
inductive ConfigError where
  | noTarget
  | anyTarget
  | delay (e : DelayError)
deriving DecidableEq, Repr

/-- The words for settings that are refused. -/
def ConfigError.message : ConfigError → String
  | noTarget => "invalid dispatch config: target must not be empty"
  | anyTarget => "invalid dispatch config: target 'any' is only valid for cancelling dispatches"
  | delay e => "invalid delay: " ++ e.message

/-- The settings of a rule that puts off a check. -/
structure DispatchConfig where
  name : Option String
  delay : DelayInput
  identifier : Option String
  goto : Option String
  onExisting : OnExisting
  tolerance : Tolerance
  cancelRule : CancelRule
  target : List Target
  dryRun : Option Bool
deriving DecidableEq

namespace DispatchConfig

/-- A delay and nothing else. -/
def plain (delay : DelayInput) : DispatchConfig :=
  ⟨none, delay, none, none, .ignore, .strict, .never, Target.standard, none⟩

/-- Whether settings are a delay and nothing else. -/
def isPlain (c : DispatchConfig) : Bool :=
  { c with delay := .text "" } == plain (.text "") && c.delay.same c.delay

/-- The delay of valid settings; the first fault of others. -/
def validate (c : DispatchConfig) : Except ConfigError Span :=
  if c.target.isEmpty then .error .noTarget
  else if c.target.contains .any then .error .anyTarget
  else
    match c.delay.resolve with
    | .ok d => .ok d
    | .error e => .error (.delay e)

/-- The settings as a description shows them. -/
def describe (c : DispatchConfig) : List (String × Json) :=
  [
    ("name", .ofOption .str c.name), ("delay", c.delay.toJson),
    ("identifier", .ofOption .str c.identifier), ("goto", .ofOption .str c.goto),
    ("on_existing_found", c.onExisting.toJson), ("tardy_tolerant", c.tolerance.toJson),
    ("cancel_if_queued", c.cancelRule.toJson), ("target", .arr (c.target.map Target.toJson)),
    ("dry_run", .ofOption .bool c.dryRun), ("is_plain", .bool c.isPlain)
  ]

/-- The fields of the settings. -/
def shape : List Json.Field :=
  [
    .defaulted "name", .required "delay", .defaulted "identifier", .defaulted "goto",
    .defaulted "onExistingFound", .defaulted "tardyTolerant", .defaulted "cancelIfQueued",
    .defaulted "target", .defaulted "dryRun"
  ]

/-- Reads settings. -/
def ofJson? (j : Json) : Option DispatchConfig :=
  match Json.fields? shape j with
  | some [name, delay, identifier, goto, onExisting, tolerance, cancelRule, target, dryRun] => do
      some {
        name := ← Json.optional Json.asString? name
        delay := ← Json.required DelayInput.ofJson? delay
        identifier := ← Json.optional Json.asString? identifier
        goto := ← Json.optional Json.asString? goto
        onExisting := ← Json.defaulted .ignore OnExisting.ofJson? onExisting
        tolerance := ← Json.defaulted .strict Tolerance.ofJson? tolerance
        cancelRule := ← Json.defaulted .never CancelRule.ofJson? cancelRule
        target := ← Json.defaulted Target.standard Target.listOfJson? target
        dryRun := ← Json.optional Json.asBool? dryRun }
  | _ => none

end DispatchConfig

/-- Which identifiers a rule that cancels admits. -/
inductive IdentifierFilter where
  | any
  /-- Those listed, and perhaps none at all. -/
  | oneOf (identifiers : List String) (includeUnset : Bool)
deriving DecidableEq, Repr

namespace IdentifierFilter

/-- Whether the filter admits an identifier or its absence. -/
def admits (f : IdentifierFilter) (identifier : Option String) : Bool :=
  match f, identifier with
  | any, _ => true
  | oneOf _ includeUnset, none => includeUnset
  | oneOf identifiers _, some i => identifiers.contains i

/-- A filter as JSON. -/
def toJson : IdentifierFilter → Json
  | any => .str "any"
  | oneOf identifiers includeUnset =>
      .ofMembers [
        ("identifiers", .arr (identifiers.map .str)), ("include_unset", .bool includeUnset)]

/-- An identifier, or null for its absence. -/
def asEntry? : Json → Option (Option String) := fun j => Json.optional Json.asString? (some j)

/-- Reads a filter: null admits everything, otherwise one entry or a list of entries. -/
def ofJson? : Json → Option IdentifierFilter
  | .null => some any
  | j => (Json.asOneOrMany? asEntry? j).map fun entries =>
      oneOf (entries.filterMap id) (entries.any Option.isNone)

end IdentifierFilter

/-- The settings of a rule that cancels. -/
structure CancelConfig where
  name : Option String
  target : List Target
  identifier : IdentifierFilter
  dryRun : Option Bool
deriving DecidableEq, Repr

namespace CancelConfig

/-- Targets and a filter and nothing else. -/
def plain (target : List Target) (identifier : IdentifierFilter) : CancelConfig :=
  ⟨none, target, identifier, none⟩

/-- The settings if they can be used. -/
def validate (c : CancelConfig) : Except ConfigError Unit :=
  if c.target.isEmpty then .error .noTarget else .ok ()

/-- Whether settings are targets and a filter and nothing else. -/
def isPlain (c : CancelConfig) : Bool := c == plain c.target c.identifier

/-- The settings as a description shows them. -/
def describe (c : CancelConfig) : List (String × Json) :=
  [
    ("name", .ofOption .str c.name), ("target", .arr (c.target.map Target.toJson)),
    ("filter", c.identifier.toJson), ("dry_run", .ofOption .bool c.dryRun),
    ("is_plain", .bool c.isPlain)
  ]

/-- The fields of the settings. -/
def shape : List Json.Field := ["name", "target", "identifier", "dryRun"].map .defaulted

/-- Reads settings. -/
def ofJson? (j : Json) : Option CancelConfig :=
  match Json.fields? shape j with
  | some [name, target, identifier, dryRun] => do
      some {
        name := ← Json.optional Json.asString? name
        target := ← Json.defaulted Target.standard Target.listOfJson? target
        identifier := ← Json.defaulted .any IdentifierFilter.ofJson? identifier
        dryRun := ← Json.optional Json.asBool? dryRun }
  | _ => none

end CancelConfig

end Deferral

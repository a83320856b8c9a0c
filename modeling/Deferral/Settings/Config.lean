import Deferral.Settings.Cache
import Deferral.Json.Decode
import Deferral.Time.Span

/-!
# Configuration

The settings of the scheduler, and those of a whole process.
-/

namespace Deferral

/-! ### Settings of the scheduler -/

/-- The settings of a scheduler. -/
structure DispatchSettings where
  /-- Milliseconds from one tick to the next. -/
  tickMillis : Nat
  /-- How many due records a tick runs at the same time. -/
  maxConcurrent : Nat
  /-- Whether every delay is replaced by one second. -/
  disableDelays : Bool
deriving DecidableEq, Repr

namespace DispatchSettings

/-- A tick every second, and one record at a time. -/
def standard : DispatchSettings := ⟨1000, 1, false⟩

/-- The span from one tick to the next, at least a millisecond. -/
def tickInterval (s : DispatchSettings) : Span := .ofMillis (max s.tickMillis 1)

/-- The fields of the settings. -/
def shape : List Json.Field :=
  ["tick_interval_ms", "max_concurrent", "disable_delays"].map .required

/-- The settings as JSON. -/
def toJson (s : DispatchSettings) : Json :=
  .ofMembers [
    ("tick_interval_ms", .nat s.tickMillis), ("max_concurrent", .nat s.maxConcurrent),
    ("disable_delays", .bool s.disableDelays)]

/-- Reads settings. -/
def ofJson? (j : Json) : Option DispatchSettings :=
  match Json.fields? shape j with
  | some [tick, concurrent, disable] => do
      some {
        tickMillis := ← Json.required Json.asUnsigned64? tick
        maxConcurrent := ← Json.required Json.asUnsigned64? concurrent
        disableDelays := ← Json.required Json.asBool? disable }
  | _ => none

/-- The settings under a profile. -/
def ofEnvironment (env : Environment) (profile : String) : DispatchSettings where
  tickMillis := (env.number? profile "DISPATCH_TICK_MS" Text.maxUnsigned64).getD
    standard.tickMillis
  maxConcurrent := ((env.number? profile "DISPATCH_MAX_CONCURRENT" Text.maxUnsigned64).filter
    (0 < ·)).getD standard.maxConcurrent
  disableDelays := (env.flag? profile "DISPATCH_DISABLE_DELAYS").getD standard.disableDelays

end DispatchSettings

/-! ### The settings of a process -/

/-- The configuration of a process. -/
structure Config where
  profile : String
  cache : CacheSettings
  dispatch : DispatchSettings
deriving DecidableEq, Repr

namespace Config

/-- The configuration under a profile, whose name counts in upper case. -/
def forProfile (env : Environment) (profile : String) : Config :=
  let p := profileName profile
  ⟨p, .ofEnvironment env p, .ofEnvironment env p⟩

/-- The configuration under the profile that the environment names. -/
def ofEnvironment (env : Environment) : Config :=
  forProfile env (profileName ((env.lookup "CTXMOD_PROFILE").getD ""))

/-- The name of the profile as messages show it. -/
def label (c : Config) : String := if c.profile.isEmpty then "default" else c.profile

/-- The lines that a process logs when it starts. -/
def summary (c : Config) : List String :=
  [
    "Config loaded (profile: " ++ c.label ++ "):",
    "  cache:     store=" ++ c.cache.store.word ++ ", ttl=" ++
      Decimal.natString (c.cache.ttl.getD CacheSettings.defaultTtl) ++ "s, prefix=" ++
      c.cache.keyHead.getD "(none)",
    "  dispatch:  tick=" ++ Decimal.natString c.dispatch.tickMillis ++ "ms, max_concurrent=" ++
      Decimal.natString c.dispatch.maxConcurrent ++ ", disable_delays=" ++
      (if c.dispatch.disableDelays then "true" else "false")
  ]

/-- The configuration as JSON. -/
def toJson (c : Config) : Json :=
  .ofMembers [
    ("profile", .str c.profile), ("cache", c.cache.toJson), ("dispatch", c.dispatch.toJson)]

/-- The configuration without its password. -/
def redacted (c : Config) : Json :=
  .ofMembers [
    ("profile", .str c.label),
    ("cache", .ofMembers [
      ("store", c.cache.store.toJson), ("host", .ofOption .str c.cache.host),
      ("port", .ofOption .nat c.cache.port), ("db", .ofOption .int c.cache.db),
      ("ttl", .ofOption .nat c.cache.ttl), ("max", .ofOption .nat c.cache.maxKeys),
      ("prefix", .ofOption .str c.cache.keyHead), ("auth", .bool c.cache.password.isSome)]),
    ("dispatch", c.dispatch.toJson)]

end Config

end Deferral

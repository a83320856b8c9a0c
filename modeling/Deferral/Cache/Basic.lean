import Deferral.Json.Decode
import Deferral.Time.Span
import Deferral.Json.Value
import Deferral.Cache.Backend
import Deferral.Json.Mismatch
import Deferral.Pattern.Matcher

/-!
# Caches

A cache puts its key head before every key, gives entries a default lifetime, counts what it finds,
and gets or deletes the keys that match a pattern. Operations return the cache as it is afterwards.
-/

namespace Deferral

/-! ### How long entries last

A setting gives `false` for entries that are not kept at all, `true` or zero for entries that are
kept for ever, and a number of seconds otherwise. -/

/-- How long an entry lasts. -/
inductive Ttl where
  /-- It is not kept. -/
  | disabled
  /-- It is kept for ever. -/
  | indefinite
  | seconds (n : Nat)
deriving DecidableEq, Repr

namespace Ttl

/-- A number of seconds from a setting, where zero is for ever. -/
def ofSeconds (n : Nat) : Ttl := if n = 0 then indefinite else seconds n

/-- The span after which an entry lapses, if it ever does. -/
def expiry? : Ttl → Option Span
  | seconds n => some (.ofSeconds n)
  | _ => none

/-- The seconds of a finite lifetime that is not zero. -/
def finiteSeconds? : Ttl → Option Nat
  | seconds n => if 0 < n then some n else none
  | _ => none

/-- A lifetime as JSON. -/
def toJson : Ttl → Json
  | disabled => .bool false
  | indefinite => .bool true
  | seconds n => .nat n

/-- Reads a lifetime. -/
def ofJson? : Json → Option Ttl
  | .bool false => some disabled
  | .bool true => some indefinite
  | j => (Json.asUnsigned64? j).map ofSeconds

/-- The longest lifetime, in seconds, that the pruning interval takes into account. -/
def maxPruneBase : Nat := 60

/-- How often a store with such entries is pruned: twice the shortest finite lifetime, which counts
as a minute if it is longer or if there is none. -/
def pruneInterval (ttls : List Ttl) : Span :=
  let shortest := (ttls.filterMap finiteSeconds?).foldl min maxPruneBase
  .ofSeconds (shortest * 2)

end Ttl

/-! ### Counters of a cache -/

/-- How often keys were found and not found, and how often that could not be told. -/
structure CacheStats where
  hits : Nat
  misses : Nat
  errors : Nat
deriving DecidableEq, Repr

namespace CacheStats

/-- Nothing counted. -/
def zero : CacheStats := ⟨0, 0, 0⟩

/-- One more key that was found. -/
def hit (s : CacheStats) : CacheStats := { s with hits := s.hits + 1 }

/-- One more key that was not found. -/
def miss (s : CacheStats) : CacheStats := { s with misses := s.misses + 1 }

/-- One more failure. -/
def failure (s : CacheStats) : CacheStats := { s with errors := s.errors + 1 }

/-- The part of lookups that found their key, and zero when there were none. -/
def hitRate (s : CacheStats) : Double :=
  if s.hits + s.misses = 0 then .zero else .ofRatio false s.hits (s.hits + s.misses)

/-- The counters as JSON. -/
def toJson (s : CacheStats) : Json :=
  .ofMembers [
    ("hits", .nat s.hits), ("misses", .nat s.misses), ("errors", .nat s.errors),
    ("hit_rate", .float s.hitRate)]

end CacheStats

/-! ### Timers, warnings and caches -/

/-- A timer that prunes a store at regular intervals. -/
structure PruneTimer where
  interval : Span
  /-- When it was set, in nanoseconds of elapsed time. -/
  setAt : Nat

namespace PruneTimer

/-- When the timer next goes off after a time: a whole number of intervals after it was set. -/
def nextAfter (t : PruneTimer) (time : Nat) : Nat :=
  t.setAt + ((time - t.setAt) / t.interval.nanos + 1) * t.interval.nanos

end PruneTimer

/-- Something that went wrong and was dealt with. -/
inductive CacheWarning where
  | undecodable (m : Mismatch)
  | lookupFailed (e : CacheError)
  | storeFailed (e : CacheError)

namespace CacheWarning

/-- The words of a warning. -/
def message : CacheWarning → String
  | undecodable _ => "Cache: stored value did not decode"
  | lookupFailed _ => "Cache: get failed, treating as miss"
  | storeFailed _ => "Cache: wrap could not store computed value"

/-- The cause of a warning. -/
def cause? : CacheWarning → Option String
  | undecodable m => some m.message
  | lookupFailed e | storeFailed e => e.message?

end CacheWarning

/-- A cache. Its settings are in normal form. -/
structure Cache where
  settings : CacheSettings
  isDefault : Bool
  backend : Backend
  stats : CacheStats
  pruneTimer : Option PruneTimer

namespace Cache

/-- A cache over a backend. -/
def ofBackend (backend : Backend) (settings : CacheSettings) (isDefault : Bool) : Cache :=
  ⟨settings.normalized, isDefault, backend, .zero, none⟩

/-- A cache as the settings say. -/
def connect (network : ServerAddress → Except RedisError RedisServer) (settings : CacheSettings)
    (isDefault : Bool) : Except CacheError Cache :=
  (Backend.connect network settings.normalized).map fun backend =>
    ofBackend backend settings isDefault

/-- What every key begins with. -/
def keyHead (c : Cache) : String := c.settings.keyHead.getD ""

/-- The digest of the settings. -/
def hash (c : Cache) : String := c.settings.hash

/-- The lifetime of entries that are given none. -/
def defaultTtl (c : Cache) : Ttl := .ofSeconds (c.settings.ttl.getD CacheSettings.defaultTtl)

/-- A key with the key head before it. -/
def fullKey (c : Cache) (key : String) : String := c.keyHead ++ key

/-- Whether other settings come to the same. -/
def sameSettings (c : Cache) (settings : CacheSettings) : Bool := settings.hash == c.hash

/-! ### Single keys -/

/-- What was found under a key. -/
structure Lookup where
  value : Option Json
  warning : Option CacheWarning

/-- The value under a key, if there is one and it is of the wanted type. -/
def get (c : Cache) (now : Uptime) (wanted : ValueType) (key : String) : Lookup × Cache :=
  let (answer, backend) := c.backend.get now (c.fullKey key)
  match answer with
  | .ok (some value) =>
      match wanted.check value with
      | .ok () => (⟨some value, none⟩, { c with backend, stats := c.stats.hit })
      | .error m => (⟨none, some (.undecodable m)⟩, { c with backend, stats := c.stats.failure })
  | .ok none => (⟨none, none⟩, { c with backend, stats := c.stats.miss })
  | .error e => (⟨none, some (.lookupFailed e)⟩, { c with backend, stats := c.stats.failure })

/-- The lifetime that is meant: a given one, else the default. -/
def effectiveTtl (c : Cache) (ttl : Option Ttl) : Ttl := ttl.getD c.defaultTtl

/-- Puts a value under a key, unless the lifetime says that it is not kept. -/
def set (c : Cache) (now : Uptime) (key : String) (value : Json) (ttl : Option Ttl) :
    Except CacheError Unit × Cache :=
  match c.effectiveTtl ttl with
  | .disabled => (.ok (), c)
  | t =>
      let (answer, backend) := c.backend.set now (c.fullKey key) value t.expiry?
      (answer, { c with backend })

/-- Drops a key and tells whether it was there. -/
def del (c : Cache) (key : String) : Except CacheError Bool × Cache :=
  let (answer, backend) := c.backend.del (c.fullKey key)
  (answer, { c with backend })

/-- How a wrapped computation ended. -/
inductive Wrapped (ε : Type) where
  | value (j : Json)
  /-- The computation failed. -/
  | failed (e : ε)
  /-- The value could not be put away, and the caller is stopped. -/
  | stopped (e : CacheError)

/-- What came of a wrapped computation. -/
structure Wrap (ε : Type) where
  result : Wrapped ε
  /-- Whether the computation was run. -/
  called : Bool
  warnings : List CacheWarning

/-- Runs a computation and keeps its value. An entry whose end the clock cannot express stops the
caller; any other failure to store is only a warning. -/
def compute {ε : Type} (c : Cache) (now : Uptime) (key : String) (ttl : Option Ttl)
    (run : Except ε Json) (warnings : List CacheWarning) : Wrap ε × Cache :=
  match run with
  | .error e => (⟨.failed e, true, warnings⟩, c)
  | .ok value =>
      let (answer, c) := c.set now key value ttl
      match answer with
      | .ok () => (⟨.value value, true, warnings⟩, c)
      | .error .clockOverflow => (⟨.stopped .clockOverflow, true, warnings⟩, c)
      | .error e => (⟨.value value, true, warnings ++ [.storeFailed e]⟩, c)

/-- The value under a key, or else the value of a computation, which is then kept. With a lifetime
that keeps nothing the key is not looked up. -/
def wrap {ε : Type} (c : Cache) (now : Uptime) (wanted : ValueType) (key : String)
    (ttl : Option Ttl) (run : Except ε Json) : Wrap ε × Cache :=
  match c.effectiveTtl ttl with
  | .disabled => c.compute now key ttl run []
  | _ =>
      let (found, c) := c.get now wanted key
      match found.value with
      | some value => (⟨.value value, false, found.warning.toList⟩, c)
      | none => c.compute now key ttl run found.warning.toList

/-! ### Patterns -/

/-- What to do with the keys that match a pattern. -/
inductive PatternAction where
  | get
  | delete
deriving DecidableEq, Repr

/-- What was done with the keys that matched. Keys are full keys. -/
inductive PatternResult where
  /-- Their values, in the order of the keys. -/
  | found (values : List (String × Json))
  | deleted (keys : List String)

/-- The number of keys in a result. -/
def PatternResult.size : PatternResult → Nat
  | found values => values.length
  | deleted keys => keys.length

/-- The result as JSON. -/
def PatternResult.toJson (r : PatternResult) : Json :=
  let shown := match r with
    | found values => ("found", .obj values)
    | deleted keys => ("deleted", .arr (keys.map .str))
  .ofMembers [shown, ("len", .nat r.size), ("empty", .bool (r.size == 0))]

/-- Adds the values that are there. -/
def addFound (values : List (String × Json)) (page : List (String × Option Json)) :
    List (String × Json) :=
  page.foldl (fun vs (key, value) =>
    match value with
    | some v => Json.insertMember key v vs
    | none => vs) values

/-- Gets the matching keys of each page. -/
def findPages (m : KeyMatcher) (now : Uptime) (values : List (String × Json)) :
    List (List String) → Backend → Except CacheError PatternResult × Backend
  | [], b => (.ok (.found values), b)
  | page :: pages, b =>
      match b.page with
      | (.error e, b) => (.error e, b)
      | (.ok (), b) =>
          let keys := page.filter m.isMatch
          match b.getMany now keys with
          | (.error e, b) => (.error e, b)
          | (.ok found, b) => findPages m now (addFound values (keys.zip found)) pages b

/-- Deletes the matching keys of each page. -/
def deletePages (m : KeyMatcher) (deleted : List String) :
    List (List String) → Backend → Except CacheError PatternResult × Backend
  | [], b => (.ok (.deleted deleted), b)
  | page :: pages, b =>
      match b.page with
      | (.error e, b) => (.error e, b)
      | (.ok (), b) =>
          let keys := page.filter m.isMatch
          match b.delMany keys with
          | (.error e, b) => (.error e, b)
          | (.ok _, b) => deletePages m (deleted ++ keys) pages b

/-- Gets or deletes every key that matches a pattern, one page of keys after another. -/
def sweep (c : Cache) (now : Uptime) (pattern : KeyPattern) (action : PatternAction) :
    Except CacheError PatternResult × Cache :=
  match KeyMatcher.parse? pattern (some c.keyHead) with
  | none => (.error .pattern, c)
  | some m =>
      let pages := c.backend.pages now
      let (answer, backend) := match action with
        | .get => findPages m now [] pages c.backend
        | .delete => deletePages m [] pages c.backend
      (answer, { c with backend })

/-- Counts the matching keys of each page. -/
def countPages (m : KeyMatcher) (count : Nat) :
    List (List String) → Backend → Except CacheError Nat × Backend
  | [], b => (.ok count, b)
  | page :: pages, b =>
      match b.page with
      | (.error e, b) => (.error e, b)
      | (.ok (), b) => countPages m (count + (page.filter m.isMatch).length) pages b

/-- The number of keys that belong to the cache. -/
def keyCount (c : Cache) (now : Uptime) : Except CacheError Nat × Cache :=
  match c.backend, c.keyHead.isEmpty with
  | .memory store, true => (.ok (store.size now), c)
  | _, _ =>
      match KeyMatcher.parse? (.text "*") (some c.keyHead) with
      | none => (.error .pattern, c)
      | some m =>
          let (answer, backend) := countPages m 0 (c.backend.pages now) c.backend
          (answer, { c with backend })

/-- Drops every key that belongs to the cache and starts counting anew. With a key head only the
keys that match it go, since the store may be shared. -/
def reset (c : Cache) (now : Uptime) : Except CacheError Unit × Cache :=
  let (answer, c) :=
    if c.keyHead.isEmpty then
      let (answer, backend) := c.backend.clear
      (answer, { c with backend })
    else
      let (answer, c) := c.sweep now (.text "*") .delete
      (answer.map fun _ => (), c)
  match answer with
  | .ok () => (.ok (), { c with stats := .zero })
  | .error e => (.error e, c)

/-! ### Pruning and the end -/

/-- Sets the timer of a memory cache that is not the default one. -/
def setPruneTimer (c : Cache) (time : Nat) (ttls : List Ttl) : Option Span × Cache :=
  match c.isDefault, c.backend with
  | false, .memory _ =>
      let interval := Ttl.pruneInterval ttls
      (some interval, { c with pruneTimer := some ⟨interval, time⟩ })
  | _, _ => (none, c)

/-- Drops the lapsed entries of a memory store. -/
def prune (c : Cache) (now : Uptime) : Cache :=
  match c.backend with
  | .memory store => { c with backend := .memory (store.prune now).2 }
  | _ => c

/-- What the timer of the cache does from one time to a later one. -/
def pass (c : Cache) (now : Uptime) (start stop : Nat) : Cache :=
  match c.pruneTimer with
  | some t => if t.nextAfter start ≤ stop then c.prune now else c
  | none => c

/-- Stops the timer, and drops the entries of a memory cache that is not the default one. -/
def destroy (c : Cache) : Cache :=
  let c := { c with pruneTimer := none }
  match c.isDefault, c.backend with
  | false, .memory store => { c with backend := .memory store.clear }
  | _, _ => c

/-! ### Descriptions -/

/-- What the cache is, as JSON. -/
def describe (c : Cache) : List (String × Json) :=
  [
    ("store", c.backend.kind.toJson), ("prefix", .str c.keyHead),
    ("is_default", .bool c.isDefault), ("default_ttl", c.defaultTtl.toJson)
  ]

/-- The backend as a description shows it. -/
def backendText (c : Cache) (now : Uptime) : String :=
  match c.backend with
  | .memory store => "CacheBackend::Memory(" ++ Decimal.natString (store.size now) ++ " keys)"
  | .redis _ => "CacheBackend::Redis(" ++ c.settings.shownUrl ++ ")"
  | .none => "CacheBackend::None"

/-- The cache as a description shows it. -/
def text (c : Cache) (now : Uptime) : String :=
  "CmCache \x7b store: " ++ c.settings.store.title ++ ", prefix: " ++
    String.ofList (Text.quoted c.keyHead.toList) ++ ", is_default: " ++
    (if c.isDefault then "true" else "false") ++ ", backend: " ++ c.backendText now ++ " \x7d"

end Cache

end Deferral

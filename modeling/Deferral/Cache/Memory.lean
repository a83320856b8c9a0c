import Deferral.Json.Value
import Deferral.Time.Span

/-!
# Memory store

A memory store holds a bounded number of entries, the one used last in front. An entry that has
lapsed is hidden, but keeps its place until it is read, pruned, deleted or pushed out. Time is a
number of nanoseconds on a clock that never goes back.
-/

namespace Deferral

/-- A reading of the clock that stores go by, in nanoseconds. -/
abbrev Uptime := Nat

/-- The reading that the clock never reaches: 2⁶³ seconds. -/
def uptimeLimit : Nat := 9223372036854775808000000000

/-- The reading after a span, if the clock can express it. -/
def Uptime.after? (now : Uptime) (d : Span) : Option Uptime :=
  if now + d.nanos < uptimeLimit then some (now + d.nanos) else none

/-- An entry of a store. -/
structure Entry where
  key : String
  value : Json
  /-- When the entry lapses, if it ever does. -/
  expiresAt : Option Uptime

namespace Entry

/-- Whether the entry has lapsed. -/
def isLapsed (e : Entry) (now : Uptime) : Bool :=
  match e.expiresAt with
  | some t => t ≤ now
  | none => false

/-- Whether the entry can still be read. -/
def isLive (e : Entry) (now : Uptime) : Bool := !e.isLapsed now

end Entry

/-- A store in memory, with the entry used last in front. -/
structure MemoryStore where
  capacity : Nat
  entries : List Entry

namespace MemoryStore

/-- A store without entries, for at least one. -/
def new (maxKeys : Nat) : MemoryStore := ⟨max maxKeys 1, []⟩

/-- The entries with other keys. -/
def without (key : String) (entries : List Entry) : List Entry :=
  entries.filter fun e => e.key != key

/-- The entry with a key. -/
def entry? (s : MemoryStore) (key : String) : Option Entry := s.entries.find? fun e => e.key == key

/-- The value under a key. A live entry moves to the front, a lapsed one is dropped. -/
def get (s : MemoryStore) (now : Uptime) (key : String) : Option Json × MemoryStore :=
  match s.entry? key with
  | none => (none, s)
  | some e =>
      if e.isLapsed now then (none, { s with entries := without key s.entries })
      else (some e.value, { s with entries := e :: without key s.entries })

/-- The values under several keys, looked up one after another. -/
def getMany (s : MemoryStore) (now : Uptime) : List String → List (Option Json) × MemoryStore
  | [] => ([], s)
  | key :: keys =>
      let (value, s) := s.get now key
      let (values, s) := s.getMany now keys
      (value :: values, s)

/-- Puts an entry in front; the last entry is pushed out if there is no room for it. -/
def put (s : MemoryStore) (e : Entry) : MemoryStore :=
  { s with entries := (e :: without e.key s.entries).take s.capacity }

/-- Puts a value under a key for a span, or for ever. None if the clock cannot express when the
entry lapses. -/
def set? (s : MemoryStore) (now : Uptime) (key : String) (value : Json) (ttl : Option Span) :
    Option MemoryStore :=
  match ttl with
  | none => some (s.put ⟨key, value, none⟩)
  | some d => (now.after? d).map fun t => s.put ⟨key, value, some t⟩

/-- Drops the entry with a key, lapsed or not, and tells whether there was one. -/
def del (s : MemoryStore) (key : String) : Bool × MemoryStore :=
  ((s.entry? key).isSome, { s with entries := without key s.entries })

/-- Drops the entries with several keys and counts them. -/
def delMany (s : MemoryStore) : List String → Nat × MemoryStore
  | [] => (0, s)
  | key :: keys =>
      let (found, s) := s.del key
      let (n, s) := s.delMany keys
      (n + found.toNat, s)

/-- The entries that can still be read. -/
def live (s : MemoryStore) (now : Uptime) : List Entry := s.entries.filter (·.isLive now)

/-- The keys of the live entries, the one used last in front. -/
def keys (s : MemoryStore) (now : Uptime) : List String := (s.live now).map (·.key)

/-- The number of live entries. -/
def size (s : MemoryStore) (now : Uptime) : Nat := (s.keys now).length

/-- Drops the lapsed entries and counts them. -/
def prune (s : MemoryStore) (now : Uptime) : Nat × MemoryStore :=
  (s.entries.countP (·.isLapsed now), { s with entries := s.live now })

/-- Drops all entries. -/
def clear (s : MemoryStore) : MemoryStore := { s with entries := [] }

end MemoryStore

/-! ### Operations

The caches over a store set, read and drop keys in it, each operation at its time. A history tells
what was answered, and what happened to keys can be told from that: which were set or read with
success, and which were dropped. -/

/-- Something that is asked of a memory store. -/
inductive StoreOp where
  | set (key : String) (value : Json) (ttl : Option Span)
  | get (key : String)
  | getMany (keys : List String)
  | del (key : String)
  | delMany (keys : List String)
  | keys
  | size
  | prune
  | clear

/-- What a memory store answers. -/
inductive StoreAnswer where
  /-- Whether the clock can express when the entry lapses. -/
  | stored (done : Bool)
  | found (value : Option Json)
  | foundMany (values : List (Option Json))
  | dropped (wasThere : Bool)
  | listed (keys : List String)
  | counted (n : Nat)
  | cleared

/-- What happens to a key, as those see it who use the store. -/
inductive StoreEvent where
  | stored (key : String) (value : Json) (expiresAt : Option Uptime)
  /-- The key was read and its value found. -/
  | read (key : String)
  | dropped (key : String)
  | cleared

namespace StoreEvent

/-- The keys that were read with success, from what was found under each. -/
def reads (keys : List String) (values : List (Option Json)) : List StoreEvent :=
  ((keys.zip values).filter (·.2.isSome)).map fun k => read k.1

/-- What an operation does to keys, told from its answer. -/
def observed (now : Uptime) : StoreOp → StoreAnswer → List StoreEvent
  | .set key value ttl, .stored true => [stored key value (ttl.map fun d => now + d.nanos)]
  | .get key, .found value => reads [key] [value]
  | .getMany keys, .foundMany values => reads keys values
  | .del key, _ => [dropped key]
  | .delMany keys, _ => keys.map dropped
  | .clear, _ => [cleared]
  | _, _ => []

/-- The value that a key was last set to and when that lapses, unless the key was dropped since. -/
def lastStored? (key : String) (events : List StoreEvent) : Option (Json × Option Uptime) :=
  events.foldl (fun last event =>
    match event with
    | stored k value expiresAt => if k = key then some (value, expiresAt) else last
    | read _ => last
    | dropped k => if k = key then none else last
    | cleared => none) none

/-- The other keys that were set or read with success since a key was, each once. -/
def usedSince (key : String) (events : List StoreEvent) : List String :=
  events.foldl (fun used event =>
    match event with
    | stored k _ _ | read k => if k = key then [] else used.insert k
    | dropped _ | cleared => used) []

end StoreEvent

namespace MemoryStore

/-- Does one operation at a time. -/
def perform (s : MemoryStore) (now : Uptime) : StoreOp → StoreAnswer × MemoryStore
  | .set key value ttl =>
      match s.set? now key value ttl with
      | some s => (.stored true, s)
      | none => (.stored false, s)
  | .get key => (.found (s.get now key).1, (s.get now key).2)
  | .getMany keys => (.foundMany (s.getMany now keys).1, (s.getMany now keys).2)
  | .del key => (.dropped (s.del key).1, (s.del key).2)
  | .delMany keys => (.counted (s.delMany keys).1, (s.delMany keys).2)
  | .keys => (.listed (s.keys now), s)
  | .size => (.counted (s.size now), s)
  | .prune => (.counted (s.prune now).1, (s.prune now).2)
  | .clear => (.cleared, s.clear)

/-- The store after operations, one after another, each at its time. -/
def run (s : MemoryStore) (ops : List (Uptime × StoreOp)) : MemoryStore :=
  ops.foldl (fun s op => (s.perform op.1 op.2).2) s

/-- What operations, one after another, do to keys. -/
def history (s : MemoryStore) : List (Uptime × StoreOp) → List StoreEvent
  | [] => []
  | (now, op) :: ops =>
      let (answer, s) := s.perform now op
      StoreEvent.observed now op answer ++ history s ops

end MemoryStore

end Deferral

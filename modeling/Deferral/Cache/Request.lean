import Deferral.Cache.Basic

/-!
# Using caches

The operations and requests that a cache answers, and caches that are used side by side.
-/

namespace Deferral

/-! ### Operations on a cache

What a cache is asked for key by key, and what it answers. A run does one operation after another,
each at its time, and collects the answers. -/

/-- Something that is asked of a cache, where a wrapped computation may fail with an `ε`. -/
inductive CacheOp (ε : Type) where
  | get (wanted : ValueType) (key : String)
  | set (key : String) (value : Json) (ttl : Option Ttl)
  | del (key : String)
  | wrap (wanted : ValueType) (key : String) (ttl : Option Ttl) (run : Except ε Json)

/-- What a cache answers. -/
inductive CacheAnswer (ε : Type) where
  | found (lookup : Cache.Lookup)
  | stored (answer : Except CacheError Unit)
  | dropped (answer : Except CacheError Bool)
  | wrapped (wrap : Cache.Wrap ε)

/-- Whether the caller was stopped since the clock cannot express when an entry lapses. -/
def CacheAnswer.isStopped {ε : Type} : CacheAnswer ε → Bool
  | stored (.error .clockOverflow) => true
  | wrapped ⟨.stopped _, _, _⟩ => true
  | _ => false

namespace CacheOp

variable {ε : Type}

/-- The key that an operation is about. -/
def key : CacheOp ε → String
  | get _ key | set key _ _ | del key | wrap _ key _ _ => key

/-- The value that an operation may write, with the lifetime given for it. -/
def write? : CacheOp ε → Option (Json × Option Ttl)
  | set _ value ttl | wrap _ _ ttl (.ok value) => some (value, ttl)
  | _ => none

end CacheOp

namespace Cache

variable {ε : Type}

/-- Does one operation. -/
def perform (c : Cache) (now : Uptime) : CacheOp ε → CacheAnswer ε × Cache
  | .get wanted key => (.found (c.get now wanted key).1, (c.get now wanted key).2)
  | .set key value ttl => (.stored (c.set now key value ttl).1, (c.set now key value ttl).2)
  | .del key => (.dropped (c.del key).1, (c.del key).2)
  | .wrap wanted key ttl run =>
      (.wrapped (c.wrap now wanted key ttl run).1, (c.wrap now wanted key ttl run).2)

/-- The answers to operations, one after another, and the cache afterwards. -/
def run (c : Cache) : List (Uptime × CacheOp ε) → List (CacheAnswer ε) × Cache
  | [] => ([], c)
  | (now, op) :: ops =>
      let (answer, c) := c.perform now op
      let (answers, c) := c.run ops
      (answer :: answers, c)

end Cache

/-! ### Requests to a cache

Whatever a cache may be asked for: an operation on a key, a sweep over its keys, their number, to be
emptied, to be pruned at intervals, what it is. A conversation is one request after another, each at
its time, and what a user gets to see of a cache is the replies. -/

/-- A request to a cache, where a wrapped computation may fail with an `ε`. -/
inductive CacheRequest (ε : Type) where
  | one (op : CacheOp ε)
  | sweep (pattern : KeyPattern) (action : Cache.PatternAction)
  | keyCount
  | reset
  | setPruneTimer (time : Nat) (ttls : List Ttl)
  /-- To let time go by, in which the timer may go off. -/
  | pass (start stop : Nat)
  | destroy
  | describe
  | stats

/-- What a cache replies. -/
inductive CacheReply (ε : Type) where
  | one (answer : CacheAnswer ε)
  | swept (answer : Except CacheError Cache.PatternResult)
  | counted (answer : Except CacheError Nat)
  | emptied (answer : Except CacheError Unit)
  | timed (interval : Option Span)
  | done
  | described (members : List (String × Json))
  | stats (stats : CacheStats)

namespace Cache

variable {ε : Type}

/-- The reply to one request, and the cache afterwards. -/
def reply (c : Cache) (now : Uptime) : CacheRequest ε → CacheReply ε × Cache
  | .one op => (.one (c.perform now op).1, (c.perform now op).2)
  | .sweep pattern action =>
      (.swept (c.sweep now pattern action).1, (c.sweep now pattern action).2)
  | .keyCount => (.counted (c.keyCount now).1, (c.keyCount now).2)
  | .reset => (.emptied (c.reset now).1, (c.reset now).2)
  | .setPruneTimer time ttls =>
      (.timed (c.setPruneTimer time ttls).1, (c.setPruneTimer time ttls).2)
  | .pass start stop => (.done, c.pass now start stop)
  | .destroy => (.done, c.destroy)
  | .describe => (.described c.describe, c)
  | .stats => (.stats c.stats, c)

/-- The replies to requests, one after another, and the cache afterwards. -/
def converse (c : Cache) : List (Uptime × CacheRequest ε) → List (CacheReply ε) × Cache
  | [] => ([], c)
  | (now, request) :: requests =>
      let (reply, c) := c.reply now request
      let (replies, c) := c.converse requests
      (reply :: replies, c)

end Cache

/-! ### Caches that share a store

Several caches may sit on one memory store. What one of them does to it the others see. -/

/-- Caches, of which those over memory may share one store. -/
structure CacheGroup where
  caches : List Cache
  /-- Whether the caches over memory share one store. -/
  isShared : Bool
  /-- Elapsed time in nanoseconds. -/
  elapsed : Nat

namespace CacheGroup

/-- The cache with the store of another if both are over memory. -/
def withStoreOf (source c : Cache) : Cache :=
  match source.backend, c.backend with
  | .memory store, .memory _ => { c with backend := .memory store }
  | _, _ => c

/-- The caches after one of them has become `c`. -/
def set (g : CacheGroup) (i : Nat) (c : Cache) : CacheGroup :=
  let caches := g.caches.set i c
  { g with caches := if g.isShared then caches.map (withStoreOf c) else caches }

/-- Lets time pass: the timers of the caches do what is due until then. -/
def sleep (g : CacheGroup) (now : Uptime) (time : Nat) : CacheGroup :=
  let stop := g.elapsed + time
  let g' := (List.range g.caches.length).foldl (fun h i =>
    match h.caches[i]? with
    | some c => h.set i (c.pass now g.elapsed stop)
    | none => h) g
  { g' with elapsed := stop }

end CacheGroup

end Deferral

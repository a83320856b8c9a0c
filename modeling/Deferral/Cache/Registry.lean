import Deferral.Cache.Basic

/-!
# Registry

A registry hands out caches so that equal settings share one. The default cache is always there;
any other is registered under the digest of its settings with the number of its holders, and
destroyed when the last of them gives it back. Caches are named by their place in the list of all
that were ever made, so that an old one is told from a new one with the same settings.
-/

namespace Deferral

/-! ### Holdings -/

/-- A registered cache. -/
structure Holding where
  hash : String
  cache : Nat
  holders : Nat
deriving DecidableEq, Repr

/-- A registry. The first cache is the default one. -/
structure Registry where
  caches : List Cache
  held : List Holding

namespace Registry

/-- A registry with its default cache. -/
def ofDefault (c : Cache) : Registry := ⟨[c], []⟩

/-- A registry whose default cache is as the settings say. -/
def connect (network : ServerAddress → Except RedisError RedisServer)
    (settings : CacheSettings) : Except CacheError Registry :=
  (Cache.connect network settings true).map ofDefault

/-- The number of the default cache. -/
def defaultCache : Nat := 0

/-- The cache with a number. -/
def cache? (r : Registry) (i : Nat) : Option Cache := r.caches[i]?

/-- The registry after a cache has become `c`. -/
def setCache (r : Registry) (i : Nat) (c : Cache) : Registry :=
  { r with caches := r.caches.set i c }

/-- What is registered under a digest. -/
def holding? (r : Registry) (hash : String) : Option Holding := r.held.find? (·.hash == hash)

/-- One holder more of what is registered under a digest. -/
def addHolder (r : Registry) (hash : String) : Registry :=
  { r with
    held := r.held.map fun h => if h.hash == hash then { h with holders := h.holders + 1 } else h }

/-- The cache for settings: the default one if there are none or they come to the same; one that is
registered already; or a new one. All but the default gain a holder. -/
def resolve (r : Registry) (network : ServerAddress → Except RedisError RedisServer)
    (settings : Option CacheSettings) : Except CacheError Nat × Registry :=
  match settings with
  | none => (.ok defaultCache, r)
  | some s =>
      if (r.cache? defaultCache).any (·.sameSettings s) then (.ok defaultCache, r)
      else
        match r.holding? s.hash with
        | some h => (.ok h.cache, r.addHolder s.hash)
        | none =>
            match Cache.connect network s false with
            | .error e => (.error e, r)
            | .ok c =>
                let i := r.caches.length
                (.ok i, ⟨r.caches ++ [c], r.held ++ [⟨s.hash, i, 1⟩]⟩)

/-- Destroys the cache with a number. -/
def destroyCache (r : Registry) (i : Nat) : Registry :=
  match r.cache? i with
  | some c => r.setCache i c.destroy
  | none => r

/-- What is registered under a digest loses a holder. The last one unregisters the cache and
destroys it, which the answer tells. -/
def removeHolder (r : Registry) (hash : String) : Bool × Registry :=
  match r.holding? hash with
  | none => (false, r)
  | some h =>
      if 1 < h.holders then
        (false,
          { r with
            held := r.held.map fun h =>
              if h.hash == hash then { h with holders := h.holders - 1 } else h })
      else
        (true, { r with held := r.held.filter (·.hash != hash) }.destroyCache h.cache)

/-- Gives a cache back, by the digest of its settings. The default cache stays. -/
def release (r : Registry) (i : Nat) : Bool × Registry :=
  match r.cache? i with
  | some c => if c.isDefault then (false, r) else r.removeHolder c.hash
  | none => (false, r)

/-- The number of holders of what is registered under the digest of a cache. -/
def holders? (r : Registry) (i : Nat) : Option Nat :=
  (r.cache? i).bind fun c => (r.holding? c.hash).map (·.holders)

/-- The number of registered caches. -/
def size (r : Registry) : Nat := r.held.length

/-- Destroys every registered cache; of the default one only the timer stops. -/
def destroyAll (r : Registry) : Registry :=
  let r' := r.held.foldl (fun r h => r.destroyCache h.cache) { r with held := [] }
  r'.destroyCache defaultCache

/-- What the timers of the caches do from one time to a later one. -/
def pass (r : Registry) (now : Uptime) (start stop : Nat) : Registry :=
  { r with caches := r.caches.map (·.pass now start stop) }

end Registry

/-! ### Operations on a registry

The users of a registry take caches, give them back and work with those that they have. Each
operation is done as a whole before the next one begins, so whatever any number of users do comes to
one list of operations. -/

/-- Something that a user of a registry does. -/
inductive RegistryOp where
  | resolve (network : ServerAddress → Except RedisError RedisServer)
      (settings : Option CacheSettings)
  | release (cache : Nat)
  | destroyAll
  /-- Work with a cache may change anything in it but what it was made with. -/
  | use (cache : Nat) (work : Cache → Cache)

/-- Whether caches are only taken and used, not given back or destroyed. -/
def RegistryOp.isTaking : RegistryOp → Bool
  | resolve .. | use .. => true
  | release _ | destroyAll => false

namespace Registry

/-- The registry after some work with a cache. -/
def use (r : Registry) (i : Nat) (work : Cache → Cache) : Registry :=
  match r.cache? i with
  | some c => r.setCache i { work c with settings := c.settings, isDefault := c.isDefault }
  | none => r

/-- Does one operation. -/
def perform (r : Registry) : RegistryOp → Registry
  | .resolve network settings => (r.resolve network settings).2
  | .release i => (r.release i).2
  | .destroyAll => r.destroyAll
  | .use i work => r.use i work

/-- The registry after operations, one after another. -/
def run (r : Registry) (ops : List RegistryOp) : Registry := ops.foldl perform r

end Registry

end Deferral

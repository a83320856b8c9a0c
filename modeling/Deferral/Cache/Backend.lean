import Deferral.Cache.Memory
import Deferral.Cache.Redis

/-!
# Backends

What a cache keeps its entries in: a memory store, a server, or nothing at all.
-/

namespace Deferral

/-- What a cache keeps its entries in. -/
inductive Backend where
  | memory (store : MemoryStore)
  | redis (server : RedisServer)
  | none

namespace Backend

/-- Connects to what the settings name. `network` finds the server at an address. -/
def connect (network : ServerAddress → Except RedisError RedisServer) (s : CacheSettings) :
    Except CacheError Backend :=
  match s.store with
  | .memory => .ok (memory (.new (s.maxKeys.getD CacheSettings.defaultMaxKeys)))
  | .redis =>
      match (ServerAddress.read s.redisUrl.toList).bind network with
      | .ok server => .ok (redis server)
      | .error e => .error (.redis e)
  | .none => .ok none

/-- The kind of store. -/
def kind : Backend → StoreKind
  | memory _ => .memory
  | redis _ => .redis
  | none => .none

/-- The memory store, if it is one. -/
def memory? : Backend → Option MemoryStore
  | memory store => some store
  | _ => Option.none

/-- The value under a key. -/
def get (b : Backend) (now : Uptime) (key : String) :
    Except CacheError (Option Json) × Backend :=
  match b with
  | memory store =>
      let (value, store) := store.get now key
      (.ok value, memory store)
  | redis server =>
      let (answer, server) := server.get key
      (answer, redis server)
  | none => (.ok Option.none, none)

/-- The values under several keys. -/
def getMany (b : Backend) (now : Uptime) (keys : List String) :
    Except CacheError (List (Option Json)) × Backend :=
  match b with
  | memory store =>
      let (values, store) := store.getMany now keys
      (.ok values, memory store)
  | redis server =>
      let (answer, server) := server.getMany keys
      (answer, redis server)
  | none => (.ok (keys.map fun _ => Option.none), none)

/-- Puts a value under a key for a span, or for ever. -/
def set (b : Backend) (now : Uptime) (key : String) (value : Json) (ttl : Option Span) :
    Except CacheError Unit × Backend :=
  match b with
  | memory store =>
      match store.set? now key value ttl with
      | some store => (.ok (), memory store)
      | Option.none => (.error .clockOverflow, memory store)
  | redis server =>
      let (answer, server) := server.set key value
      (answer, redis server)
  | none => (.ok (), none)

/-- Drops a key and tells whether it was there. -/
def del (b : Backend) (key : String) : Except CacheError Bool × Backend :=
  match b with
  | memory store =>
      let (found, store) := store.del key
      (.ok found, memory store)
  | redis server =>
      let (answer, server) := server.del key
      (answer, redis server)
  | none => (.ok false, none)

/-- Drops several keys and counts those that were there. -/
def delMany (b : Backend) (keys : List String) : Except CacheError Nat × Backend :=
  match b with
  | memory store =>
      let (n, store) := store.delMany keys
      (.ok n, memory store)
  | redis server =>
      let (answer, server) := server.delMany keys
      (answer, redis server)
  | none => (.ok 0, none)

/-- The pages of an iteration over the keys. -/
def pages (b : Backend) (now : Uptime) : List (List String) :=
  match b with
  | memory store => [store.keys now]
  | redis server => server.paging server.keys
  | none => [[]]

/-- Asks for a page of keys. -/
def page (b : Backend) : Except CacheError Unit × Backend :=
  match b with
  | redis server =>
      let (answer, server) := server.page
      (answer, redis server)
  | b => (.ok (), b)

/-- Drops all keys. -/
def clear (b : Backend) : Except CacheError Unit × Backend :=
  match b with
  | memory store => (.ok (), memory store.clear)
  | redis server =>
      let (answer, server) := server.flush
      (answer, redis server)
  | none => (.ok (), none)

end Backend

end Deferral

import Deferral.Text.Basic
import Deferral.Text.Casing
import Deferral.Json.Decode
import Deferral.Digest.Sha256
import Deferral.Json.Value

/-!
# Settings of a cache

The variables that settings are read from, the kinds of stores, and the settings of a cache.
-/

namespace Deferral

/-! ### Environment variables

Settings are looked up among variables. A profile overlays them: with a profile, every key is looked
up with the profile's name in front before it is looked up alone. A variable without text counts
as not set. -/

/-- The variables that are set, by name. -/
abbrev Environment := List (String × String)

namespace Environment

/-- The text of a variable that is set and not empty. -/
def value? (env : Environment) (key : String) : Option String :=
  (env.lookup key).filter fun v => !v.isEmpty

/-- The text for a key under a profile; the empty profile is none. -/
def setting? (env : Environment) (profile key : String) : Option String :=
  if profile.isEmpty then env.value? key
  else
    match env.value? (profile ++ "_" ++ key) with
    | some v => some v
    | none => env.value? key

/-- A setting that is a number up to `limit`; any other text counts as not set. -/
def number? (env : Environment) (profile key : String) (limit : Nat) : Option Nat :=
  (env.setting? profile key).bind fun v => Text.readUnsigned? limit v.toList

/-- A setting that is a signed number of 64 bits; any other text counts as not set. -/
def signed? (env : Environment) (profile key : String) : Option Int :=
  (env.setting? profile key).bind fun v => Text.readSigned? Text.maxSigned64 v.toList

/-- A setting that is a flag; any other text counts as not set. -/
def flag? (env : Environment) (profile key : String) : Option Bool :=
  (env.setting? profile key).bind fun v =>
    [("1", true), ("true", true), ("yes", true), ("0", false), ("false", false), ("no", false)]
      |>.lookup v

end Environment

/-- The name of a profile as variables have it. -/
def profileName (s : String) : String := String.ofList (Text.upper s.toList)

/-! ### Kinds of stores -/

/-- What a cache keeps its entries in. -/
inductive StoreKind where
  | memory
  | redis
  | none
deriving DecidableEq, Repr

/-- Why a text names no store. -/
inductive StoreError where
  | unknown (text : String)
deriving DecidableEq, Repr

/-- The words for a text that names no store. -/
def StoreError.message : StoreError → String
  | unknown text => "unknown cache store '" ++ text ++ "'"

namespace StoreKind

/-- The word for a store. -/
def word : StoreKind → String
  | memory => "memory"
  | redis => "redis"
  | none => "none"

/-- The name of a store as descriptions show it. -/
def title : StoreKind → String
  | memory => "Memory"
  | redis => "Redis"
  | none => "None"

/-- The stores by their words. -/
def words : List (String × StoreKind) := [memory, redis, none].map fun k => (k.word, k)

/-- The store that a text names, in any letter case and with white space at its ends. -/
def read (s : String) : Except StoreError StoreKind :=
  let name := String.ofList ((Text.trim s.toList).map Char.toLower)
  match words.lookup name with
  | some k => .ok k
  | Option.none => .error (.unknown name)

/-- A store as JSON. -/
def toJson (k : StoreKind) : Json := .str k.word

/-- Reads a store. -/
def ofJson? : Json → Option StoreKind := Json.asWord? words

end StoreKind

/-! ### Settings of a cache

An operator names a store and may leave out what the store does not need. The normal form fills in
defaults and drops what the store ignores; caches are told apart by the digest of its JSON text. -/

/-- The settings of a cache. -/
structure CacheSettings where
  store : StoreKind
  host : Option String
  port : Option Nat
  password : Option String
  db : Option Int
  /-- How long entries last, in seconds; zero is for ever. -/
  ttl : Option Nat
  /-- How many entries a memory store holds. -/
  maxKeys : Option Nat
  /-- What every key of the cache begins with. -/
  keyHead : Option String
deriving DecidableEq, Repr

namespace CacheSettings

/-- A memory store with nothing else set. -/
def memory : CacheSettings := ⟨.memory, none, none, none, none, none, none, none⟩

/-- Seconds that entries last by default. -/
def defaultTtl : Nat := 60

/-- Entries that a memory store holds by default. -/
def defaultMaxKeys : Nat := 500

/-- The host of a server by default. -/
def defaultHost : String := "localhost"

/-- The port of a server by default. -/
def defaultPort : Nat := 6379

/-- The largest number of entries that a setting can give. -/
def maxKeysLimit : Nat := Text.maxUnsigned64

/-- The settings with defaults filled in, and without what the store ignores. -/
def normalized (s : CacheSettings) : CacheSettings :=
  let keyHead := s.keyHead.filter fun h => !h.isEmpty
  match s.store with
  | .memory =>
      { memory with
        ttl := some (s.ttl.getD defaultTtl)
        maxKeys := some (s.maxKeys.getD defaultMaxKeys)
        keyHead }
  | .redis =>
      { store := .redis
        host := some (s.host.getD defaultHost)
        port := some (s.port.getD defaultPort)
        password := s.password
        db := some (s.db.getD 0)
        ttl := some (s.ttl.getD defaultTtl)
        maxKeys := none
        keyHead }
  | .none => { memory with store := .none }

/-- The URL of the server, with the password as it is. -/
def redisUrl (s : CacheSettings) : String :=
  let place := s.host.getD defaultHost ++ ":" ++ Decimal.natString (s.port.getD defaultPort) ++
    "/" ++ Decimal.intString (s.db.getD 0)
  match s.password with
  | some password => "redis://:" ++ password ++ "@" ++ place
  | none => "redis://" ++ place

/-- The URL of the server with three stars for the password. -/
def shownUrl (s : CacheSettings) : String :=
  redisUrl { s with password := s.password.map fun _ => "***" }

/-- The fields of the settings. -/
def shape : List Json.Field :=
  ["store", "host", "port", "auth_pass", "db", "ttl", "max", "prefix"].map .defaulted

/-- The settings as JSON, without those that are absent. -/
def toJson (s : CacheSettings) : Json :=
  .ofMembers (("store", s.store.toJson) :: [
    ("host", s.host.map .str), ("port", s.port.map .nat), ("auth_pass", s.password.map .str),
    ("db", s.db.map .int), ("ttl", s.ttl.map .nat), ("max", s.maxKeys.map .nat),
    ("prefix", s.keyHead.map Json.str)].filterMap fun (name, value) => value.map (name, ·))

/-- Reads settings. -/
def ofJson? (j : Json) : Option CacheSettings :=
  match Json.fields? shape j with
  | some [store, host, port, password, db, ttl, maxKeys, keyHead] => do
      some {
        store := ← Json.defaulted .memory StoreKind.ofJson? store
        host := ← Json.optional Json.asString? host
        port := ← Json.optional (Json.asNat? Text.maxUnsigned16) port
        password := ← Json.optional Json.asString? password
        db := ← Json.optional Json.asSigned64? db
        ttl := ← Json.optional Json.asUnsigned64? ttl
        maxKeys := ← Json.optional (Json.asNat? maxKeysLimit) maxKeys
        keyHead := ← Json.optional Json.asString? keyHead }
  | _ => none

/-- The text that the digest of the settings is taken of. -/
def hashedText (s : CacheSettings) : List Char := s.normalized.toJson.canonicalText

/-- The digest of the normal form, by which caches are told apart. -/
def hash (s : CacheSettings) : String := String.ofList (Sha256.digestText s.hashedText)

/-- The settings of the default cache under a profile. -/
def ofEnvironment (env : Environment) (profile : String) : CacheSettings where
  store := ((env.setting? profile "CACHE_STORE").bind fun v => (StoreKind.read v).toOption).getD
    .memory
  host := env.setting? profile "REDIS_HOST"
  port := env.number? profile "REDIS_PORT" Text.maxUnsigned16
  password := env.setting? profile "REDIS_AUTH_PASS"
  db := env.signed? profile "REDIS_DB"
  ttl := env.number? profile "CACHE_TTL" Text.maxUnsigned64
  maxKeys := env.number? profile "CACHE_MAX" maxKeysLimit
  keyHead := env.setting? profile "CACHE_PREFIX"

end CacheSettings

end Deferral

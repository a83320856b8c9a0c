import Deferral.Json.Parser
import Deferral.Json.Value
import Deferral.Settings.Cache

/-!
# Redis server

A server maps keys to texts. It pages its keys as it likes: an iteration over the keys yields any
list of pages, and each command may be refused. Values are stored as JSON texts, and lifetimes are
left to the server.
-/

namespace Deferral

/-! ### Failures of a cache -/

/-- An answer by which a server refuses a command. -/
inductive ServerError where
  /-- A refusal without a code of its own. -/
  | general (text : String)
  | coded (code text : String)
deriving DecidableEq, Repr

/-- Why a server could not be connected to or refused a command. -/
inductive RedisError where
  | badUrl
  | badDatabase
  | unreachable
  | refused (e : ServerError)
deriving DecidableEq, Repr

/-- The words for each error. -/
def RedisError.message : RedisError → String
  | badUrl => "Redis URL did not parse- InvalidClientConfig"
  | badDatabase => "Invalid database number- InvalidClientConfig"
  | unreachable => "Network is unreachable (os error 101)"
  | refused (.general text) => "An error was signalled by the server - ResponseError: " ++ text
  | refused (.coded code text) => code ++ ": " ++ text

/-- Why an operation on a cache failed. -/
inductive CacheError where
  | redis (e : RedisError)
  /-- A pattern means nothing. -/
  | pattern
  /-- A stored text is not JSON. -/
  | notJson
  /-- The clock cannot express when an entry lapses. -/
  | clockOverflow
deriving DecidableEq, Repr

/-- The words for an error; those for patterns and stored texts are left to the caller. -/
def CacheError.message? : CacheError → Option String
  | redis e => some ("redis error: " ++ e.message)
  | clockOverflow => some "overflow when adding duration to instant"
  | pattern | notJson => none

/-! ### Servers -/

/-- Where a server is, as its URL says. -/
structure ServerAddress where
  host : List Char
  port : Nat
  db : Int
  password : Option (List Char)
deriving DecidableEq, Repr

namespace ServerAddress

/-- Whether a character may not stand in the name of a host. -/
def isBarred (c : Char) : Bool :=
  c.toNat ≤ 0x20 || c.toNat == 0x7F || "#/:<>?@[\\]^|".toList.contains c

/-- What stands before the first character with a property and what from it on. -/
def cutAt (p : Char → Bool) (cs : List Char) : List Char × List Char := cs.span fun c => !p c

/-- What stands before the last `@` and what after it; nothing before if there is none. -/
def cutUser (cs : List Char) : Option (List Char) × List Char :=
  match cs.reverse.span (· != '@') with
  | (place, _ :: user) => (some user.reverse, place.reverse)
  | (place, []) => (none, place.reverse)

/-- Bytes with their escapes undone. -/
def percentDecoded : List Char → List Char
  | '%' :: a :: b :: r =>
      match Text.readHex? 0 [a, b] with
      | some n => Char.ofNat n :: percentDecoded r
      | none => '%' :: percentDecoded (a :: b :: r)
  | c :: r => c :: percentDecoded r
  | [] => []

/-- The password in the user part: what stands after its first colon. -/
def password? (user : Option (List Char)) : Option (List Char) :=
  user.bind fun u =>
    match cutAt (· == ':') u with
    | (_, _ :: p) => some (percentDecoded p)
    | (_, []) => none

/-- Reads a URL: user part and place up to the first `/`, `?` or `#`, and the database after the
`/`. -/
def read (url : List Char) : Except RedisError ServerAddress :=
  let scheme := "redis://".toList
  if !scheme.isPrefixOf url then .error .badUrl
  else
    let (authority, path) := cutAt (fun c => c == '/' || c == '?' || c == '#')
      (url.drop scheme.length)
    let (user, place) := cutUser authority
    let (host, port) := cutAt (· == ':') place
    if host.isEmpty || host.any isBarred then .error .badUrl
    else
      match Text.readUnsigned? Text.maxUnsigned16 (port.drop 1) with
      | none => .error .badUrl
      | some port =>
          let db := match path with
            | '/' :: r => (cutAt (fun c => c == '?' || c == '#') r).1
            | _ => []
          if db.isEmpty then .ok ⟨host, port, 0, password? user⟩
          else
            match Text.readSigned? Text.maxSigned64 db with
            | some db => .ok ⟨host, port, db, password? user⟩
            | none => .error .badDatabase

end ServerAddress

/-- A server. -/
structure RedisServer where
  data : List (String × List Char)
  /-- The pages of an iteration over the keys that are there when it begins. -/
  paging : List String → List (List String)
  /-- How the next commands are answered, where nothing or no error stands for an answer. -/
  faults : List (Option ServerError)

namespace RedisServer

/-- Runs a command unless the server refuses it. -/
def command {α : Type} (s : RedisServer) (run : RedisServer → α × RedisServer) :
    Except CacheError α × RedisServer :=
  match s.faults with
  | some e :: faults => (.error (.redis (.refused e)), { s with faults })
  | none :: faults =>
      let (a, s) := run { s with faults }
      (.ok a, s)
  | [] =>
      let (a, s) := run s
      (.ok a, s)

/-- The text under a key. -/
def text? (s : RedisServer) (key : String) : Option (List Char) := s.data.lookup key

/-- The keys. -/
def keys (s : RedisServer) : List String := s.data.map (·.1)

/-- The data without a key. -/
def without (key : String) (data : List (String × List Char)) : List (String × List Char) :=
  data.filter fun d => d.1 != key

/-- A stored text as a value. -/
def decode (text : Option (List Char)) : Except CacheError (Option Json) :=
  match text with
  | none => .ok none
  | some cs =>
      match Json.parse? cs with
      | some j => .ok (some j)
      | none => .error .notJson

/-- The value under a key. -/
def get (s : RedisServer) (key : String) : Except CacheError (Option Json) × RedisServer :=
  let (answer, s) := s.command fun s => (s.text? key, s)
  (answer.bind decode, s)

/-- The values under several keys; without keys no command is sent. -/
def getMany (s : RedisServer) (keys : List String) :
    Except CacheError (List (Option Json)) × RedisServer :=
  if keys.isEmpty then (.ok [], s)
  else
    let (answer, s) := s.command fun s => (keys.map s.text?, s)
    (answer.bind fun texts => texts.mapM decode, s)

/-- Puts a value under a key. -/
def set (s : RedisServer) (key : String) (value : Json) : Except CacheError Unit × RedisServer :=
  s.command fun s => ((), { s with data := without key s.data ++ [(key, value.render)] })

/-- Drops several keys and counts those that were there; without keys no command is sent. -/
def delMany (s : RedisServer) (keys : List String) : Except CacheError Nat × RedisServer :=
  if keys.isEmpty then (.ok 0, s)
  else
    s.command fun s =>
      let data := keys.foldl (fun data key => without key data) s.data
      (s.data.length - data.length, { s with data })

/-- Drops a key and tells whether it was there. -/
def del (s : RedisServer) (key : String) : Except CacheError Bool × RedisServer :=
  let (answer, s) := s.delMany [key]
  (answer.map (0 < ·), s)

/-- Asks for a page of keys. -/
def page (s : RedisServer) : Except CacheError Unit × RedisServer := s.command fun s => ((), s)

/-- Drops all keys. -/
def flush (s : RedisServer) : Except CacheError Unit × RedisServer :=
  s.command fun s => ((), { s with data := [] })

end RedisServer

end Deferral

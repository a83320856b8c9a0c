import Deferral.Cache.Basic

/-!
# Iterations over the keys of a server

A server brings its keys page by page. Each request carries a cursor, zero at first, and each reply
brings a page of keys and the cursor of the next request; the cursor zero says that there are no
more keys. What is on which page is up to the server: a page may be empty, and a key may come again.
A cache goes from reply to reply and learns from the last one only that it was the last.
-/

namespace Deferral

/-- A reply to a request for keys: the cursor of the next request, and a page. -/
structure ScanReply where
  cursor : UInt64
  page : List String
deriving DecidableEq, Repr

/-- Whether replies are a whole iteration: the last one, and no other, has the cursor zero. -/
def ScanReply.areWhole : List ScanReply → Bool
  | [] => false
  | [r] => r.cursor == 0
  | r :: rs => r.cursor != 0 && areWhole rs

/-- The replies to the requests of a whole iteration. -/
structure ScanIteration where
  replies : List ScanReply
  whole : ScanReply.areWhole replies = true

namespace ScanIteration

/-- The pages that an iteration brings. -/
def pages (it : ScanIteration) : List (List String) := it.replies.map (·.page)

/-- The keys that an iteration brings, each as often as it brings it. -/
def keys (it : ScanIteration) : List String := it.pages.flatten

/-- What a server owes an iteration: every key that was there from the beginning to the end is
brought at least once. -/
def Covers (it : ScanIteration) (before after : List String) : Prop :=
  ∀ key ∈ before, key ∈ after → key ∈ it.keys

end ScanIteration

namespace Cache

/-- The cursor to go on from, if the reply is not the last one, and the keys that match. -/
def matchingPage (m : KeyMatcher) (r : ScanReply) : Option UInt64 × List String :=
  (if r.cursor = 0 then none else some r.cursor, r.page.filter m.isMatch)

/-- Goes from reply to reply as long as there is a cursor to go on from, and visits the keys that
match. None if the replies end before the iteration does. -/
def walk {α : Type} (m : KeyMatcher)
    (visit : α → List String → Backend → Except CacheError α × Backend) (a : α) :
    List ScanReply → Backend → Option (Except CacheError α × Backend)
  | [], _ => none
  | r :: rs, b =>
      match b.page with
      | (.error e, b) => some (.error e, b)
      | (.ok (), b) =>
          let (next, keys) := matchingPage m r
          match visit a keys b, next with
          | (.error e, b), _ => some (.error e, b)
          | (.ok a, b), none => some (.ok a, b)
          | (.ok a, b), some _ => walk m visit a rs b

/-- Adds the values under keys to those found before. -/
def findKeys (now : Uptime) (values : List (String × Json)) (keys : List String) (b : Backend) :
    Except CacheError (List (String × Json)) × Backend :=
  let (answer, b) := b.getMany now keys
  (answer.map fun found => addFound values (keys.zip found), b)

/-- Deletes keys and tells them after those deleted before. -/
def deleteKeys (deleted keys : List String) (b : Backend) :
    Except CacheError (List String) × Backend :=
  let (answer, b) := b.delMany keys
  (answer.map fun _ => deleted ++ keys, b)

/-- Counts keys on from those counted before. -/
def countKeys (count : Nat) (keys : List String) (b : Backend) : Except CacheError Nat × Backend :=
  (.ok (count + keys.length), b)

/-- Gets or deletes every key that matches a pattern, one reply of an iteration after another. -/
def sweepAlong (c : Cache) (replies : List ScanReply) (now : Uptime) (pattern : KeyPattern)
    (action : PatternAction) : Option (Except CacheError PatternResult × Cache) :=
  match KeyMatcher.parse? pattern (some c.keyHead) with
  | none => some (.error .pattern, c)
  | some m =>
      match action with
      | .get =>
          (walk m (findKeys now) [] replies c.backend).map fun (answer, backend) =>
            (answer.map .found, { c with backend })
      | .delete =>
          (walk m deleteKeys [] replies c.backend).map fun (answer, backend) =>
            (answer.map .deleted, { c with backend })

/-- Counts the keys that belong to a cache, one reply of an iteration after another. -/
def keyCountAlong (c : Cache) (replies : List ScanReply) (now : Uptime) :
    Option (Except CacheError Nat × Cache) :=
  match c.backend, c.keyHead.isEmpty with
  | .memory store, true => some (.ok (store.size now), c)
  | _, _ =>
      match KeyMatcher.parse? (.text "*") (some c.keyHead) with
      | none => some (.error .pattern, c)
      | some m =>
          (walk m countKeys 0 replies c.backend).map fun (answer, backend) =>
            (answer, { c with backend })

end Cache

end Deferral

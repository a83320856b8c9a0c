import Deferral.Cache.Basic

/-!
# Values of a program

What a program keeps in a cache are values of types of its own, which are written as JSON and read
back. It computes them in a world that has the cache in it: a computation may take time, use the
cache itself and change whatever else there is.
-/

namespace Deferral

/-- How the values of a type are written as JSON, if they can be, and read back. -/
structure Codec (α : Type) where
  write? : α → Option Json
  read? : Json → Option α

/-- Stored values of a type as they are. -/
def ValueType.codec (t : ValueType) : Codec Json where
  write? j := some j
  read? j :=
    match t.check j with
    | .ok () => some j
    | .error _ => none

/-- A cache, a reading of the clock and whatever else there is. -/
structure World (σ : Type) where
  cache : Cache
  now : Uptime
  rest : σ

/-- How a computation whose value is kept ended. -/
inductive Outcome (ε α : Type) where
  | value (a : α)
  /-- The computation failed. -/
  | failed (e : ε)
  /-- The value could not be put away, and the caller is stopped. -/
  | stopped (e : CacheError)

variable {ε α σ : Type}

namespace Cache

/-- The value under a key, if there is one and it can be read. -/
def getAs (codec : Codec α) (c : Cache) (now : Uptime) (key : String) : Option α × Cache :=
  let (answer, backend) := c.backend.get now (c.fullKey key)
  match answer with
  | .ok (some j) =>
      match codec.read? j with
      | some a => (some a, { c with backend, stats := c.stats.hit })
      | none => (none, { c with backend, stats := c.stats.failure })
  | .ok none => (none, { c with backend, stats := c.stats.miss })
  | .error _ => (none, { c with backend, stats := c.stats.failure })

/-- Puts a value under a key, unless the lifetime says that it is not kept. -/
def setAs (codec : Codec α) (c : Cache) (now : Uptime) (key : String) (a : α)
    (ttl : Option Ttl) : Except CacheError Unit × Cache :=
  match c.effectiveTtl ttl with
  | .disabled => (.ok (), c)
  | _ =>
      match codec.write? a with
      | some j => c.set now key j ttl
      | none => (.error .notJson, c)

end Cache

namespace World

/-- Runs a computation and keeps its value. An entry whose end the clock cannot express stops the
caller; any other failure to store does not. -/
def computeAs (codec : Codec α) (key : String) (ttl : Option Ttl)
    (f : World σ → Except ε α × World σ) (w : World σ) : Outcome ε α × World σ :=
  match f w with
  | (.error e, w) => (.failed e, w)
  | (.ok a, w) =>
      let (answer, cache) := w.cache.setAs codec w.now key a ttl
      match answer with
      | .error .clockOverflow => (.stopped .clockOverflow, { w with cache })
      | _ => (.value a, { w with cache })

/-- The value under a key, or else the value of a computation, which is then kept. With a lifetime
that keeps nothing the key is not looked up. -/
def wrapAs (codec : Codec α) (key : String) (ttl : Option Ttl)
    (f : World σ → Except ε α × World σ) (w : World σ) : Outcome ε α × World σ :=
  match w.cache.effectiveTtl ttl with
  | .disabled => w.computeAs codec key ttl f
  | _ =>
      let (found, cache) := w.cache.getAs codec w.now key
      match found with
      | some a => (.value a, { w with cache })
      | none => { w with cache }.computeAs codec key ttl f

end World

end Deferral

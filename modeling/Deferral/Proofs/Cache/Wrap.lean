import Deferral.Cache.Typed
import Deferral.Proofs.Cache.Backends

/-!
# Wrapped computations

A value is looked up in a cache, and computed and put there if it is not found. Looking up and
putting away may fail in many ways. None of them costs the caller the value that was computed, but
for one: a store in memory stops the caller where the clock cannot express when an entry lapses.

## Main results

* `wrap_eq_wrapAs` — a cache of stored values as they are is a case of a cache of typed values;
* `setAs_eq_clockOverflow_iff` — when putting a value away stops the caller;
* `wrapAs_answers` — what a wrapped computation comes to, and when its caller gets no answer.
-/

namespace Deferral

variable {ε α σ : Type} {codec : Codec α} {c : Cache} {now : Uptime} {key : String}
  {ttl : Option Ttl} {w : World σ} {f : World σ → Except ε α × World σ} {a : α}

/-! ### Equations -/

/-- A value is stored if it can be written. -/
theorem Cache.setAs_of_kept (httl : c.effectiveTtl ttl ≠ .disabled) :
    c.setAs codec now key a ttl =
      match codec.write? a with
      | some j => c.set now key j ttl
      | none => (.error .notJson, c) := by
  rw [setAs]
  split
  · rename_i h
    exact absurd h httl
  · rfl

namespace World

/-- A lifetime beyond the clock stops the caller, after the computation has done its work. -/
theorem computeAs_of_overflow {after : World σ} (hran : f w = (.ok a, after))
    (hset : (after.cache.setAs codec after.now key a ttl).1 = .error .clockOverflow) :
    w.computeAs codec key ttl f =
      (.stopped .clockOverflow,
        { after with cache := (after.cache.setAs codec after.now key a ttl).2 }) := by
  simp only [computeAs, hran, hset]

/-- Otherwise the computed value is the answer, whether it could be stored or not. -/
theorem computeAs_of_expressible {after : World σ} (hran : f w = (.ok a, after))
    (hset : (after.cache.setAs codec after.now key a ttl).1 ≠ .error .clockOverflow) :
    w.computeAs codec key ttl f =
      (.value a, { after with cache := (after.cache.setAs codec after.now key a ttl).2 }) := by
  simp only [computeAs, hran]

/-- With a lifetime that keeps nothing, the value is computed without a lookup. -/
theorem wrapAs_of_disabled (codec : Codec α) (key : String)
    (f : World σ → Except ε α × World σ) (httl : w.cache.effectiveTtl ttl = .disabled) :
    w.wrapAs codec key ttl f = w.computeAs codec key ttl f := by
  rw [wrapAs, httl]

/-- Otherwise the cache is asked first, and the value is computed only if it has none. -/
theorem wrapAs_of_kept (codec : Codec α) (key : String) (f : World σ → Except ε α × World σ)
    (httl : w.cache.effectiveTtl ttl ≠ .disabled) :
    w.wrapAs codec key ttl f =
      match (w.cache.getAs codec w.now key).1 with
      | some a => (.value a, { w with cache := (w.cache.getAs codec w.now key).2 })
      | none =>
          { w with cache := (w.cache.getAs codec w.now key).2 }.computeAs codec key ttl f := by
  rw [wrapAs]
  split
  · rename_i h
    exact absurd h httl
  · rfl

end World

/-! ### Stored values as they are -/

namespace Cache

/-- How a computation of stored values ended, told as for values of any type. -/
def Wrapped.outcome : Wrapped ε → Outcome ε Json
  | value j => .value j
  | failed e => .failed e
  | stopped e => .stopped e

/-- A value of a wanted type is looked up through the codec of the type. -/
theorem getAs_codec (c : Cache) (now : Uptime) (wanted : ValueType) (key : String) :
    c.getAs wanted.codec now key = ((c.get now wanted key).1.value, (c.get now wanted key).2) := by
  rw [getAs, get]
  rcases c.backend.get now (c.fullKey key) with ⟨_ | _ | j, backend⟩
  · rfl
  · rfl
  · simp only [ValueType.codec]
    cases wanted.check j <;> rfl

/-- A value of JSON is stored as it is. -/
theorem setAs_codec (c : Cache) (now : Uptime) (wanted : ValueType) (key : String) (j : Json)
    (ttl : Option Ttl) : c.setAs wanted.codec now key j ttl = c.set now key j ttl := by
  rw [setAs]
  split
  · rename_i httl
    rw [set_of_disabled key httl]
  · rfl

end Cache

/-- A computation that ends at once and is counted. -/
def counted (run : Except ε Json) (w : World Nat) : Except ε Json × World Nat :=
  (run, { w with rest := w.rest + 1 })

/-- A computation that only fails or gives a value, counted as it is called, is an instance of one
that may do anything. -/
theorem computeAs_counted (c : Cache) (now : Uptime) (wanted : ValueType) (key : String)
    (ttl : Option Ttl) (run : Except ε Json) (warnings : List CacheWarning) :
    let done := c.compute now key ttl run warnings
    World.computeAs wanted.codec key ttl (counted run) ⟨c, now, 0⟩ =
      (done.1.result.outcome, ⟨done.2, now, done.1.called.toNat⟩) := by
  cases run with
  | error e => rfl
  | ok j =>
      simp only [World.computeAs, counted, Cache.setAs_codec, Cache.compute]
      rcases c.set now key j ttl with ⟨e | _, c'⟩
      · cases e <;> rfl
      · rfl

/-- **Stored values as they are.** A cache wraps a computation of stored values as it does one of
values of any type, and tells how often it was run. -/
theorem wrap_eq_wrapAs (c : Cache) (now : Uptime) (wanted : ValueType) (key : String)
    (ttl : Option Ttl) (run : Except ε Json) :
    let done := c.wrap now wanted key ttl run
    World.wrapAs wanted.codec key ttl (counted run) ⟨c, now, 0⟩ =
      (done.1.result.outcome, ⟨done.2, now, done.1.called.toNat⟩) := by
  let w : World Nat := ⟨c, now, 0⟩
  by_cases httl : c.effectiveTtl ttl = .disabled
  · rw [Cache.wrap_of_disabled run httl]
    exact (World.wrapAs_of_disabled (w := w) _ key _ httl).trans (computeAs_counted ..)
  · have hfound : w.cache.getAs wanted.codec w.now key = _ := Cache.getAs_codec c now wanted key
    rw [Cache.wrap_of_kept run httl]
    refine (World.wrapAs_of_kept (w := w) _ key _ httl).trans ?_
    rw [hfound]
    cases (c.get now wanted key).1.value with
    | some j => rfl
    | none => exact computeAs_counted ..

/-! ### What stops the caller -/

/-- Only a store in memory goes by the clock. -/
theorem Backend.set_eq_clockOverflow_iff {b : Backend} {value : Json} {span : Option Span} :
    (b.set now key value span).1 = .error .clockOverflow ↔
      b.kind = .memory ∧ ¬ ∀ d ∈ span, (now.after? d).isSome := by
  cases b with
  | memory store =>
      cases span with
      | none => simp [Backend.set, MemoryStore.set?]
      | some d => cases h : now.after? d <;> simp [Backend.set, MemoryStore.set?, h, Backend.kind]
  | redis server =>
      rcases server with ⟨data, paging, _ | ⟨_ | _, faults⟩⟩ <;>
        simp [Backend.set, RedisServer.set, RedisServer.command, Backend.kind]
  | none => simp [Backend.set, Backend.kind]

/-- The clock cannot express when an entry with a value lapses, and the cache has to know. -/
structure World.Overflows (w : World σ) (codec : Codec α) (a : α) (ttl : Option Ttl) : Prop where
  memory : w.cache.backend.kind = .memory
  written : (codec.write? a).isSome
  beyond : ¬ (w.cache.effectiveTtl ttl).Expressible w.now

/-- **Putting away.** This stops the caller if the clock cannot express when the entry lapses. -/
theorem World.setAs_eq_clockOverflow_iff :
    (w.cache.setAs codec w.now key a ttl).1 = .error .clockOverflow ↔ w.Overflows codec a ttl := by
  by_cases httl : w.cache.effectiveTtl ttl = .disabled
  · have hexpressible : (w.cache.effectiveTtl ttl).Expressible w.now := by
      simp [httl, Ttl.Expressible, Ttl.expiry?]
    refine iff_of_false ?_ fun h => h.beyond hexpressible
    simp [Cache.setAs, httl]
  · rw [Cache.setAs_of_kept httl]
    cases hwrite : codec.write? a with
    | none => exact iff_of_false (by simp) fun h => by simpa [hwrite] using h.written
    | some j =>
        dsimp only
        rw [Cache.set_of_kept key httl, Backend.set_eq_clockOverflow_iff]
        exact ⟨fun ⟨hmemory, hbeyond⟩ => ⟨hmemory, by rw [hwrite]; rfl, hbeyond⟩,
          fun h => ⟨h.memory, h.beyond⟩⟩

/-! ### What a computation comes to -/

/-- What comes of a computation that is run once in a world. -/
structure World.Computed (before : World σ) (codec : Codec α) (key : String) (ttl : Option Ttl)
    (f : World σ → Except ε α × World σ) (done : Outcome ε α × World σ) : Prop where
  /-- If it fails the world is left as the computation has left it. -/
  failed : ∀ e, (f before).1 = .error e → done = (.failed e, (f before).2)
  /-- If it has a value, the caller gets this value, whether it could be put away or not, unless the
  end of the entry stops the caller. -/
  value : ∀ a, (f before).1 = .ok a →
    let after := (f before).2
    done.2 = { after with cache := (after.cache.setAs codec after.now key a ttl).2 } ∧
      (done.1 = .value a ∧ ¬ after.Overflows codec a ttl ∨
        done.1 = .stopped .clockOverflow ∧ after.Overflows codec a ttl)

/-- **Computing.** What a computation gives or fails with is the answer, unless the clock stops the
caller. -/
theorem World.computed_computeAs (w : World σ) (codec : Codec α) (key : String)
    (ttl : Option Ttl) (f : World σ → Except ε α × World σ) :
    w.Computed codec key ttl f (w.computeAs codec key ttl f) where
  failed e he := by
    rcases hran : f w with ⟨run, after⟩
    obtain rfl : run = .error e := by rwa [hran] at he
    rw [computeAs, hran]
  value a ha := by
    rcases hran : f w with ⟨run, after⟩
    obtain rfl : run = .ok a := by rwa [hran] at ha
    have hstops : (after.cache.setAs codec after.now key a ttl).1 = .error .clockOverflow ↔
        after.Overflows codec a ttl := setAs_eq_clockOverflow_iff
    by_cases hoverflow : after.Overflows codec a ttl
    · rw [computeAs_of_overflow hran (hstops.mpr hoverflow)]
      exact ⟨rfl, .inr ⟨rfl, hoverflow⟩⟩
    · rw [computeAs_of_expressible hran (mt hstops.mp hoverflow)]
      exact ⟨rfl, .inl ⟨rfl, hoverflow⟩⟩

/-- **Wrapping.** Whatever a cache keeps its entries in and whatever a computation does: where the
lifetime is one to keep entries for and the value is found, the caller gets it and nothing is
computed. Else the computation is run once, in the world after the look-up. If it fails, the caller
gets its error, and nothing is written. If it has a value, the caller gets that, whether it could be
put away or not, unless a store in memory cannot express when the entry lapses, and only then. -/
theorem wrapAs_answers (w : World σ) (codec : Codec α) (key : String) (ttl : Option Ttl)
    (f : World σ → Except ε α × World σ) :
    let t := w.cache.effectiveTtl ttl
    let looked := w.cache.getAs codec w.now key
    let before := if t = .disabled then w else { w with cache := looked.2 }
    let done := w.wrapAs codec key ttl f
    (∀ a, t ≠ .disabled → looked.1 = some a → done = (.value a, before)) ∧
      ((t ≠ .disabled → looked.1 = none) → before.Computed codec key ttl f done) := by
  intro t looked before done
  by_cases httl : t = .disabled
  · have hbefore : before = w := if_pos httl
    have hdone : done = w.computeAs codec key ttl f := World.wrapAs_of_disabled codec key f httl
    refine ⟨fun a hkept => absurd httl hkept, fun _ => ?_⟩
    rw [hbefore, hdone]
    exact w.computed_computeAs ..
  · have hbefore : before = { w with cache := looked.2 } := if_neg httl
    refine ⟨fun a _ hfound => ?_, fun hmissed => ?_⟩
    · rw [hbefore]
      exact (World.wrapAs_of_kept codec key f httl).trans (by rw [hfound])
    · have hdone : done = { w with cache := looked.2 }.computeAs codec key ttl f :=
        (World.wrapAs_of_kept codec key f httl).trans (by rw [hmissed httl])
      rw [hbefore, hdone]
      exact World.computed_computeAs ..

/-- Numbers, written as such. -/
def numbers : Codec Nat := ⟨fun n => some (.nat n), Json.asUnsigned64?⟩

/-- A computation of a number that takes five nanoseconds and is counted. -/
def seven (w : World Nat) : Except Unit Nat × World Nat :=
  (.ok 7, { w with now := w.now + 5, rest := w.rest + 1 })

/-- A computation that fails and is counted. -/
def nothing (w : World Nat) : Except Unit Nat × World Nat :=
  (.error (), { w with rest := w.rest + 1 })

/-- Of two computations under one key only the first is run. One that fails under another key is run
and leaves the cache as the look-up did. -/
theorem wrapAs_answers_thrice :
    let once := (⟨Cache.inMemory, 0, 0⟩ : World Nat).wrapAs numbers "a" none seven
    let twice := once.2.wrapAs numbers "a" none seven
    let thrice := twice.2.wrapAs numbers "b" none nothing
    (once.1 = .value 7 ∧ once.2.rest = 1) ∧ (twice.1 = .value 7 ∧ twice.2.rest = 1) ∧
      thrice.1 = .failed () ∧ thrice.2.rest = 2 ∧
      thrice.2.cache = (twice.2.cache.getAs numbers 5 "b").2 := by
  intro once twice thrice
  have hmissed := (wrapAs_answers ⟨Cache.inMemory, 0, 0⟩ numbers "a" none seven).2
    fun _ => by decide +kernel
  obtain ⟨-, hanswer⟩ := hmissed.value 7 rfl
  have honce : once.1 = .value 7 := by
    refine (hanswer.resolve_right fun h => h.2.beyond ?_).1
    intro span hspan
    obtain rfl := Option.some.inj hspan
    decide +kernel
  have htwice : twice = (.value 7, _) :=
    (wrapAs_answers once.2 numbers "a" none seven).1 7 (by decide +kernel) (by decide +kernel)
  have hthrice : thrice = (.failed (), _) :=
    ((wrapAs_answers twice.2 numbers "b" none nothing).2 fun _ => by decide +kernel).failed () rfl
  refine ⟨⟨honce, by decide +kernel⟩, ⟨congrArg Prod.fst htwice, by decide +kernel⟩,
    congrArg Prod.fst hthrice, by decide +kernel, ?_⟩
  rw [hthrice]
  rfl

/-- A cache in memory whose entries last 2⁶⁴ - 1 seconds. -/
def keepsake : Cache :=
  .ofBackend (.memory (.new 10)) { CacheSettings.memory with ttl := some 18446744073709551615 }
    false

/-- A number is computed for a cache whose entries outlast the clock. The computation is run and has
a value, but the caller is stopped and gets none. -/
theorem wrap_stops_keepsake :
    let done := keepsake.wrap 0 .json "a" none (.ok (.int 1) : Except Unit Json)
    keepsake.effectiveTtl none = .seconds 18446744073709551615 ∧
      done.1.called = true ∧ done.1.result = .stopped .clockOverflow := by
  refine ⟨by decide +kernel, by decide +kernel, ?_⟩
  rfl

end Deferral

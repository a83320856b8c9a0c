import Deferral.Cache.Request
import Deferral.Proofs.Cache.Mirror
import Mathlib.Data.List.Dedup

/-!
# Caches in memory and on a server

Two caches with the same key head and default lifetime, one over a store in memory and one over a
server that refuses nothing, are asked for the same. They answer alike and count alike, unless an
entry is to lapse later than the clock can express: then the cache in memory stops its caller, where
the server takes the value.

## Main results

* `Alike.perform` — one operation on two caches that hold the same;
* `Alike.run` — a run, up to the first operation that stops its caller;
* `answers_alike` — when two caches that begin alike answer alike.
-/

namespace Deferral

variable {ε : Type} {now stop : Uptime} {default : Ttl} {ttl : Option Ttl}

/-- An operation by a time, whose value reads back from its text and does not lapse before. Entries
that are given no lifetime have the default one. -/
structure CacheOp.Lasting (default : Ttl) (stop now : Uptime) (op : CacheOp ε) : Prop where
  early : now ≤ stop
  plain : ∀ w ∈ op.write?, w.1.PlainWithin Json.maxDepth
  late : ∀ w ∈ op.write?, ∀ span ∈ (w.2.getD default).expiry?, stop < now + span.nanos

/-- Whether the clock can express when an entry with a lifetime lapses. -/
def Ttl.Expressible (now : Uptime) (t : Ttl) : Prop := ∀ span ∈ t.expiry?, (now.after? span).isSome

namespace Cache

variable {c d : Cache} {head : String} {keys : List String}

/-- Two caches that have counted the same and hold the same until a time, one in memory and one on a
server. -/
structure Alike (c d : Cache) (head : String) (default : Ttl) (keys : List String) (stop : Uptime) :
    Prop where
  heads : c.keyHead = head ∧ d.keyHead = head
  defaults : c.defaultTtl = default ∧ d.defaultTtl = default
  stats : c.stats = d.stats
  stores : ∃ s r, c.backend = .memory s ∧ d.backend = .redis r ∧
    s.Mirrors r (keys.map (head ++ ·)) stop

/-! ### Equations -/

/-- Nothing is written with a lifetime that keeps nothing. -/
theorem set_of_disabled {value : Json} (key : String) (httl : c.effectiveTtl ttl = .disabled) :
    c.set now key value ttl = (.ok (), c) := by
  rw [set, httl]

/-- Any other lifetime writes to the backend, under the full key. -/
theorem set_of_kept {value : Json} (key : String) (httl : c.effectiveTtl ttl ≠ .disabled) :
    c.set now key value ttl =
      ((c.backend.set now (c.fullKey key) value (c.effectiveTtl ttl).expiry?).1,
        { c with backend :=
            (c.backend.set now (c.fullKey key) value (c.effectiveTtl ttl).expiry?).2 }) := by
  rw [set]
  split
  · rename_i h
    exact absurd h httl
  · rfl

/-- A computed value that could be stored is the answer. -/
theorem compute_of_stored {key : String} {value : Json} (warnings : List CacheWarning)
    (hset : (c.set now key value ttl).1 = .ok ()) :
    c.compute now key ttl (.ok value : Except ε Json) warnings =
      (⟨.value value, true, warnings⟩, (c.set now key value ttl).2) := by
  simp only [compute, hset]

/-- A lifetime beyond the clock stops the caller although the value was computed. -/
theorem compute_of_overflow {key : String} {value : Json} (warnings : List CacheWarning)
    (hset : (c.set now key value ttl).1 = .error .clockOverflow) :
    c.compute now key ttl (.ok value : Except ε Json) warnings =
      (⟨.stopped .clockOverflow, true, warnings⟩, (c.set now key value ttl).2) := by
  simp only [compute, hset]

/-- With a lifetime that keeps nothing, the value is computed without a lookup. -/
theorem wrap_of_disabled {wanted : ValueType} {key : String} (run : Except ε Json)
    (httl : c.effectiveTtl ttl = .disabled) :
    c.wrap now wanted key ttl run = c.compute now key ttl run [] := by
  rw [wrap, httl]

/-- Otherwise the cache is asked first, and the value is computed only if it has none. -/
theorem wrap_of_kept {wanted : ValueType} {key : String} (run : Except ε Json)
    (httl : c.effectiveTtl ttl ≠ .disabled) :
    c.wrap now wanted key ttl run =
      match (c.get now wanted key).1.value with
      | some value =>
          (⟨.value value, false, (c.get now wanted key).1.warning.toList⟩,
            (c.get now wanted key).2)
      | none =>
          (c.get now wanted key).2.compute now key ttl run
            (c.get now wanted key).1.warning.toList := by
  rw [wrap]
  split
  · rename_i h
    exact absurd h httl
  · rfl

namespace Alike

variable (h : c.Alike d head default keys stop)
include h

/-- Both caches put the same head before a key. -/
theorem fullKeys (key : String) : c.fullKey key = head ++ key ∧ d.fullKey key = head ++ key := by
  rw [fullKey, fullKey, h.heads.1, h.heads.2]
  exact ⟨rfl, rfl⟩

/-- Both give an entry the same lifetime. -/
theorem effectiveTtls (ttl : Option Ttl) :
    c.effectiveTtl ttl = ttl.getD default ∧ d.effectiveTtl ttl = ttl.getD default := by
  rw [effectiveTtl, effectiveTtl, h.defaults.1, h.defaults.2]
  exact ⟨rfl, rfl⟩

/-! ### Each operation -/

/-- Both find the same, and count it. -/
theorem get (hnow : now ≤ stop) (wanted : ValueType) (key : String) :
    (c.get now wanted key).1 = (d.get now wanted key).1 ∧
      (c.get now wanted key).2.Alike (d.get now wanted key).2 head default keys stop := by
  obtain ⟨s, r, hc, hd, hm⟩ := h.stores
  obtain ⟨hanswer, hafter⟩ := hm.get hnow (head ++ key)
  have hmemory : c.backend.get now (c.fullKey key) =
      (.ok (s.get now (head ++ key)).1, .memory (s.get now (head ++ key)).2) := by
    rw [hc, (h.fullKeys key).1]
    rfl
  have hserver : d.backend.get now (d.fullKey key) =
      (.ok (s.get now (head ++ key)).1, .redis (r.get (head ++ key)).2) := by
    rw [hd, (h.fullKeys key).2, ← hanswer]
    rfl
  rw [Cache.get, Cache.get, hmemory, hserver]
  cases (s.get now (head ++ key)).1 with
  | none =>
      exact ⟨rfl, h.heads, h.defaults, congrArg CacheStats.miss h.stats, _, _, rfl, rfl, hafter⟩
  | some value =>
      dsimp only
      cases wanted.check value with
      | ok =>
          exact ⟨rfl, h.heads, h.defaults, congrArg CacheStats.hit h.stats, _, _, rfl, rfl, hafter⟩
      | error m =>
          exact ⟨rfl, h.heads, h.defaults, congrArg CacheStats.failure h.stats, _, _, rfl, rfl,
            hafter⟩

/-- Both drop a key or have none to drop. -/
theorem del (key : String) :
    (c.del key).1 = (d.del key).1 ∧ (c.del key).2.Alike (d.del key).2 head default keys stop := by
  obtain ⟨s, r, hc, hd, hm⟩ := h.stores
  obtain ⟨hanswer, hafter⟩ := hm.del (head ++ key)
  have hmemory : c.backend.del (c.fullKey key) =
      (.ok (s.del (head ++ key)).1, .memory (s.del (head ++ key)).2) := by
    rw [hc, (h.fullKeys key).1]
    rfl
  have hserver : d.backend.del (d.fullKey key) =
      (.ok (s.del (head ++ key)).1, .redis (r.del (head ++ key)).2) := by
    rw [hd, (h.fullKeys key).2, ← hanswer]
    rfl
  rw [Cache.del, Cache.del, hmemory, hserver]
  exact ⟨rfl, h.heads, h.defaults, h.stats, _, _, rfl, rfl, hafter⟩

/-- Both take a value, or the clock cannot express its end and only the server takes it. -/
theorem set {key : String} (hkey : key ∈ keys) {value : Json}
    (hplain : value.PlainWithin Json.maxDepth) (ttl : Option Ttl)
    (hlate : ∀ span ∈ (ttl.getD default).expiry?, stop < now + span.nanos) :
    (d.set now key value ttl).1 = .ok () ∧
      ((c.set now key value ttl).1 = .ok () ∧
          (c.set now key value ttl).2.Alike (d.set now key value ttl).2 head default keys stop ∨
        (c.set now key value ttl).1 = .error .clockOverflow ∧
          ¬ (ttl.getD default).Expressible now) := by
  obtain ⟨httlc, httld⟩ := h.effectiveTtls ttl
  by_cases hdisabled : ttl.getD default = .disabled
  · rw [set_of_disabled key (httlc.trans hdisabled), set_of_disabled key (httld.trans hdisabled)]
    exact ⟨rfl, .inl ⟨rfl, h⟩⟩
  have hkeptc : c.effectiveTtl ttl ≠ .disabled := httlc ▸ hdisabled
  have hkeptd : d.effectiveTtl ttl ≠ .disabled := httld ▸ hdisabled
  obtain ⟨s, r, hc, hd, hm⟩ := h.stores
  have hfull : head ++ key ∈ keys.map (head ++ ·) := List.mem_map_of_mem hkey
  have hserver : d.set now key value ttl =
      ((r.set (head ++ key) value).1,
        { d with backend := .redis (r.set (head ++ key) value).2 }) := by
    rw [set_of_kept key hkeptd, hd, (h.fullKeys key).2]
    rfl
  rw [set_of_kept key hkeptc, hserver, hc, (h.fullKeys key).1, httlc]
  cases hset : s.set? now (head ++ key) value (ttl.getD default).expiry? with
  | some s' =>
      obtain ⟨hanswer, hafter⟩ := hm.set? hfull hlate hplain hset
      have hmemory : (Backend.memory s).set now (head ++ key) value (ttl.getD default).expiry? =
          (.ok (), .memory s') := by
        rw [Backend.set, hset]
      rw [hmemory]
      exact ⟨hanswer, .inl ⟨rfl, h.heads, h.defaults, h.stats, _, _, rfl, rfl, hafter⟩⟩
  | none =>
      obtain ⟨faults, -, hr⟩ := hm.faultless.set (head ++ key) value
      have hmemory : (Backend.memory s).set now (head ++ key) value (ttl.getD default).expiry? =
          (.error .clockOverflow, .memory s) := by
        rw [Backend.set, hset]
      rw [hmemory, hr]
      refine ⟨rfl, .inr ⟨rfl, fun hexpressible => ?_⟩⟩
      cases hspan : (ttl.getD default).expiry? with
      | none =>
          rw [hspan] at hset
          exact absurd hset nofun
      | some span =>
          rw [hspan, MemoryStore.set?, Option.map_eq_none_iff] at hset
          have hsome := hexpressible span hspan
          rw [hset] at hsome
          exact absurd hsome nofun

/-- Both run a computation and keep its value, or the one in memory stops its caller. -/
theorem compute {key : String} (hkey : key ∈ keys) {run : Except ε Json} (ttl : Option Ttl)
    (hplain : ∀ v, run = .ok v → v.PlainWithin Json.maxDepth)
    (hlate : ∀ v, run = .ok v →
      ∀ span ∈ (ttl.getD default).expiry?, stop < now + span.nanos)
    (warnings : List CacheWarning) :
    let x := c.compute now key ttl run warnings
    let y := d.compute now key ttl run warnings
    (CacheAnswer.wrapped y.1).isStopped = false ∧
      (x.1 = y.1 ∧ x.2.Alike y.2 head default keys stop ∨
        (CacheAnswer.wrapped x.1).isStopped = true ∧
          (∃ v, run = .ok v) ∧ ¬ (ttl.getD default).Expressible now) := by
  intro x y
  cases run with
  | error e => exact ⟨rfl, .inl ⟨rfl, h⟩⟩
  | ok v =>
      obtain ⟨hserver, hmemory⟩ := h.set hkey (hplain v rfl) ttl (hlate v rfl)
      have hy : y = (⟨.value v, true, warnings⟩, (d.set now key v ttl).2) :=
        compute_of_stored warnings hserver
      rcases hmemory with ⟨hc, hafter⟩ | ⟨hc, hbeyond⟩
      · have hx : x = (⟨.value v, true, warnings⟩, (c.set now key v ttl).2) :=
          compute_of_stored warnings hc
        rw [hx, hy]
        exact ⟨rfl, .inl ⟨rfl, hafter⟩⟩
      · have hx : x = (⟨.stopped .clockOverflow, true, warnings⟩, (c.set now key v ttl).2) :=
          compute_of_overflow warnings hc
        rw [hx, hy]
        exact ⟨rfl, .inr ⟨rfl, ⟨v, rfl⟩, hbeyond⟩⟩

/-- Both look a key up and compute what they do not find. -/
theorem wrap {wanted : ValueType} {key : String} (ttl : Option Ttl) (run : Except ε Json)
    (hkey : key ∈ keys) (hop : (CacheOp.wrap wanted key ttl run).Lasting default stop now) :
    let x := c.wrap now wanted key ttl run
    let y := d.wrap now wanted key ttl run
    (CacheAnswer.wrapped y.1).isStopped = false ∧
      (x.1 = y.1 ∧ x.2.Alike y.2 head default keys stop ∨
        (CacheAnswer.wrapped x.1).isStopped = true ∧
          (∃ v, run = .ok v) ∧ ¬ (ttl.getD default).Expressible now) := by
  obtain ⟨httlc, httld⟩ := h.effectiveTtls ttl
  have hplain : ∀ v, run = .ok v → v.PlainWithin Json.maxDepth := by
    rintro v rfl
    exact hop.plain _ rfl
  have hlate : ∀ v, run = .ok v →
      ∀ span ∈ (ttl.getD default).expiry?, stop < now + span.nanos := by
    rintro v rfl
    exact hop.late _ rfl
  by_cases hdisabled : ttl.getD default = .disabled
  · rw [wrap_of_disabled run (httlc.trans hdisabled),
      wrap_of_disabled run (httld.trans hdisabled)]
    exact h.compute hkey ttl hplain hlate []
  · have hkeptc : c.effectiveTtl ttl ≠ .disabled := httlc ▸ hdisabled
    have hkeptd : d.effectiveTtl ttl ≠ .disabled := httld ▸ hdisabled
    obtain ⟨hfound, hafter⟩ := h.get hop.early wanted key
    rw [wrap_of_kept run hkeptc, wrap_of_kept run hkeptd, ← hfound]
    cases (c.get now wanted key).1.value with
    | some value => exact ⟨rfl, .inl ⟨rfl, hafter⟩⟩
    | none => exact hafter.compute hkey ttl hplain hlate _

/-- **Step.** Both answer alike and hold the same afterwards, or the one in memory stops its caller
since the clock cannot express the end of what it is to write. -/
theorem perform {op : CacheOp ε} (hkey : op.key ∈ keys) (hop : op.Lasting default stop now) :
    let x := c.perform now op
    let y := d.perform now op
    y.1.isStopped = false ∧
      (x.1 = y.1 ∧ x.2.Alike y.2 head default keys stop ∨
        x.1.isStopped = true ∧ ∃ w ∈ op.write?, ¬ (w.2.getD default).Expressible now) := by
  cases op with
  | get wanted key =>
      obtain ⟨hanswer, hafter⟩ := h.get hop.early wanted key
      exact ⟨rfl, .inl ⟨congrArg CacheAnswer.found hanswer, hafter⟩⟩
  | del key =>
      obtain ⟨hanswer, hafter⟩ := h.del key
      exact ⟨rfl, .inl ⟨congrArg CacheAnswer.dropped hanswer, hafter⟩⟩
  | set key value ttl =>
      obtain ⟨hserver, hmemory⟩ := h.set hkey (hop.plain _ rfl) ttl (hop.late _ rfl)
      have hy : (d.perform now (.set key value ttl : CacheOp ε)).1 = .stored (.ok ()) :=
        congrArg CacheAnswer.stored hserver
      refine ⟨congrArg CacheAnswer.isStopped hy, ?_⟩
      rcases hmemory with ⟨hc, hafter⟩ | ⟨hc, hbeyond⟩
      · exact .inl ⟨(congrArg CacheAnswer.stored hc).trans hy.symm, hafter⟩
      · have hx : (c.perform now (.set key value ttl : CacheOp ε)).1 =
            .stored (.error .clockOverflow) := congrArg CacheAnswer.stored hc
        exact .inr ⟨congrArg CacheAnswer.isStopped hx, _, rfl, hbeyond⟩
  | wrap wanted key ttl run =>
      obtain ⟨hserver, hmemory⟩ := h.wrap ttl run hkey hop
      refine ⟨hserver, ?_⟩
      rcases hmemory with ⟨hanswer, hafter⟩ | ⟨hstopped, ⟨v, rfl⟩, hbeyond⟩
      · exact .inl ⟨congrArg CacheAnswer.wrapped hanswer, hafter⟩
      · exact .inr ⟨hstopped, _, rfl, hbeyond⟩

/-! ### Runs -/

/-- **Run.** Both answer alike to the end, or the one in memory stops its caller somewhere. -/
theorem run {ops : List (Uptime × CacheOp ε)} (hkeys : ∀ op ∈ ops, op.2.key ∈ keys)
    (hops : ∀ op ∈ ops, op.2.Lasting default stop op.1) :
    let x := c.run ops
    let y := d.run ops
    x.1 = y.1 ∧ x.2.stats = y.2.stats ∧ (∀ a ∈ x.1, a.isStopped = false) ∨
      x.1 ≠ y.1 ∧ (∃ a ∈ x.1, a.isStopped = true) ∧
        ∃ op ∈ ops, ∃ w ∈ op.2.write?, ¬ (w.2.getD default).Expressible op.1 := by
  induction ops generalizing c d with
  | nil => exact .inl ⟨rfl, h.stats, nofun⟩
  | cons op ops ih =>
      have hx : c.run (op :: ops) = ((c.perform op.1 op.2).1 :: ((c.perform op.1 op.2).2.run ops).1,
          ((c.perform op.1 op.2).2.run ops).2) := rfl
      have hy : d.run (op :: ops) = ((d.perform op.1 op.2).1 :: ((d.perform op.1 op.2).2.run ops).1,
          ((d.perform op.1 op.2).2.run ops).2) := rfl
      obtain ⟨hserver, hmemory⟩ :=
        h.perform (hkeys op List.mem_cons_self) (hops op List.mem_cons_self)
      rw [hx, hy]
      rcases hmemory with ⟨hanswer, hafter⟩ | ⟨hstopped, hbeyond⟩
      · have hrest := ih hafter (fun op hop => hkeys op (List.mem_cons_of_mem _ hop))
          fun op hop => hops op (List.mem_cons_of_mem _ hop)
        rcases hrest with ⟨hanswers, hstats, hnone⟩ | ⟨hdiffer, ⟨a, ha, hstopped⟩, op', hop', hw⟩
        · refine .inl ⟨congrArg₂ List.cons hanswer hanswers, hstats, fun a ha => ?_⟩
          rcases List.mem_cons.mp ha with rfl | ha
          · exact hanswer ▸ hserver
          · exact hnone a ha
        · exact .inr ⟨fun heq => hdiffer (List.cons.inj heq).2,
            ⟨a, List.mem_cons_of_mem _ ha, hstopped⟩, op', List.mem_cons_of_mem _ hop', hw⟩
      · refine .inr ⟨fun heq => ?_, ⟨_, List.mem_cons_self, hstopped⟩, op, List.mem_cons_self,
          hbeyond⟩
        rw [(List.cons.inj heq).1, hserver] at hstopped
        exact absurd hstopped nofun

end Alike

/-- Two caches that begin alike: one with an empty store of some size, one on an empty server that
refuses nothing. -/
structure Twins (c d : Cache) (maxKeys : Nat) : Prop where
  heads : c.keyHead = d.keyHead
  defaults : c.defaultTtl = d.defaultTtl
  stats : c.stats = d.stats
  memory : c.backend = .memory (.new maxKeys)
  server : ∃ r, d.backend = .redis r ∧ r.Faultless ∧ r.data = []

/-- Twins begin alike, as long as all keys in use fit the memory store. -/
theorem Twins.alike {maxKeys : Nat} (h : c.Twins d maxKeys) (hroom : keys.length ≤ max maxKeys 1) :
    c.Alike d c.keyHead c.defaultTtl keys stop where
  heads := ⟨rfl, h.heads.symm⟩
  defaults := ⟨rfl, h.defaults.symm⟩
  stats := h.stats
  stores := by
    obtain ⟨r, hd, hfaultless, hdata⟩ := h.server
    have hlength : (keys.map (c.keyHead ++ ·)).length ≤ max maxKeys 1 := by rwa [List.length_map]
    exact ⟨_, r, h.memory, hd, .new hfaultless hdata hlength⟩

/-- **Memory and server.** Two caches that begin alike are asked for the same, under no more keys
than there is room for, and with values that read back and do not lapse before the end. They answer
and count alike if the clock can express the end of all that is written, and exactly if no caller is
stopped. -/
theorem answers_alike {maxKeys : Nat} (h : c.Twins d maxKeys) {ops : List (Uptime × CacheOp ε)}
    (hops : ∀ op ∈ ops, op.2.Lasting c.defaultTtl stop op.1)
    (hkeys : (ops.map (·.2.key)).dedup.length ≤ max maxKeys 1) :
    let x := c.run ops
    let y := d.run ops
    ((∀ op ∈ ops, ∀ w ∈ op.2.write?, (w.2.getD c.defaultTtl).Expressible op.1) →
        x.1 = y.1 ∧ x.2.stats = y.2.stats) ∧
      (x.1 = y.1 ∧ x.2.stats = y.2.stats ↔ ∀ a ∈ x.1, a.isStopped = false) := by
  intro x y
  have hamong : ∀ op ∈ ops, op.2.key ∈ (ops.map (·.2.key)).dedup := fun op hop =>
    List.mem_dedup.mpr (List.mem_map_of_mem hop)
  have halike : c.Alike d c.keyHead c.defaultTtl (ops.map (·.2.key)).dedup stop := h.alike hkeys
  rcases halike.run hamong hops with
    ⟨hanswers, hstats, hnone⟩ | ⟨hdiffer, ⟨a, ha, hstopped⟩, op, hop, w, hw, hbeyond⟩
  · exact ⟨fun _ => ⟨hanswers, hstats⟩, fun _ => hnone, fun _ => ⟨hanswers, hstats⟩⟩
  · refine ⟨fun hexpressible => absurd (hexpressible op hop w hw) hbeyond,
      fun hsame => absurd hsame.1 hdiffer, fun hnone => ?_⟩
    rw [hnone a ha] at hstopped
    exact absurd hstopped nofun

/-- A cache in memory with room for ten keys. -/
def inMemory : Cache :=
  ofBackend (.memory (.new 10)) { CacheSettings.memory with keyHead := some "p:" } false

/-- A cache on a server. -/
def onServer : Cache :=
  ofBackend (.redis ⟨[], fun keys => [keys], []⟩)
    { CacheSettings.memory with store := .redis, keyHead := some "p:" } false

/-- The two caches of the examples are twins. -/
theorem twins_inMemory_onServer : inMemory.Twins onServer 10 where
  heads := by decide +kernel
  defaults := by decide +kernel
  stats := rfl
  memory := rfl
  server := ⟨⟨[], fun keys => [keys], []⟩, rfl, fun _ hf => absurd hf List.not_mem_nil, rfl⟩

/-- Their entries last a minute. -/
theorem defaultTtl_inMemory : inMemory.defaultTtl = .seconds 60 := by decide +kernel

/-- A key is computed, looked up and dropped, and another one is not kept. -/
def dialogue : List (Uptime × CacheOp Unit) :=
  [(0, .wrap .json "a" none (.ok (.obj [("n", .int 1)]))), (5, .get .json "a"),
   (6, .set "b" .null (some .disabled)), (7, .del "a"), (8, .get .json "b")]

/-- The two caches answer alike through a dialogue, with one hit and two misses. -/
theorem answers_alike_dialogue :
    inMemory.Twins onServer 10 ∧
      (∀ op ∈ dialogue, op.2.Lasting inMemory.defaultTtl 8 op.1) ∧
      (dialogue.map (·.2.key)).dedup.length ≤ max 10 1 ∧
      (inMemory.run dialogue).1 = (onServer.run dialogue).1 ∧
      (onServer.run dialogue).2.stats = ⟨1, 2, 0⟩ := by
  have hkeys : (dialogue.map (·.2.key)).dedup.length ≤ max 10 1 := by decide +kernel
  have hobject : Json.PlainWithin Json.maxDepth (.obj [("n", .int 1)]) := by
    refine .obj (List.pairwise_singleton _ _) fun m hm => ?_
    obtain rfl := List.mem_singleton.mp hm
    exact .int _ ⟨by decide, by decide⟩
  have hops : ∀ op ∈ dialogue, op.2.Lasting inMemory.defaultTtl 8 op.1 := by
    rw [defaultTtl_inMemory]
    intro op hop
    simp only [dialogue, List.mem_cons, List.not_mem_nil, or_false] at hop
    rcases hop with rfl | rfl | rfl | rfl | rfl
    · refine ⟨by decide, fun w hw => ?_, fun w hw span hspan => ?_⟩ <;>
        obtain rfl := Option.some.inj hw
      · exact hobject
      · obtain rfl := Option.some.inj hspan
        decide
    · exact ⟨by decide, nofun, nofun⟩
    · refine ⟨by decide, fun w hw => ?_, fun w hw => ?_⟩ <;> obtain rfl := Option.some.inj hw
      · exact .null _
      · exact nofun
    · exact ⟨by decide, nofun, nofun⟩
    · exact ⟨by decide, nofun, nofun⟩
  have hends : ∀ op ∈ dialogue, ∀ w ∈ op.2.write?,
      (w.2.getD inMemory.defaultTtl).Expressible op.1 := by
    rw [defaultTtl_inMemory]
    intro op hop w hw span hspan
    simp only [dialogue, List.mem_cons, List.not_mem_nil, or_false] at hop
    rcases hop with rfl | rfl | rfl | rfl | rfl
    · obtain rfl := Option.some.inj hw
      obtain rfl := Option.some.inj hspan
      decide
    · exact absurd hw nofun
    · obtain rfl := Option.some.inj hw
      exact absurd hspan nofun
    · exact absurd hw nofun
    · exact absurd hw nofun
  obtain ⟨hanswers, hstats⟩ := (answers_alike twins_inMemory_onServer hops hkeys).1 hends
  refine ⟨twins_inMemory_onServer, hops, hkeys, hanswers, ?_⟩
  rw [← hstats]
  decide +kernel

/-- A value is computed and is to last 2⁶⁴ - 1 seconds. -/
def endless : List (Uptime × CacheOp Unit) :=
  [(0, .wrap .json "a" (some (.seconds 18446744073709551615)) (.ok (.int 1)))]

/-- An entry that does not lapse during the run is taken by the server, and the caller gets the
value. The cache in memory stops its caller, since the clock ends before the entry does. -/
theorem answers_differ_endless :
    inMemory.Twins onServer 10 ∧
      (∀ op ∈ endless, op.2.Lasting inMemory.defaultTtl 0 op.1) ∧
      (endless.map (·.2.key)).dedup.length < 10 ∧
      (inMemory.run endless).1 ≠ (onServer.run endless).1 := by
  have hops : ∀ op ∈ endless, op.2.Lasting inMemory.defaultTtl 0 op.1 := by
    intro op hop
    obtain rfl := List.mem_singleton.mp hop
    refine ⟨by decide, fun w hw => ?_, fun w hw span hspan => ?_⟩ <;>
      obtain rfl := Option.some.inj hw
    · exact .int _ ⟨by decide, by decide⟩
    · obtain rfl := Option.some.inj hspan
      decide
  refine ⟨twins_inMemory_onServer, hops, by decide +kernel, fun hsame => ?_⟩
  have hstopped : ((inMemory.run endless).1.map (·.isStopped)) = [true] := by decide +kernel
  have htaken : ((onServer.run endless).1.map (·.isStopped)) = [false] := by decide +kernel
  rw [hsame, htaken] at hstopped
  exact absurd hstopped (by decide)

end Cache

end Deferral

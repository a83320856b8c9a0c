import Deferral.Cache.Request
import Deferral.Proofs.Cache.Backends
import Deferral.Proofs.Registry.Sound

/-!
# Caches that cannot be told apart

What a cache replies depends on its settings by way of the key head and the default lifetime only.
So caches over memory that were made with the same of these two, and with room for as many entries,
cannot be told apart by any conversation. The normal form of the settings tells them apart in one
case: room for no entry counts as room for one, but the normal form keeps the two numbers as they
are.

## Main results

* `ActsLike.reply` — one request to caches that act alike;
* `ActsLike.converse` — a conversation;
* `normalized_eq_iff_of_builtAlike` — when the settings of such caches have the same normal form.
-/

namespace Deferral

variable {ε : Type} {now : Uptime} {ttl : Option Ttl}

/-- Different numbers of seconds are different lifetimes. -/
theorem Ttl.ofSeconds_inj {m n : Nat} (h : Ttl.ofSeconds m = Ttl.ofSeconds n) : m = n := by
  unfold Ttl.ofSeconds at h
  split at h <;> split at h <;> simp_all

/-- There is the same room for different numbers of entries only if one of them is zero. -/
theorem MemoryStore.eq_iff_of_capacity_new {m n : Nat}
    (h : (MemoryStore.new m).capacity = (MemoryStore.new n).capacity) :
    m = n ↔ (m = 0 ↔ n = 0) := by
  have hroom : max m 1 = max n 1 := h
  omega

namespace Cache

variable {c d : Cache}

/-- Two caches act alike: all but the settings is the same, and the settings give them the same key
head and the same default lifetime. -/
structure ActsLike (c d : Cache) : Prop where
  keyHead : c.keyHead = d.keyHead
  defaultTtl : c.defaultTtl = d.defaultTtl
  isDefault : c.isDefault = d.isDefault
  backend : c.backend = d.backend
  stats : c.stats = d.stats
  pruneTimer : c.pruneTimer = d.pruneTimer

/-- An operation answers alike on two caches, and leaves them so that they act alike. -/
def AnswersLike {α : Type} (f g : α × Cache) : Prop := f.1 = g.1 ∧ f.2.ActsLike g.2

namespace ActsLike

/-- Caches act alike with other backends, if these are the same. -/
theorem withBackend (h : c.ActsLike d) (backend : Backend) :
    ({ c with backend } : Cache).ActsLike { d with backend } :=
  { h with backend := rfl }

/-- Caches act alike with other counts, if these are the same. -/
theorem withStats (h : c.ActsLike d) (stats : CacheStats) :
    ({ c with stats } : Cache).ActsLike { d with stats } :=
  { h with stats := rfl }

/-- Caches that act alike use the same keys. -/
theorem fullKey (h : c.ActsLike d) (key : String) : c.fullKey key = d.fullKey key := by
  rw [Cache.fullKey, Cache.fullKey, h.keyHead]

/-- They give entries the same lifetimes. -/
theorem effectiveTtl (h : c.ActsLike d) (ttl : Option Ttl) :
    c.effectiveTtl ttl = d.effectiveTtl ttl := by
  rw [Cache.effectiveTtl, Cache.effectiveTtl, h.defaultTtl]

/-! ### Single keys -/

/-- They find the same. -/
theorem get (h : c.ActsLike d) (wanted : ValueType) (key : String) :
    AnswersLike (c.get now wanted key) (d.get now wanted key) := by
  have hfound (backend : Backend) (stats : CacheStats) :
      ({ c with backend, stats } : Cache).ActsLike { d with backend, stats } :=
    (h.withBackend backend).withStats stats
  rw [Cache.get, Cache.get, h.fullKey, h.backend, h.stats]
  rcases d.backend.get now (d.fullKey key) with ⟨answer, backend⟩
  cases answer with
  | error e => exact ⟨rfl, hfound backend _⟩
  | ok found =>
      cases found with
      | none => exact ⟨rfl, hfound backend _⟩
      | some value =>
          cases hcheck : wanted.check value with
          | ok => simpa only [hcheck] using ⟨rfl, hfound backend _⟩
          | error m => simpa only [hcheck] using ⟨rfl, hfound backend _⟩

/-- They store alike. -/
theorem set (h : c.ActsLike d) (key : String) (value : Json) (ttl : Option Ttl) :
    AnswersLike (c.set now key value ttl) (d.set now key value ttl) := by
  by_cases httl : d.effectiveTtl ttl = .disabled
  · rw [set_of_disabled key httl, set_of_disabled key ((h.effectiveTtl ttl).trans httl)]
    exact ⟨rfl, h⟩
  · rw [set_of_kept key httl, set_of_kept key ((h.effectiveTtl ttl).trans_ne httl),
      h.fullKey, h.effectiveTtl, h.backend]
    exact ⟨rfl, h.withBackend _⟩

/-- They drop alike. -/
theorem del (h : c.ActsLike d) (key : String) : AnswersLike (c.del key) (d.del key) := by
  rw [Cache.del, Cache.del, h.fullKey, h.backend]
  exact ⟨rfl, h.withBackend _⟩

/-- They keep a computed value alike. -/
theorem compute (h : c.ActsLike d) (key : String) (ttl : Option Ttl) (run : Except ε Json)
    (warnings : List CacheWarning) :
    AnswersLike (c.compute now key ttl run warnings) (d.compute now key ttl run warnings) := by
  cases run with
  | error e => exact ⟨rfl, h⟩
  | ok value =>
      obtain ⟨hanswer, hafter⟩ : AnswersLike (c.set now key value ttl) (d.set now key value ttl) :=
        h.set key value ttl
      rw [Cache.compute, Cache.compute]
      cases hd : (d.set now key value ttl).1 with
      | ok => simpa only [hanswer, hd] using ⟨rfl, hafter⟩
      | error e => cases e <;> simpa only [hanswer, hd] using ⟨rfl, hafter⟩

/-- They answer a wrapped computation alike. -/
theorem wrap (h : c.ActsLike d) (wanted : ValueType) (key : String) (ttl : Option Ttl)
    (run : Except ε Json) :
    AnswersLike (c.wrap now wanted key ttl run) (d.wrap now wanted key ttl run) := by
  by_cases httl : d.effectiveTtl ttl = .disabled
  · rw [wrap_of_disabled run httl, wrap_of_disabled run ((h.effectiveTtl ttl).trans httl)]
    exact h.compute key ttl run []
  · obtain ⟨hfound, hafter⟩ : AnswersLike (c.get now wanted key) (d.get now wanted key) :=
      h.get wanted key
    rw [wrap_of_kept run httl, wrap_of_kept run ((h.effectiveTtl ttl).trans_ne httl), hfound]
    cases (d.get now wanted key).1.value with
    | some value => exact ⟨rfl, hafter⟩
    | none => exact hafter.compute key ttl run _

/-! ### All keys -/

/-- They get or delete the same keys by a pattern. -/
theorem sweep (h : c.ActsLike d) (pattern : KeyPattern) (action : PatternAction) :
    AnswersLike (c.sweep now pattern action) (d.sweep now pattern action) := by
  rw [Cache.sweep, Cache.sweep, h.keyHead, h.backend]
  cases KeyMatcher.parse? pattern (some d.keyHead) with
  | none => exact ⟨rfl, h⟩
  | some m => exact ⟨rfl, h.withBackend _⟩

/-- They count the same keys. -/
theorem keyCount (h : c.ActsLike d) : AnswersLike (c.keyCount now) (d.keyCount now) := by
  rw [Cache.keyCount, Cache.keyCount, h.keyHead, h.backend]
  split
  · exact ⟨rfl, h⟩
  · cases KeyMatcher.parse? (.text "*") (some d.keyHead) with
    | none => exact ⟨rfl, h⟩
    | some m => exact ⟨rfl, h.withBackend _⟩

/-- They are emptied alike. -/
theorem reset (h : c.ActsLike d) : AnswersLike (c.reset now) (d.reset now) := by
  by_cases hhead : d.keyHead.isEmpty
  · have hemptied (stats : CacheStats) := (h.withBackend d.backend.clear.2).withStats stats
    simp only [Cache.reset, h.keyHead, h.backend, hhead, if_true]
    cases d.backend.clear.1 with
    | ok => exact ⟨rfl, hemptied .zero⟩
    | error e => exact ⟨rfl, h.withBackend _⟩
  · obtain ⟨hanswer, hafter⟩ :
        AnswersLike (c.sweep now (.text "*") .delete) (d.sweep now (.text "*") .delete) :=
      h.sweep (.text "*") .delete
    simp only [Cache.reset, h.keyHead, hhead, Bool.false_eq_true, if_false, hanswer]
    cases (d.sweep now (.text "*") .delete).1 with
    | ok => exact ⟨rfl, hafter.withStats .zero⟩
    | error e => exact ⟨rfl, hafter⟩

/-! ### The timer and the end -/

/-- They are set to be pruned at the same intervals. -/
theorem setPruneTimer (h : c.ActsLike d) (time : Nat) (ttls : List Ttl) :
    AnswersLike (c.setPruneTimer time ttls) (d.setPruneTimer time ttls) := by
  obtain ⟨settings, isDefault, backend, stats, pruneTimer⟩ := c
  obtain ⟨settings', isDefault', backend', stats', pruneTimer'⟩ := d
  obtain ⟨hhead, httl, rfl, rfl, rfl, rfl⟩ := h
  cases isDefault <;> cases backend <;> exact ⟨rfl, hhead, httl, rfl, rfl, rfl, rfl⟩

/-- They are pruned at the same times. -/
theorem pass (h : c.ActsLike d) (start stop : Nat) :
    (c.pass now start stop).ActsLike (d.pass now start stop) := by
  have hprune : (c.prune now).ActsLike (d.prune now) := by
    rw [Cache.prune, Cache.prune, h.backend]
    split
    · exact h.withBackend _
    · exact h
  rw [Cache.pass, Cache.pass, h.pruneTimer]
  split
  · split
    · exact hprune
    · exact h
  · exact h

/-- They are destroyed alike. -/
theorem destroy (h : c.ActsLike d) : c.destroy.ActsLike d.destroy := by
  obtain ⟨settings, isDefault, backend, stats, pruneTimer⟩ := c
  obtain ⟨settings', isDefault', backend', stats', pruneTimer'⟩ := d
  obtain ⟨hhead, httl, rfl, rfl, rfl, rfl⟩ := h
  cases isDefault <;> cases backend <;> exact ⟨hhead, httl, rfl, rfl, rfl, rfl⟩

/-- They describe themselves in the same words. -/
theorem describe (h : c.ActsLike d) : c.describe = d.describe := by
  rw [Cache.describe, Cache.describe, h.keyHead, h.defaultTtl, h.isDefault, h.backend]

/-! ### Conversations -/

/-- **One request.** Caches that act alike reply alike, and act alike afterwards. -/
theorem reply (h : c.ActsLike d) (now : Uptime) (request : CacheRequest ε) :
    AnswersLike (c.reply now request) (d.reply now request) := by
  have hseen {α : Type} {f g : α × Cache} (hfg : AnswersLike f g) (answer : α → CacheReply ε) :
      AnswersLike (answer f.1, f.2) (answer g.1, g.2) := ⟨congrArg answer hfg.1, hfg.2⟩
  cases request with
  | one op =>
      cases op with
      | get wanted key => exact hseen (h.get wanted key) fun a => .one (.found a)
      | set key value ttl => exact hseen (h.set key value ttl) fun a => .one (.stored a)
      | del key => exact hseen (h.del key) fun a => .one (.dropped a)
      | wrap wanted key ttl run =>
          exact hseen (h.wrap wanted key ttl run) fun a => .one (.wrapped a)
  | sweep pattern action => exact hseen (h.sweep pattern action) .swept
  | keyCount => exact hseen h.keyCount .counted
  | reset => exact hseen h.reset .emptied
  | setPruneTimer time ttls => exact hseen (h.setPruneTimer time ttls) .timed
  | pass start stop => exact ⟨rfl, h.pass start stop⟩
  | destroy => exact ⟨rfl, h.destroy⟩
  | describe => exact ⟨congrArg CacheReply.described h.describe, h⟩
  | stats => exact ⟨congrArg CacheReply.stats h.stats, h⟩

/-- **Conversations.** No conversation tells caches apart that act alike. -/
theorem converse (h : c.ActsLike d) (requests : List (Uptime × CacheRequest ε)) :
    AnswersLike (c.converse requests) (d.converse requests) := by
  induction requests generalizing c d with
  | nil => exact ⟨rfl, h⟩
  | cons request requests ih =>
      obtain ⟨now, request⟩ := request
      obtain ⟨hreply, hafter⟩ := h.reply now request
      obtain ⟨hreplies, hend⟩ := ih hafter
      exact ⟨congrArg₂ List.cons hreply hreplies, hend⟩

end ActsLike

/-! ### Caches over memory that were just made -/

/-- How many entries there is room for, in a cache over memory. -/
def room? (c : Cache) : Option Nat := c.backend.memory?.map (·.capacity)

/-- Two caches were made with the same key head, the same default lifetime and room for as many
entries. -/
structure BuiltAlike (c d : Cache) : Prop where
  keyHead : c.keyHead = d.keyHead
  defaultTtl : c.defaultTtl = d.defaultTtl
  room : c.room? = d.room?

end Cache

namespace CacheSettings

variable {a b s : CacheSettings} {c d : Cache} {isDefault : Bool}
  {network network' : ServerAddress → Except RedisError RedisServer}

/-- Settings of a memory store always give a cache, and its size is all they say of the store. -/
theorem connect_of_memory (hs : s.store = .memory) :
    Cache.connect network s isDefault =
      .ok (.ofBackend (.memory (.new (s.maxKeys.getD defaultMaxKeys))) s isDefault) := by
  have hstore : s.normalized.store = .memory := by rw [normalized, hs]; rfl
  have hroom : s.normalized.maxKeys = some (s.maxKeys.getD defaultMaxKeys) := by
    rw [normalized, hs]
  rw [Cache.connect, Backend.connect, hstore, hroom]
  rfl

/-- Settings of memory have the same normal form if they say the same of the key head, the lifetime
and the room, whether or not they say it. -/
theorem normalized_eq_iff_of_memory (ha : a.store = .memory) (hb : b.store = .memory) :
    a.normalized = b.normalized ↔
      a.normalized.keyHead = b.normalized.keyHead ∧
        a.ttl.getD defaultTtl = b.ttl.getD defaultTtl ∧
          a.maxKeys.getD defaultMaxKeys = b.maxKeys.getD defaultMaxKeys := by
  simp only [normalized, ha, hb, mk.injEq, Option.some.injEq]
  tauto

/-- In the normal form, a key head without text is no key head. -/
theorem keyHead_normalized_ne (s : CacheSettings) : s.normalized.keyHead ≠ some "" := by
  intro h
  have hkept : (s.keyHead.filter fun h => !h.isEmpty) ≠ some "" := fun hkept =>
    absurd (Option.filter_eq_some_iff.mp hkept).2 (by decide)
  cases hs : s.store <;> rw [normalized, hs] at h
  · exact hkept h
  · exact hkept h
  · cases h

/-- In normal form a key head is absent if it is empty, so nothing else stands for the empty one. -/
theorem keyHead_normalized_inj
    (h : a.normalized.keyHead.getD "" = b.normalized.keyHead.getD "") :
    a.normalized.keyHead = b.normalized.keyHead := by
  have ha := a.keyHead_normalized_ne
  have hb := b.keyHead_normalized_ne
  revert h ha hb
  cases a.normalized.keyHead <;> cases b.normalized.keyHead <;> intro h ha hb
  · rfl
  · exact absurd (congrArg some h.symm) hb
  · exact absurd (congrArg some h) ha
  · exact congrArg some h

/-- Caches that were made alike act alike. -/
theorem actsLike_of_builtAlike (ha : a.store = .memory) (hb : b.store = .memory)
    (hc : Cache.connect network a isDefault = .ok c)
    (hd : Cache.connect network' b isDefault = .ok d) (h : c.BuiltAlike d) : c.ActsLike d := by
  rw [connect_of_memory ha] at hc
  rw [connect_of_memory hb] at hd
  obtain rfl := Except.ok.inj hc
  obtain rfl := Except.ok.inj hd
  have hroom : (MemoryStore.new (a.maxKeys.getD defaultMaxKeys)).capacity =
      (MemoryStore.new (b.maxKeys.getD defaultMaxKeys)).capacity := Option.some.inj h.room
  have hstore : MemoryStore.new (a.maxKeys.getD defaultMaxKeys) =
      .new (b.maxKeys.getD defaultMaxKeys) := congrArg (MemoryStore.mk · []) hroom
  exact ⟨h.keyHead, h.defaultTtl, rfl, congrArg Backend.memory hstore, rfl, rfl⟩

/-- **Normal forms.** Two settings of memory make caches that no conversation tells apart, if these
are made with the same key head, the same default lifetime and the same room. The settings then have
the same normal form, and so the same digest, exactly if both or neither of them say that there is
room for no entry. -/
theorem normalized_eq_iff_of_builtAlike (ha : a.store = .memory) (hb : b.store = .memory)
    (hc : Cache.connect network a isDefault = .ok c)
    (hd : Cache.connect network' b isDefault = .ok d) (h : c.BuiltAlike d) :
    (∀ requests : List (Uptime × CacheRequest ε),
        (c.converse requests).1 = (d.converse requests).1) ∧
      (a.normalized = b.normalized ↔ (a.maxKeys = some 0 ↔ b.maxKeys = some 0)) ∧
      ((a.maxKeys = some 0 ↔ b.maxKeys = some 0) → a.hash = b.hash) := by
  have hlike := actsLike_of_builtAlike ha hb hc hd h
  have hnormal : a.normalized = b.normalized ↔ (a.maxKeys = some 0 ↔ b.maxKeys = some 0) := by
    have hnone (s : CacheSettings) : s.maxKeys.getD defaultMaxKeys = 0 ↔ s.maxKeys = some 0 := by
      cases s.maxKeys <;> simp [defaultMaxKeys]
    rw [connect_of_memory ha] at hc
    rw [connect_of_memory hb] at hd
    obtain rfl := Except.ok.inj hc
    obtain rfl := Except.ok.inj hd
    have hhead := keyHead_normalized_inj h.keyHead
    have httl : a.ttl.getD defaultTtl = b.ttl.getD defaultTtl := by
      have hsaid := Ttl.ofSeconds_inj h.defaultTtl
      simpa only [Cache.ofBackend, normalized, ha, hb, Option.getD_some] using hsaid
    have hroom := MemoryStore.eq_iff_of_capacity_new (Option.some.inj h.room)
    rw [hnone, hnone] at hroom
    rw [normalized_eq_iff_of_memory ha hb, ← hroom]
    exact ⟨fun hsame => hsame.2.2, fun hsame => ⟨hhead, httl, hsame⟩⟩
  refine ⟨fun requests => (hlike.converse requests).1, hnormal, fun hroom => ?_⟩
  rw [hash, hashedText, hnormal.mpr hroom, ← hashedText, ← hash]

/-- Settings that leave everything to the defaults, with what memory ignores, and settings that say
what the defaults are. -/
theorem normalized_eq_iff_of_builtAlike_unsaid :
    let a : CacheSettings := { memory with host := some "cache", keyHead := some "" }
    let b : CacheSettings := { memory with ttl := some 60, maxKeys := some 500 }
    ∃ c d, Cache.connect Registry.noServers a false = .ok c ∧
      Cache.connect Registry.noServers b false = .ok d ∧ c.BuiltAlike d ∧ a ≠ b ∧
      (∀ requests : List (Uptime × CacheRequest Unit),
        (c.converse requests).1 = (d.converse requests).1) ∧
      a.normalized = b.normalized ∧ a.hash = b.hash := by
  intro a b
  have ha : Cache.connect Registry.noServers a false =
      .ok (.ofBackend (.memory (.new 500)) a false) :=
    connect_of_memory rfl
  have hb : Cache.connect Registry.noServers b false =
      .ok (.ofBackend (.memory (.new 500)) b false) :=
    connect_of_memory rfl
  have hbuilt : (Cache.ofBackend (.memory (.new 500)) a false).BuiltAlike
      (.ofBackend (.memory (.new 500)) b false) :=
    ⟨by decide +kernel, by decide +kernel, rfl⟩
  have hroom : a.maxKeys = some 0 ↔ b.maxKeys = some 0 := by decide
  obtain ⟨hreplies, hnormal, hhash⟩ :=
    normalized_eq_iff_of_builtAlike (ε := Unit) rfl rfl ha hb hbuilt
  exact ⟨_, _, ha, hb, hbuilt, by decide, hreplies, hnormal.mpr hroom, hhash hroom⟩

/-- Settings with room for no entry and settings with room for one make caches with room for one
entry, but have different normal forms and different digests. -/
theorem normalized_ne_noRoom :
    let a : CacheSettings := { memory with maxKeys := some 0 }
    let b : CacheSettings := { memory with maxKeys := some 1 }
    ∃ c d, Cache.connect Registry.noServers a false = .ok c ∧
      Cache.connect Registry.noServers b false = .ok d ∧ c.BuiltAlike d ∧
      a.normalized ≠ b.normalized ∧ a.hash ≠ b.hash :=
  ⟨_, _, connect_of_memory rfl, connect_of_memory rfl, ⟨rfl, rfl, rfl⟩, by decide,
    by decide +kernel⟩

end CacheSettings

end Deferral

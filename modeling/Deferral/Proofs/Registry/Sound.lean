import Deferral.Cache.Registry
import Deferral.Proofs.Settings.Cache
import Mathlib.Data.List.Nodup

/-!
# What a registry keeps

Whatever is done to a registry, a cache keeps its number and what it was made with; the default
cache stays in front; what is registered under a digest is a cache with that digest, not the default
one, and at most one cache is registered under it. So what is registered is told apart by its digest
as well as by its cache.

## Main results

* `Sound.resolve_cases` — what comes of a request for a cache;
* `Sound.perform`, `Sound.run` — no operation breaks this;
* `sound_connect` — a new registry is sound.
-/

namespace Deferral

/-- Settings of a memory cache with a key head. -/
def CacheSettings.withKeyHead (head : String) : CacheSettings :=
  { memory with keyHead := some head }

/-- The digest that settings come to, where those of the default cache stand in for none. -/
def hashOf (default : String) (settings : Option CacheSettings) : String :=
  (settings.map (·.hash)).getD default

/-- The keys that a backend keeps, those of lapsed entries among them. -/
def Backend.keptKeys : Backend → List String
  | .memory store => store.entries.map (·.key)
  | .redis server => server.keys
  | .none => []

namespace Cache

/-- The entries of a memory cache. -/
def entries (c : Cache) : List Entry := (c.backend.memory?.map (·.entries)).getD []

/-- A cache that was connected has the digest of the settings. -/
theorem hash_of_connect {network : ServerAddress → Except RedisError RedisServer}
    {s : CacheSettings} {isDefault : Bool} {c : Cache} (hc : connect network s isDefault = .ok c) :
    c.hash = s.hash ∧ c.isDefault = isDefault := by
  unfold connect at hc
  cases hbackend : Backend.connect network s.normalized with
  | error e => rw [hbackend] at hc; exact absurd hc nofun
  | ok backend =>
      rw [hbackend] at hc
      obtain rfl := Except.ok.inj hc
      exact ⟨s.hash_normalized, rfl⟩

/-! ### The end of a cache -/

/-- A destroyed cache has the settings that it had. -/
theorem settings_destroy (c : Cache) : c.destroy.settings = c.settings := by
  simp only [destroy]
  split <;> rfl

/-- A destroyed cache is the default one if it was before. -/
theorem isDefault_destroy (c : Cache) : c.destroy.isDefault = c.isDefault := by
  simp only [destroy]
  split <;> rfl

/-- A destroyed cache is not pruned any more. -/
theorem pruneTimer_destroy (c : Cache) : c.destroy.pruneTimer = none := by
  simp only [destroy]
  split <;> rfl

/-- What the end of a cache leaves of it. -/
structure Ended (c c' : Cache) : Prop where
  timer : c'.pruneTimer = none
  /-- A memory cache keeps nothing. -/
  emptied : c.backend.kind = .memory → c'.backend.keptKeys = []
  /-- What any other cache is over stays as it is, a server with all its data. -/
  untouched : c.backend.kind ≠ .memory → c'.backend = c.backend

/-- A cache that is not the default one ends when it is destroyed. -/
theorem ended_destroy {c : Cache} (h : c.isDefault = false) : c.Ended c.destroy where
  timer := c.pruneTimer_destroy
  emptied hkind := by
    cases hbackend : c.backend with
    | memory store => simp [destroy, h, hbackend, Backend.keptKeys, MemoryStore.clear]
    | redis _ | none => simp [hbackend, Backend.kind] at hkind
  untouched hkind := by
    cases hbackend : c.backend with
    | memory store => exact absurd (congrArg Backend.kind hbackend) hkind
    | redis _ | none => simp [destroy, hbackend]

end Cache

namespace Registry

variable {r r' : Registry} {default hash : String} {h h' : Holding} {i j : Nat} {c c' : Cache}
  {op : RegistryOp} {ops : List RegistryOp}
  {network : ServerAddress → Except RedisError RedisServer} {settings : Option CacheSettings}

/-- By what a cache is known: the digest of its settings, and whether it is the default one. -/
def badge? (r : Registry) (i : Nat) : Option (String × Bool) :=
  (r.cache? i).map fun c => (c.hash, c.isDefault)

/-- A registry in order, where `default` is the digest of the default cache. -/
structure Sound (r : Registry) (default : String) : Prop where
  front : r.badge? defaultCache = some (default, true)
  registered : ∀ h ∈ r.held, h.hash ≠ default ∧ r.badge? h.cache = some (h.hash, false)
  nodup : (r.held.map (·.hash)).Nodup

/-! ### Finding things -/

/-- A cache is known by its digest and its kind. -/
theorem badge?_of_cache? (hc : r.cache? i = some c) : r.badge? i = some (c.hash, c.isDefault) := by
  rw [badge?, hc, Option.map_some]

/-- Only caches that were made are known. -/
theorem lt_length_of_badge? {badge : String × Bool} (h : r.badge? i = some badge) :
    i < r.caches.length := by
  obtain ⟨c, hc, -⟩ := Option.map_eq_some_iff.mp h
  exact (List.getElem?_eq_some_iff.mp hc).1

/-- What is found under a digest is registered under it. -/
theorem mem_of_holding? (hfound : r.holding? hash = some h) : h ∈ r.held ∧ h.hash = hash := by
  have hhash := List.find?_some hfound
  exact ⟨List.mem_of_find?_eq_some hfound, beq_iff_eq.mp hhash⟩

/-- Where nothing is found under a digest, nothing is registered under it. -/
theorem hash_ne_of_holding?_eq_none (h' : r.holding? hash = none) (hh : h ∈ r.held) :
    h.hash ≠ hash := by
  simpa using List.find?_eq_none.mp h' h hh

namespace Sound

variable (hr : r.Sound default)

include hr

/-- Nothing is registered twice under one digest. -/
theorem eq_of_hash_eq (hh : h ∈ r.held) (hh' : h' ∈ r.held) (heq : h.hash = h'.hash) : h = h' :=
  List.inj_on_of_nodup_map hr.nodup hh hh' heq

/-- Different holdings have different caches. -/
theorem eq_of_cache_eq (hh : h ∈ r.held) (hh' : h' ∈ r.held) (heq : h.cache = h'.cache) :
    h = h' := by
  have hbadge := (hr.registered h hh).2
  rw [heq, (hr.registered h' hh').2] at hbadge
  exact hr.eq_of_hash_eq hh hh' (Prod.ext_iff.mp (Option.some.inj hbadge)).1.symm

/-- What is registered is found under its digest. -/
theorem holding?_of_mem (hh : h ∈ r.held) : r.holding? h.hash = some h := by
  cases hfound : r.holding? h.hash with
  | none => exact absurd rfl (hash_ne_of_holding?_eq_none hfound hh)
  | some h' =>
      obtain ⟨hmem, heq⟩ := mem_of_holding? hfound
      rw [hr.eq_of_hash_eq hmem hh heq]

/-- The default cache is not registered. -/
theorem cache_ne_default (hh : h ∈ r.held) : h.cache ≠ defaultCache := by
  intro heq
  have hbadge := (hr.registered h hh).2
  rw [heq, hr.front] at hbadge
  exact absurd (Option.some.inj hbadge) (by simp)

/-- The default cache is given for no settings and for those that come to its own. -/
theorem sameSettings_iff (s : CacheSettings) :
    (r.cache? defaultCache).any (·.sameSettings s) = true ↔ s.hash = default := by
  obtain ⟨c, hc, hbadge⟩ := Option.map_eq_some_iff.mp hr.front
  obtain ⟨rfl, -⟩ := Prod.mk.inj hbadge
  rw [hc, Option.any_some, Cache.sameSettings, beq_iff_eq]

end Sound

/-! ### Taking a cache -/

/-- The registry with another number of holders of what is registered under a digest. -/
def adjust (r : Registry) (hash : String) (f : Nat → Nat) : Registry :=
  { r with
    held := r.held.map fun h => if h.hash == hash then { h with holders := f h.holders } else h }

/-- The registry with a new cache, which has one holder. -/
def register (r : Registry) (hash : String) (c : Cache) : Registry :=
  ⟨r.caches ++ [c], r.held ++ [⟨hash, r.caches.length, 1⟩]⟩

/-- What comes of a request for a cache. -/
inductive Resolved (r : Registry) (default : String) (settings : Option CacheSettings) :
    Except CacheError Nat × Registry → Prop where
  | default (h : hashOf default settings = default) :
      Resolved r default settings (.ok defaultCache, r)
  | shared {holding : Holding} (h : hashOf default settings ≠ default)
      (hfound : r.holding? (hashOf default settings) = some holding) :
      Resolved r default settings
        (.ok holding.cache, r.adjust (hashOf default settings) (· + 1))
  | made {c : Cache} (h : hashOf default settings ≠ default)
      (hnone : r.holding? (hashOf default settings) = none)
      (hhash : c.hash = hashOf default settings) (hprivate : c.isDefault = false) :
      Resolved r default settings
        (.ok r.caches.length, r.register (hashOf default settings) c)
  | failed {e : CacheError} (h : hashOf default settings ≠ default)
      (hnone : r.holding? (hashOf default settings) = none) :
      Resolved r default settings (.error e, r)

/-- **Taking.** What comes of a request for a cache. -/
theorem Sound.resolve_cases (hr : r.Sound default)
    (network : ServerAddress → Except RedisError RedisServer) (settings : Option CacheSettings) :
    Resolved r default settings (r.resolve network settings) := by
  cases settings with
  | none => exact .default rfl
  | some s =>
      by_cases hdefault : s.hash = default
      · rw [resolve, if_pos ((hr.sameSettings_iff s).mpr hdefault)]
        exact .default hdefault
      · rw [resolve, if_neg (mt (hr.sameSettings_iff s).mp hdefault)]
        cases hfound : r.holding? s.hash with
        | some h => exact .shared hdefault hfound
        | none =>
            cases hconnect : Cache.connect network s false with
            | error e => exact .failed hdefault hfound
            | ok c =>
                obtain ⟨hhash, hprivate⟩ := Cache.hash_of_connect hconnect
                exact .made hdefault hfound hhash hprivate

/-! ### One operation -/

/-- A cache that was there stays as it is when one is made. -/
theorem cache?_register (hi : r.cache? i = some c') : (r.register hash c).cache? i = some c' := by
  have hlt : i < r.caches.length := (List.getElem?_eq_some_iff.mp hi).1
  rw [cache?, register, List.getElem?_append_left hlt]
  exact hi

/-- The other caches are known as before when one is registered. -/
theorem badge?_register {badge : String × Bool} (h : r.badge? i = some badge) :
    (r.register hash c).badge? i = some badge := by
  obtain ⟨c', hc', rfl⟩ := Option.map_eq_some_iff.mp h
  exact badge?_of_cache? (cache?_register hc')

/-- The new one is known by its digest. -/
theorem badge?_register_length :
    (r.register hash c).badge? r.caches.length = some (c.hash, c.isDefault) := by
  refine badge?_of_cache? ?_
  rw [cache?, register, List.getElem?_concat_length]

/-- Of the caches only one becomes another. -/
theorem cache?_setCache (hc : r.cache? i = some c) :
    (r.setCache i c').cache? j = if i = j then some c' else r.cache? j := by
  have hlt : i < r.caches.length := (List.getElem?_eq_some_iff.mp hc).1
  rw [cache?, setCache, List.getElem?_set, if_pos hlt, cache?]

/-- A cache is known as before if its settings and its kind stay. -/
theorem badge?_setCache (hc : r.cache? i = some c) (hsettings : c'.settings = c.settings)
    (hdefault : c'.isDefault = c.isDefault) : (r.setCache i c').badge? j = r.badge? j := by
  rw [badge?, badge?, cache?_setCache hc]
  split
  · rename_i hij
    rw [← hij, hc, Option.map_some, Option.map_some, Cache.hash, Cache.hash, hsettings, hdefault]
  · rfl

/-- Work with a cache leaves all caches known as before. -/
theorem badge?_use (work : Cache → Cache) : (r.use i work).badge? j = r.badge? j := by
  unfold use
  split
  · rename_i c hc
    exact badge?_setCache hc rfl rfl
  · rfl

/-- The end of a cache leaves all caches known as before. -/
theorem badge?_destroyCache : (r.destroyCache i).badge? j = r.badge? j := by
  unfold destroyCache
  split
  · rename_i c hc
    exact badge?_setCache hc c.settings_destroy c.isDefault_destroy
  · rfl

/-- The end of a cache changes that cache and no other. -/
theorem cache?_destroyCache :
    (r.destroyCache i).cache? j = if i = j then (r.cache? i).map Cache.destroy else r.cache? j := by
  unfold destroyCache
  split
  · rename_i c hc
    rw [cache?_setCache hc, hc, Option.map_some]
  · rename_i hnone
    split
    · rename_i hij
      rw [← hij, hnone, Option.map_none]
    · rfl

/-- The end of a cache does not take it off the register. -/
theorem held_destroyCache : (r.destroyCache i).held = r.held := by
  unfold destroyCache
  split <;> rfl

/-- A registry in which a cache that was there keeps what it is known by. -/
theorem Sound.of_held (hr : r.Sound default) (hheld : ∀ h' ∈ r'.held, ∃ h ∈ r.held,
      h'.hash = h.hash ∧ h'.cache = h.cache)
    (hnodup : (r'.held.map (·.hash)).Nodup) (hbadge : ∀ i, r'.badge? i = r.badge? i) :
    r'.Sound default := by
  refine ⟨hbadge _ ▸ hr.front, fun h' hh' => ?_, hnodup⟩
  obtain ⟨h, hh, hhash, hcache⟩ := hheld h' hh'
  rw [hhash, hcache, hbadge]
  exact hr.registered h hh

/-- What is registered under a digest after an adjustment. -/
theorem holding?_adjust (r : Registry) (hash' : String) (f : Nat → Nat) (hash : String) :
    (r.adjust hash' f).holding? hash = (r.holding? hash).map fun h =>
      if h.hash == hash' then { h with holders := f h.holders } else h := by
  rw [holding?, holding?, adjust, List.find?_map]
  have hsame : ((fun h : Holding => h.hash == hash) ∘ fun h =>
      if h.hash == hash' then { h with holders := f h.holders } else h) =
      fun h => h.hash == hash := by
    funext h
    rw [Function.comp_apply]
    split <;> rfl
  rw [hsame]

/-- A change to the number of holders leaves the digests as they are. -/
theorem map_hash_adjust (r : Registry) (hash : String) (f : Nat → Nat) :
    (r.adjust hash f).held.map (·.hash) = r.held.map (·.hash) := by
  rw [adjust, List.map_map]
  refine List.map_congr_left fun h _ => ?_
  rw [Function.comp_apply]
  split <;> rfl

/-- A registry in order stays so when a number of holders changes. -/
theorem Sound.adjust (hr : r.Sound default) (hash : String) (f : Nat → Nat) :
    (r.adjust hash f).Sound default := by
  refine hr.of_held (fun h' hh' => ?_) (map_hash_adjust r hash f ▸ hr.nodup) fun i => rfl
  obtain ⟨h, hh, rfl⟩ := List.mem_map.mp hh'
  refine ⟨h, hh, ?_⟩
  split <;> exact ⟨rfl, rfl⟩

/-- The registry without what is registered under a digest. -/
def unregister (r : Registry) (hash : String) : Registry :=
  { r with held := r.held.filter (·.hash != hash) }

/-- A cache that is unregistered is not found. -/
theorem holding?_unregister (r : Registry) (hash : String) :
    (r.unregister hash).holding? hash = none := by
  simp [holding?, unregister]

/-- A registry in order stays so when a cache is unregistered. -/
theorem Sound.unregister (hr : r.Sound default) (hash : String) :
    (r.unregister hash).Sound default := by
  refine hr.of_held (fun h' hh' => ⟨h', (List.mem_filter.mp hh').1, rfl, rfl⟩) ?_ fun i => rfl
  exact hr.nodup.sublist (List.filter_sublist.map _)

/-- A registry in order stays so when a cache is destroyed. -/
theorem Sound.destroyCache (hr : r.Sound default) (i : Nat) :
    (r.destroyCache i).Sound default := by
  refine hr.of_held (fun h' hh' => ⟨h', held_destroyCache ▸ hh', rfl, rfl⟩) ?_
    fun _ => badge?_destroyCache
  rw [held_destroyCache]
  exact hr.nodup

/-- A registry in order stays so when someone works with a cache. -/
theorem Sound.use (hr : r.Sound default) (i : Nat) (work : Cache → Cache) :
    (r.use i work).Sound default := by
  have hheld : (r.use i work).held = r.held := by
    unfold Registry.use
    split <;> rfl
  refine hr.of_held (fun h' hh' => ⟨h', hheld ▸ hh', rfl, rfl⟩) ?_ fun _ => badge?_use work
  rw [hheld]
  exact hr.nodup

/-- A registry in order stays so when a cache is registered under a new digest. -/
theorem Sound.register (hr : r.Sound default) (hhash : hash ≠ default)
    (hnone : r.holding? hash = none) (hc : c.hash = hash) (hprivate : c.isDefault = false) :
    (r.register hash c).Sound default := by
  refine ⟨?_, fun h hh => ?_, ?_⟩
  · exact badge?_register hr.front
  · rcases List.mem_append.mp hh with hh | hh
    · obtain ⟨hne, hbadge⟩ := hr.registered h hh
      exact ⟨hne, badge?_register hbadge⟩
    · obtain rfl := List.mem_singleton.mp hh
      rw [badge?_register_length, hc, hprivate]
      exact ⟨hhash, rfl⟩
  · have hnew : hash ∉ r.held.map (·.hash) := by
      intro hmem
      obtain ⟨h, hh, heq⟩ := List.mem_map.mp hmem
      exact hash_ne_of_holding?_eq_none hnone hh heq
    rw [Registry.register, List.map_append]
    refine List.nodup_append.mpr ⟨hr.nodup, List.nodup_singleton _, ?_⟩
    rintro a ha b hb rfl
    obtain rfl : a = hash := List.mem_singleton.mp hb
    exact hnew ha

/-- A registry in order stays so when a cache is asked for. -/
theorem Sound.resolve (hr : r.Sound default)
    (network : ServerAddress → Except RedisError RedisServer) (settings : Option CacheSettings) :
    (r.resolve network settings).2.Sound default := by
  have hcases := hr.resolve_cases network settings
  generalize r.resolve network settings = result at hcases
  cases hcases with
  | default _ => exact hr
  | shared _ _ => exact hr.adjust _ (· + 1)
  | made hne hnone hhash hprivate => exact hr.register hne hnone hhash hprivate
  | failed _ _ => exact hr

/-- A cache that was there stays as it is when one is taken. -/
theorem Sound.cache?_resolve (hr : r.Sound default) (hc : r.cache? i = some c) :
    (r.resolve network settings).2.cache? i = some c := by
  have hcases := hr.resolve_cases network settings
  generalize r.resolve network settings = result at hcases
  cases hcases with
  | made _ _ _ _ => exact cache?_register hc
  | default _ | shared _ _ | failed _ _ => exact hc

/-- A request leaves all caches known as before. -/
theorem Sound.badge?_resolve {badge : String × Bool} (hr : r.Sound default)
    (h : r.badge? i = some badge) : (r.resolve network settings).2.badge? i = some badge := by
  obtain ⟨c, hc, rfl⟩ := Option.map_eq_some_iff.mp h
  exact badge?_of_cache? (hr.cache?_resolve hc)

/-- The cache that is given has the digest of the settings. -/
theorem Sound.badge?_of_resolve (hr : r.Sound default)
    (hok : (r.resolve network settings).1 = .ok i) :
    ∃ isDefault, (r.resolve network settings).2.badge? i =
      some (hashOf default settings, isDefault) := by
  have hcases := hr.resolve_cases network settings
  generalize r.resolve network settings = result at hcases hok
  cases hcases with
  | default heq =>
      obtain rfl := Except.ok.inj hok
      exact ⟨true, heq.symm ▸ hr.front⟩
  | shared _ hfound =>
      obtain rfl := Except.ok.inj hok
      obtain ⟨hh, hhash⟩ := mem_of_holding? hfound
      exact ⟨false, hhash ▸ (hr.registered _ hh).2⟩
  | made _ _ hhash _ =>
      obtain rfl := Except.ok.inj hok
      exact ⟨_, hhash ▸ badge?_register_length⟩
  | failed _ _ => exact absurd hok nofun

/-- What comes of giving back a cache with a digest. -/
inductive Removed (r : Registry) (hash : String) : Bool × Registry → Prop where
  | absent (hnone : r.holding? hash = none) : Removed r hash (false, r)
  | kept {h : Holding} (hfound : r.holding? hash = some h) (hmany : 1 < h.holders) :
      Removed r hash (false, r.adjust hash (· - 1))
  | last {h : Holding} (hfound : r.holding? hash = some h) (hlast : h.holders ≤ 1) :
      Removed r hash (true, (r.unregister hash).destroyCache h.cache)

/-- What comes of giving back a cache with a digest. -/
theorem removeHolder_cases (r : Registry) (hash : String) :
    Removed r hash (r.removeHolder hash) := by
  rw [removeHolder]
  cases hfound : r.holding? hash with
  | none => exact .absent hfound
  | some h =>
      simp only
      split
      · rename_i hmany
        exact .kept hfound hmany
      · rename_i hlast
        exact .last hfound (Nat.not_lt.mp hlast)

/-- A cache keeps what it is known by when one is given back. -/
theorem badge?_release : (r.release i).2.badge? j = r.badge? j := by
  rw [Registry.release]
  split
  · split
    · rfl
    · rename_i c _ _
      have hcases := r.removeHolder_cases c.hash
      generalize r.removeHolder c.hash = result at hcases
      cases hcases with
      | absent _ | kept _ _ => rfl
      | last _ _ => exact badge?_destroyCache
  · rfl

/-- A registry in order stays so when a holder goes. -/
theorem Sound.removeHolder (hr : r.Sound default) (hash : String) :
    (r.removeHolder hash).2.Sound default := by
  have hcases := r.removeHolder_cases hash
  generalize r.removeHolder hash = result at hcases
  cases hcases with
  | absent _ => exact hr
  | kept _ _ => exact hr.adjust hash (· - 1)
  | last _ _ => exact (hr.unregister hash).destroyCache _

/-- A registry in order stays so when a cache is given back. -/
theorem Sound.release (hr : r.Sound default) (i : Nat) : (r.release i).2.Sound default := by
  rw [Registry.release]
  split
  · split
    · exact hr
    · exact hr.removeHolder _
  · exact hr

/-- A registry in order stays so when several caches are destroyed. -/
theorem Sound.destroyCaches (hr : r.Sound default) (held : List Holding) :
    (held.foldl (fun r h => r.destroyCache h.cache) r).Sound default := by
  induction held generalizing r with
  | nil => exact hr
  | cons h held ih => exact ih (hr.destroyCache h.cache)

/-- A registry in order stays so when all caches are destroyed. -/
theorem Sound.destroyAll (hr : r.Sound default) : r.destroyAll.Sound default := by
  have hempty : ({ r with held := [] } : Registry).Sound default :=
    ⟨hr.front, nofun, List.nodup_nil⟩
  exact (hempty.destroyCaches r.held).destroyCache defaultCache

/-- **One operation.** -/
theorem Sound.perform (hr : r.Sound default) (op : RegistryOp) : (r.perform op).Sound default := by
  cases op with
  | resolve network settings => exact hr.resolve network settings
  | release i => exact hr.release i
  | destroyAll => exact hr.destroyAll
  | use i work => exact hr.use i work

/-- **Runs.** A registry in order stays so whatever its users do. -/
theorem Sound.run (hr : r.Sound default) (ops : List RegistryOp) : (r.run ops).Sound default := by
  induction ops generalizing r with
  | nil => exact hr
  | cons op ops ih => exact ih (hr.perform op)

/-- A new registry. -/
theorem sound_connect {settings : CacheSettings} (h : connect network settings = .ok r) :
    r.Sound settings.hash := by
  unfold connect at h
  cases hc : Cache.connect network settings true with
  | error e => rw [hc] at h; exact absurd h nofun
  | ok c =>
      rw [hc] at h
      obtain rfl := Except.ok.inj h
      obtain ⟨hhash, hdefault⟩ := Cache.hash_of_connect hc
      refine ⟨?_, nofun, List.nodup_nil⟩
      rw [← hhash, ← hdefault]
      rfl

/-! ### A small registry -/

/-- A registry with a memory cache as its default. -/
def plain : Registry := ofDefault (.ofBackend (.memory (.new 500)) .memory true)

/-- A network without servers. -/
def noServers : ServerAddress → Except RedisError RedisServer := fun _ => .error .unreachable

/-- The settings of the small registry give its default cache. -/
theorem connect_plain : connect noServers .memory = .ok plain := rfl

end Registry

end Deferral

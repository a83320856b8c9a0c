import Deferral.Proofs.Tenancy.Step

/-!
# Holds of containers

A container that is made with settings of its own shares a cache with those that were made with
equivalent ones, until it is destroyed for the first time. The cache stays registered while one of
them is left, and goes with the last. Containers may be destroyed again, be made anew, or fail to be
made, in any order. When a cache goes, its timer stops, and what a memory cache has is dropped; the
data of a server stay, since others may share them.

## Main results

* `Kept.isSome_holding?_iff`, `Kept.holders_eq` — what is registered, and with how many holders;
* `Kept.destroy_last`, `Kept.destroy_other` — what the destruction of a container does to caches;
* `holdsCounted_run` — all of it, for any sequence of events.
-/

namespace Deferral

namespace Tenancy

variable {t : Tenancy} {default hash : String} {i j : Nat} {l : Lease} {c : Container} {h : Holding}
  {network : ServerAddress → Except RedisError RedisServer} {name : String}
  {settings : DispatchSettings} {cache : Option CacheSettings}

/-- How many containers that have not been destroyed were made with settings of a digest. -/
def users (t : Tenancy) (default hash : String) : Nat := t.leases.countP (·.uses default hash)

/-- A container uses a cache until it is destroyed. -/
theorem uses_iff : l.uses default hash = true ↔
    l.isOver = false ∧ hashOf default l.settings = hash := by
  rw [Lease.uses, Bool.and_eq_true, Bool.not_eq_true', beq_iff_eq]

namespace Kept

variable (hkept : t.Kept default)

include hkept

/-- The cache of a container in use is registered under the digest of its settings, if that is not
the one of the default cache. -/
theorem exists_held (hc : t.host.container? i = some c) (hfits : l.Fits t.registry default c)
    (hne : hash ≠ default) (huses : l.uses default hash = true) :
    ∃ h ∈ t.registry.held, h.hash = hash ∧ h.cache = c.cache := by
  obtain ⟨hlive, rfl⟩ := uses_iff.mp huses
  obtain ⟨isDefault, hbadge⟩ := hfits.badge
  have hhold := Host.mem_holds hc (hfits.released.trans hlive)
  rcases hkept.counted.covers _ hhold with hzero | ⟨h, hh, heq⟩
  · rw [hzero, hkept.sound.front] at hbadge
    exact absurd (Prod.mk.inj (Option.some.inj hbadge)).1.symm hne
  · rw [← heq, (hkept.sound.registered h hh).2] at hbadge
    exact ⟨h, hh, (Prod.mk.inj (Option.some.inj hbadge)).1, heq⟩

/-- A container uses a registered cache if it has it and has not given it back. -/
theorem uses_iff_cache_eq (hc : t.host.container? i = some c) (hfits : l.Fits t.registry default c)
    (hh : h ∈ t.registry.held) :
    l.uses default h.hash = true ↔ c.isReleased = false ∧ c.cache = h.cache := by
  obtain ⟨hne, hbadge⟩ := hkept.sound.registered h hh
  constructor
  · intro huses
    obtain ⟨h', hh', hhash, hcache⟩ := hkept.exists_held hc hfits hne huses
    obtain rfl := hkept.sound.eq_of_hash_eq hh' hh hhash
    exact ⟨hfits.released.trans (uses_iff.mp huses).1, hcache.symm⟩
  · rintro ⟨hlive, hcache⟩
    obtain ⟨isDefault, hbadge'⟩ := hfits.badge
    rw [hcache, hbadge] at hbadge'
    exact uses_iff.mpr ⟨hfits.released.symm.trans hlive,
      (Prod.mk.inj (Option.some.inj hbadge')).1.symm⟩

/-- As many containers use a registered cache as have holds of it. -/
theorem users_eq (hh : h ∈ t.registry.held) :
    t.users default h.hash = (Container.holds t.host.containers).count h.cache := by
  -- Container by container, its lease uses the digest exactly if it has a hold of the cache.
  have hpairs : List.Forall₂ (fun c l => c ∈ t.host.containers ∧ l.Fits t.registry default c)
      t.host.containers t.leases := (List.forall₂_and_left _ _).mpr ⟨fun _ hc => hc, hkept.fits⟩
  have hsame : List.Forall₂ (fun (c : Container) (l : Lease) =>
      (!c.isReleased && c.cache == h.cache) = l.uses default h.hash)
      t.host.containers t.leases := by
    refine hpairs.imp fun c l ⟨hmem, hfits⟩ => ?_
    obtain ⟨i, hc⟩ := List.getElem?_of_mem hmem
    rw [Bool.eq_iff_iff, hkept.uses_iff_cache_eq hc hfits hh, Bool.and_eq_true,
      Bool.not_eq_true', beq_iff_eq]
  rw [users, ← countP_eq_of_forall₂ hsame, Container.holds, List.count, List.countP_map,
    List.countP_filter]
  refine List.countP_congr fun c _ => ?_
  rw [Bool.and_comm]
  rfl

/-- A registered cache has as many holders as users. -/
theorem holders_eq (hh : h ∈ t.registry.held) : h.holders = t.users default h.hash :=
  (hkept.counted.counts h hh).trans (hkept.users_eq hh).symm

/-- A registered cache is that of every container that uses its settings. -/
theorem container_of_uses (hh : h ∈ t.registry.held) (hl : t.leases[i]? = some l)
    (huses : l.uses default h.hash = true) :
    ∃ c, t.host.container? i = some c ∧ c.isReleased = false ∧ c.cache = h.cache := by
  obtain ⟨c, hc, hfits⟩ := forall₂_getElem? hkept.fits hl
  exact ⟨c, hc, (hkept.uses_iff_cache_eq hc hfits hh).mp huses⟩

/-- A cache is registered exactly as long as it is used. -/
theorem isSome_holding?_iff (hne : hash ≠ default) :
    (t.registry.holding? hash).isSome = true ↔ ∃ l ∈ t.leases, l.uses default hash = true := by
  constructor
  · intro hsome
    obtain ⟨h, hfound⟩ := Option.isSome_iff_exists.mp hsome
    obtain ⟨hh, rfl⟩ := Registry.mem_of_holding? hfound
    have hpos := hkept.counted.positive h hh
    rw [hkept.holders_eq hh] at hpos
    exact List.countP_pos_iff.mp hpos
  · rintro ⟨l, hl, huses⟩
    obtain ⟨i, hi⟩ := List.getElem?_of_mem hl
    obtain ⟨c, hc, hfits⟩ := forall₂_getElem? hkept.fits hi
    obtain ⟨h, hh, rfl, -⟩ := hkept.exists_held hc hfits hne huses
    rw [hkept.sound.holding?_of_mem hh]
    rfl

/-! ### Making a container -/

/-- A container that could not be made leaves the host as it was. -/
theorem addContainer_error {e : CacheError}
    (he : (t.host.addContainer network name settings cache).1 = .error e) :
    (t.host.addContainer network name settings cache).2 = t.host := by
  cases hresolve : (t.host.registry.resolve network cache).1 with
  | error e' => rw [Host.addContainer_of_error hkept.sound hresolve]
  | ok i => rw [Host.addContainer_of_ok hresolve] at he; exact absurd he nofun

/-- A new container leaves every cache that was there as it was, but for a timer. -/
theorem timed_addContainer {k : Nat} {c : Cache} (hc : t.registry.cache? k = some c) :
    ∃ c', (t.host.addContainer network name settings cache).2.registry.cache? k = some c' ∧
      c.Timed c' := by
  cases hresolve : (t.host.registry.resolve network cache).1 with
  | error e =>
      rw [Host.addContainer_of_error hkept.sound hresolve]
      exact ⟨c, hc, .inl rfl⟩
  | ok i =>
      have hkeeps : (t.host.registry.resolve network cache).2.cache? k = some c :=
        hkept.sound.cache?_resolve hc
      rw [Host.addContainer_of_ok hresolve, Host.use_setTimer]
      cases hi : (t.host.registry.resolve network cache).2.cache? i with
      | none => exact ⟨c, hkeeps, .inl rfl⟩
      | some cᵢ =>
          simp only [Registry.cache?_setCache hi]
          split
          · rename_i hik
            obtain rfl : cᵢ = c := Option.some.inj (hi.symm.trans (hik ▸ hkeeps))
            exact ⟨_, rfl, cᵢ.timed_setPruneTimer _ _⟩
          · exact ⟨c, hkeeps, .inl rfl⟩

/-! ### Destroying a container -/

/-- The last container that uses a cache takes it with it. -/
theorem destroy_last (hl : t.leases[i]? = some l) (hlive : l.isOver = false)
    (hne : hashOf default l.settings ≠ default)
    (hlast : t.users default (hashOf default l.settings) = 1) :
    ∃ h ∈ t.registry.held, h.hash = hashOf default l.settings ∧
      (t.host.destroy i).registry = (t.registry.unregister h.hash).destroyCache h.cache := by
  obtain ⟨c, hc, hfits⟩ := forall₂_getElem? hkept.fits hl
  have hreleased : c.isReleased = false := hfits.released.trans hlive
  obtain ⟨h, hh, hhash, hcache⟩ := hkept.exists_held hc hfits hne
    (uses_iff.mpr ⟨hlive, rfl⟩)
  rw [← hhash, hkept.users_eq hh] at hlast
  refine ⟨h, hh, hhash, ?_⟩
  have hcases := hkept.counted.release_cases hkept.sound (Host.mem_holds hc hreleased)
  rw [registry_destroy hc hreleased]
  rw [← hcache] at hcases ⊢
  generalize t.registry.release h.cache = result at hcases
  cases hcases with
  | default hzero => exact absurd hzero (hkept.sound.cache_ne_default hh)
  | kept _ _ hmany => omega
  | last hh' heq _ =>
      obtain rfl := hkept.sound.eq_of_cache_eq hh' hh heq
      rfl

/-- Any other container leaves all caches as they were. -/
theorem destroy_other (hother : ∀ l, t.leases[i]? = some l → l.isOver = true ∨
      hashOf default l.settings = default ∨ t.users default (hashOf default l.settings) ≠ 1) :
    (t.host.destroy i).registry.caches = t.registry.caches := by
  cases hl : t.leases[i]? with
  | none => rw [hkept.destroy_of_none hl, registry]
  | some l =>
      obtain ⟨c, hc, hfits⟩ := forall₂_getElem? hkept.fits hl
      by_cases hreleased : c.isReleased = true
      · rw [Host.destroy_eq hc, if_pos hreleased]
        rfl
      · rw [Bool.not_eq_true] at hreleased
        have hcases := hkept.counted.release_cases hkept.sound (Host.mem_holds hc hreleased)
        rw [registry_destroy hc hreleased]
        generalize t.registry.release c.cache = result at hcases
        cases hcases with
        | default _ | kept _ _ _ => rfl
        | @last h hh hcache hone =>
            -- So it was the last one that uses the cache.
            have huses := (hkept.uses_iff_cache_eq hc hfits hh).mpr
              ⟨hreleased, hcache.symm⟩
            obtain ⟨hopen, hhash⟩ := uses_iff.mp huses
            rcases hother l hl with hover | hdefault | hmany
            · rw [hopen] at hover
              exact absurd hover Bool.false_ne_true
            · exact absurd (hhash.symm.trans hdefault) (hkept.sound.registered h hh).1
            · rw [hhash, hkept.users_eq hh, hcache] at hmany
              exact absurd hone hmany

/-! ### The default cache -/

/-- The default cache is as before when a container is made. -/
theorem default_addContainer :
    (t.host.addContainer network name settings cache).2.registry.cache? Registry.defaultCache =
      t.registry.cache? Registry.defaultCache := by
  obtain ⟨c, hc, hbadge⟩ := Option.map_eq_some_iff.mp hkept.sound.front
  obtain ⟨c', hc', htimed⟩ := hkept.timed_addContainer hc
  rw [hc, hc']
  rcases htimed with rfl | ⟨hprivate, -⟩
  · rfl
  · rw [(Prod.mk.inj hbadge).2] at hprivate
    exact absurd hprivate (by decide)

/-- The default cache is as before when a container is destroyed. -/
theorem default_destroy :
    (t.host.destroy i).registry.cache? Registry.defaultCache =
      t.registry.cache? Registry.defaultCache := by
  by_cases hlast : ∃ l, t.leases[i]? = some l ∧ l.isOver = false ∧
      hashOf default l.settings ≠ default ∧ t.users default (hashOf default l.settings) = 1
  · obtain ⟨l, hl, hlive, hne, hone⟩ := hlast
    obtain ⟨h, hh, -, hafter⟩ := hkept.destroy_last hl hlive hne hone
    rw [hafter, Registry.cache?_destroyCache, if_neg (hkept.sound.cache_ne_default hh)]
    rfl
  · have hcaches := hkept.destroy_other (i := i) fun l hl => by
      by_contra hnone
      simp only [not_or, Bool.not_eq_true] at hnone
      exact hlast ⟨l, hl, hnone.1, hnone.2.1, not_not.mp hnone.2.2⟩
    rw [Registry.cache?, hcaches, Registry.cache?]

end Kept

/-- What is true of the caches of containers, where `default` is the digest of the default cache. -/
structure HoldsCounted (t : Tenancy) (default : String) : Prop where
  /-- A cache is registered as long as a container that uses it has not been destroyed. -/
  registered : ∀ hash, hash ≠ default →
    ((t.registry.holding? hash).isSome = true ↔ ∃ l ∈ t.leases, l.uses default hash = true)
  /-- Its holders are as many as these containers, -/
  holders : ∀ hash h, t.registry.holding? hash = some h → h.holders = t.users default hash
  /-- and they all have the one cache. -/
  cache : ∀ hash h i l, t.registry.holding? hash = some h → t.leases[i]? = some l →
    l.uses default hash = true → ∃ c, t.host.container? i = some c ∧ c.cache = h.cache
  /-- The default cache is not registered, so it cannot be unregistered, -/
  default_apart : t.registry.badge? Registry.defaultCache = some (default, true) ∧
    t.registry.holding? default = none
  /-- and it stays as it is when containers are made and destroyed. -/
  default_create : ∀ network name settings cache,
    (t.host.addContainer network name settings cache).2.registry.cache? Registry.defaultCache =
      t.registry.cache? Registry.defaultCache
  default_destroy : ∀ i,
    (t.host.destroy i).registry.cache? Registry.defaultCache =
      t.registry.cache? Registry.defaultCache
  /-- A container that cannot be made changes nothing. -/
  create_error : ∀ network name settings cache e,
    (t.host.addContainer network name settings cache).1 = .error e →
      (t.host.addContainer network name settings cache).2 = t.host
  /-- A container that is made may set the timer of a cache, and does nothing else to any that was
  there. -/
  create_timed : ∀ network name settings cache k c, t.registry.cache? k = some c →
    ∃ c', (t.host.addContainer network name settings cache).2.registry.cache? k = some c' ∧
      c.Timed c'
  /-- The last container that uses a cache unregisters and ends it when it is destroyed: the timer
  stops, and a memory cache loses what it has. No other cache is touched. -/
  destroy_last : ∀ i l, t.leases[i]? = some l → l.isOver = false →
    hashOf default l.settings ≠ default → t.users default (hashOf default l.settings) = 1 →
    ∃ h c, t.registry.holding? (hashOf default l.settings) = some h ∧
      t.registry.cache? h.cache = some c ∧
      (t.host.destroy i).registry.holding? (hashOf default l.settings) = none ∧
      (t.host.destroy i).registry.cache? h.cache = some c.destroy ∧ c.Ended c.destroy ∧
      ∀ k, k ≠ h.cache → (t.host.destroy i).registry.cache? k = t.registry.cache? k
  /-- Any other leaves all caches as they are: one that has been destroyed before, one with the
  default cache, and one of several that use a cache. -/
  destroy_other : ∀ i, (∀ l, t.leases[i]? = some l → l.isOver = true ∨
      hashOf default l.settings = default ∨ t.users default (hashOf default l.settings) ≠ 1) →
    (t.host.destroy i).registry.caches = t.registry.caches

/-- A tenancy in order has its holds counted. -/
theorem Kept.holdsCounted (hkept : t.Kept default) : t.HoldsCounted default where
  registered hash hne := hkept.isSome_holding?_iff hne
  holders hash h hfound := by
    obtain ⟨hh, rfl⟩ := Registry.mem_of_holding? hfound
    exact hkept.holders_eq hh
  cache hash h i l hfound hl huses := by
    obtain ⟨hh, rfl⟩ := Registry.mem_of_holding? hfound
    obtain ⟨c, hc, -, hcache⟩ := hkept.container_of_uses hh hl huses
    exact ⟨c, hc, hcache⟩
  default_apart := by
    refine ⟨hkept.sound.front, Option.eq_none_iff_forall_ne_some.mpr fun h hfound => ?_⟩
    obtain ⟨hh, hhash⟩ := Registry.mem_of_holding? hfound
    exact (hkept.sound.registered h hh).1 hhash
  default_create _ _ _ _ := hkept.default_addContainer
  default_destroy _ := hkept.default_destroy
  create_error _ _ _ _ _ he := hkept.addContainer_error he
  create_timed _ _ _ _ _ _ hc := hkept.timed_addContainer hc
  destroy_last i l hl hlive hne hlast := by
    obtain ⟨h, hh, hhash, hafter⟩ := hkept.destroy_last hl hlive hne hlast
    obtain ⟨c, hc, hbadge⟩ := Option.map_eq_some_iff.mp (hkept.sound.registered h hh).2
    have hprivate : c.isDefault = false := (Prod.mk.inj hbadge).2
    rw [← hhash, hafter]
    refine ⟨h, c, hkept.sound.holding?_of_mem hh, hc, ?_, ?_, Cache.ended_destroy hprivate,
      fun k hk => ?_⟩
    · rw [Registry.holding?, Registry.held_destroyCache]
      exact Registry.holding?_unregister _ _
    · rw [Registry.cache?_destroyCache, if_pos rfl]
      exact congrArg (Option.map Cache.destroy) hc
    · rw [Registry.cache?_destroyCache, if_neg hk.symm]
      rfl
  destroy_other i hother := hkept.destroy_other hother

/-- **Holds are counted exactly.** Let containers be made and destroyed in any order, with any
settings and any caches that can be had or not, and let their caches be used in between. -/
theorem holdsCounted_run {d : CacheSettings} {r : Registry}
    (hr : Registry.connect network d = .ok r) (start : Instant) (events : List TenancyEvent) :
    ((new r start).run events).HoldsCounted d.hash :=
  ((kept_new hr start).run events).holdsCounted

/-- A server on which a key with its value is kept. -/
def oneKept : RedisServer := ⟨[("p:k", ['1'])], fun keys => [keys], []⟩

/-- Settings of a cache over a server. -/
def serverSettings : CacheSettings := { CacheSettings.memory with store := .redis }

/-- Two containers share a cache, one has the default cache, one cannot be made, and one has a cache
over a server. The first is destroyed twice. -/
def twoUsers : List TenancyEvent :=
  let create (name : String) (cache : Option CacheSettings) : TenancyEvent :=
    .create Registry.noServers name .standard cache
  [
    create "a" (some (.withKeyHead "p:")), create "b" (some (.withKeyHead "p:")), create "c" none,
    create "d" (some serverSettings),
    .create (fun _ => .ok oneKept) "e" .standard (some serverSettings),
    .use 1 fun c => (c.set 0 "key" .null none).2, .destroy 0, .destroy 0
  ]

/-- The second still has its cache with what is in it; with the second it goes. The cache over the
server goes with its only container, and the server keeps its data. -/
theorem holdsCounted_run_twoUsers :
    let t := (new Registry.plain .epoch).run twoUsers
    let hash := (CacheSettings.withKeyHead "p:").hash
    t.leases =
        [⟨some (.withKeyHead "p:"), true⟩, ⟨some (.withKeyHead "p:"), false⟩, ⟨none, false⟩,
          ⟨some serverSettings, false⟩] ∧
      t.registry.holding? hash = some ⟨hash, 1, 1⟩ ∧
      (t.registry.cache? 1).map (·.backend.keptKeys) = some ["p:key"] ∧
      (t.host.destroy 1).registry.holding? hash = none ∧
      ((t.host.destroy 1).registry.cache? 1).map (·.backend.keptKeys) = some [] ∧
      (t.host.destroy 3).registry.holding? serverSettings.hash = none ∧
      ((t.host.destroy 3).registry.cache? 2).map (·.backend.keptKeys) = some ["p:k"] := by
  intro t hash
  have hstate : t.leases =
        [⟨some (.withKeyHead "p:"), true⟩, ⟨some (.withKeyHead "p:"), false⟩, ⟨none, false⟩,
          ⟨some serverSettings, false⟩] ∧
      t.registry.holding? hash = some ⟨hash, 1, 1⟩ ∧
      (t.registry.cache? 1).map (fun c => (c.backend.kind, c.backend.keptKeys)) =
        some (.memory, ["p:key"]) ∧
      t.registry.holding? serverSettings.hash = some ⟨serverSettings.hash, 2, 1⟩ ∧
      (t.registry.cache? 2).map (fun c => (c.backend.kind, c.backend.keptKeys)) =
        some (.redis, ["p:k"]) := by decide +kernel
  have hlast : (hash ≠ CacheSettings.memory.hash ∧ t.users CacheSettings.memory.hash hash = 1) ∧
      serverSettings.hash ≠ CacheSettings.memory.hash ∧
        t.users CacheSettings.memory.hash serverSettings.hash = 1 := by
    decide +kernel
  obtain ⟨hleases, hholding, hmemory, hserving, hserver⟩ := hstate
  have hcounted := holdsCounted_run Registry.connect_plain .epoch twoUsers
  obtain ⟨h, c, hfound, hc, hnone, hafter, hended, -⟩ := hcounted.destroy_last 1
    ⟨some (.withKeyHead "p:"), false⟩ (by rw [hleases]; rfl) rfl hlast.1.1 hlast.1.2
  obtain rfl : ⟨hash, 1, 1⟩ = h := Option.some.inj (hholding.symm.trans hfound)
  obtain ⟨hkind, hkept⟩ := Prod.mk.inj (Option.some.inj ((congrArg _ hc).symm.trans hmemory))
  obtain ⟨g, d, hfound', hd, hnone', hafter', hended', -⟩ := hcounted.destroy_last 3
    ⟨some serverSettings, false⟩ (by rw [hleases]; rfl) rfl hlast.2.1 hlast.2.2
  obtain rfl : ⟨serverSettings.hash, 2, 1⟩ = g := Option.some.inj (hserving.symm.trans hfound')
  obtain ⟨hkind', hkept'⟩ := Prod.mk.inj (Option.some.inj ((congrArg _ hd).symm.trans hserver))
  refine ⟨hleases, hholding, ?_, hnone, ?_, hnone', ?_⟩
  · rw [hc, Option.map_some, hkept]
  · rw [hafter, Option.map_some, hended.emptied hkind]
  · rw [hafter', Option.map_some, hended'.untouched (by rw [hkind']; decide), hkept']

/-- The only container of a cache over a server is destroyed, and what the cache has is not
cleared. -/
theorem not_emptied_destroy_server :
    let t := (new Registry.plain .epoch).run
      [.create (fun _ => .ok oneKept) "e" .standard (some serverSettings)]
    let hash := serverSettings.hash
    hash ≠ CacheSettings.memory.hash ∧ t.users CacheSettings.memory.hash hash = 1 ∧
      t.registry.holding? hash = some ⟨hash, 1, 1⟩ ∧
      (t.registry.cache? 1).map (·.backend.keptKeys) = some ["p:k"] ∧
      (t.host.destroy 0).registry.holding? hash = none ∧
      ¬ ((t.host.destroy 0).registry.cache? 1).map (·.backend.keptKeys) = some [] := by
  decide +kernel

end Tenancy

end Deferral

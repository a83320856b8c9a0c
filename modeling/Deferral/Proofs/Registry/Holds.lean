import Deferral.Proofs.Registry.Sound
import Mathlib.Data.List.Count

/-!
# Holds

Who takes a cache from a registry has a hold of it until it is given back. As long as holds are
given back once each and the caches are not all destroyed at once, the registry counts them exactly:
a cache other than the default one is registered as long as there is a hold of it, and destroyed
when the last one is given back.

## Main results

* `Counted.resolve` — who takes a cache has one hold more;
* `Counted.release_cases` — what comes of giving back a hold;
* `Counted.release` — a hold that was given back is counted no longer.
-/

namespace Deferral

namespace Registry

variable {r r' : Registry} {default hash : String} {h h' : Holding} {i j : Nat} {c : Cache}
  {holds : List Nat} {network : ServerAddress → Except RedisError RedisServer}
  {settings : Option CacheSettings}

/-- A registry that counts holds, which are given by the numbers of their caches. -/
structure Counted (r : Registry) (holds : List Nat) : Prop where
  counts : ∀ h ∈ r.held, h.holders = holds.count h.cache
  positive : ∀ h ∈ r.held, 0 < h.holders
  covers : ∀ i ∈ holds, i = defaultCache ∨ ∃ h ∈ r.held, h.cache = i

/-- Nobody holds a cache of a new registry. -/
theorem counted_connect {s : CacheSettings} (hr : connect network s = .ok r) : r.Counted [] := by
  unfold connect at hr
  cases hc : Cache.connect network s true with
  | error e => rw [hc] at hr; exact absurd hr nofun
  | ok c =>
      rw [hc] at hr
      obtain rfl := Except.ok.inj hr
      exact ⟨nofun, nofun, nofun⟩

/-- The order of the holds does not matter. -/
theorem Counted.perm {holds' : List Nat} (hcounted : r.Counted holds) (hp : holds.Perm holds') :
    r.Counted holds' :=
  ⟨fun h hh => hp.count_eq h.cache ▸ hcounted.counts h hh, hcounted.positive,
    fun i hi => hcounted.covers i (hp.mem_iff.mpr hi)⟩

/-! ### Taking -/

/-- A hold of the default cache is not counted. -/
theorem Counted.takeDefault (hcounted : r.Counted holds) (hr : r.Sound default) :
    r.Counted (defaultCache :: holds) := by
  refine ⟨fun h hh => ?_, hcounted.positive, fun i hi => ?_⟩
  · rw [List.count_cons_of_ne (hr.cache_ne_default hh).symm]
    exact hcounted.counts h hh
  · rcases List.mem_cons.mp hi with rfl | hi
    · exact .inl rfl
    · exact hcounted.covers i hi

/-- What is registered after an adjustment, with what it was before. -/
theorem mem_adjust {f : Nat → Nat} (hh' : h' ∈ (r.adjust hash f).held) :
    ∃ h ∈ r.held, h'.hash = h.hash ∧ h'.cache = h.cache ∧
      h'.holders = if h.hash = hash then f h.holders else h.holders := by
  obtain ⟨h, hh, rfl⟩ := List.mem_map.mp hh'
  refine ⟨h, hh, ?_⟩
  by_cases heq : h.hash = hash
  · simp [heq]
  · simp [heq]

/-- A change to the number of holders leaves the caches registered. -/
theorem mem_adjust_of_mem {f : Nat → Nat} (hh : h ∈ r.held) :
    ∃ h' ∈ (r.adjust hash f).held, h'.cache = h.cache := by
  refine ⟨_, List.mem_map.mpr ⟨h, hh, rfl⟩, ?_⟩
  split <;> rfl

/-- The registry goes on to count holds when one number of holders and the holds of its cache change
alike. -/
theorem Counted.adjust {holds' : List Nat} {f : Nat → Nat} (hcounted : r.Counted holds)
    (hr : r.Sound default) (hh : h ∈ r.held)
    (hself : holds'.count h.cache = f (holds.count h.cache)) (hpos : 0 < holds'.count h.cache)
    (hother : ∀ i, i ≠ h.cache → holds'.count i = holds.count i) :
    (r.adjust h.hash f).Counted holds' := by
  -- Digests and caches correspond, so only the cache at hand is counted anew.
  have hboth : ∀ h₂ ∈ (r.adjust h.hash f).held,
      h₂.holders = holds'.count h₂.cache ∧ 0 < h₂.holders := by
    intro h₂ hh₂
    obtain ⟨h₁, hh₁, -, hcache, hholders⟩ := mem_adjust hh₂
    have hcount := hcounted.counts h₁ hh₁
    rw [hcache, hholders]
    by_cases heq : h₁.hash = h.hash
    · obtain rfl := hr.eq_of_hash_eq hh₁ hh heq
      rw [if_pos rfl, hcount, ← hself]
      exact ⟨rfl, hpos⟩
    · have hne : h₁.cache ≠ h.cache := fun h' =>
        heq (congrArg Holding.hash (hr.eq_of_cache_eq hh₁ hh h'))
      rw [if_neg heq, hother _ hne]
      exact ⟨hcount, hcounted.positive h₁ hh₁⟩
  refine ⟨fun h₂ hh₂ => (hboth h₂ hh₂).1, fun h₂ hh₂ => (hboth h₂ hh₂).2, fun i hi => ?_⟩
  have hcovered : i = defaultCache ∨ ∃ h ∈ r.held, h.cache = i := by
    by_cases heq : i = h.cache
    · exact .inr ⟨h, hh, heq.symm⟩
    · refine hcounted.covers i (List.count_pos_iff.mp ?_)
      rw [← hother i heq]
      exact List.count_pos_iff.mpr hi
  refine hcovered.imp_right ?_
  rintro ⟨h₁, hh₁, rfl⟩
  exact mem_adjust_of_mem hh₁

/-- One more hold of a registered cache is one more holder. -/
theorem Counted.takeShared (hcounted : r.Counted holds) (hr : r.Sound default) (hh : h ∈ r.held) :
    (r.adjust h.hash (· + 1)).Counted (h.cache :: holds) := by
  refine hcounted.adjust hr hh List.count_cons_self ?_ fun i hi => List.count_cons_of_ne hi.symm
  rw [List.count_cons_self]
  exact Nat.succ_pos _

/-- A cache that was made for a hold has one holder. -/
theorem Counted.takeMade (hcounted : r.Counted holds) (hr : r.Sound default) (hash : String)
    (c : Cache) : (r.register hash c).Counted (r.caches.length :: holds) := by
  have hlt {h : Holding} (hh : h ∈ r.held) : h.cache < r.caches.length :=
    lt_length_of_badge? (hr.registered h hh).2
  have hnew : r.caches.length ∉ holds := by
    intro hmem
    rcases hcounted.covers _ hmem with hzero | ⟨h, hh, heq⟩
    · have hfront := lt_length_of_badge? hr.front
      omega
    · have hold := hlt hh
      omega
  refine ⟨fun h hh => ?_, fun h hh => ?_, fun i hi => ?_⟩
  · rcases List.mem_append.mp hh with hh | hh
    · rw [List.count_cons_of_ne (Nat.ne_of_gt (hlt hh)), hcounted.counts h hh]
    · obtain rfl := List.mem_singleton.mp hh
      rw [List.count_cons_self, List.count_eq_zero_of_not_mem hnew]
  · rcases List.mem_append.mp hh with hh | hh
    · exact hcounted.positive h hh
    · obtain rfl := List.mem_singleton.mp hh
      exact Nat.one_pos
  · rcases List.mem_cons.mp hi with rfl | hi
    · exact .inr ⟨_, List.mem_append_right _ (List.mem_singleton.mpr rfl), rfl⟩
    · refine (hcounted.covers i hi).imp_right ?_
      rintro ⟨h, hh, rfl⟩
      exact ⟨h, List.mem_append_left _ hh, rfl⟩

/-- **Taking a cache.** Who gets one has a hold of it. -/
theorem Counted.resolve (hcounted : r.Counted holds) (hr : r.Sound default)
    (hok : (r.resolve network settings).1 = .ok i) :
    (r.resolve network settings).2.Counted (i :: holds) := by
  have hcases := hr.resolve_cases network settings
  generalize r.resolve network settings = result at hcases hok
  cases hcases with
  | default _ =>
      obtain rfl := Except.ok.inj hok
      exact hcounted.takeDefault hr
  | shared _ hfound =>
      obtain rfl := Except.ok.inj hok
      obtain ⟨hh, hhash⟩ := mem_of_holding? hfound
      rw [← hhash]
      exact hcounted.takeShared hr hh
  | made _ _ _ _ =>
      obtain rfl := Except.ok.inj hok
      exact hcounted.takeMade hr _ _
  | failed _ _ => exact absurd hok nofun

/-! ### Giving back -/

/-- A cache that is not the default one is given back by its digest. -/
theorem release_of_badge? (h : r.badge? i = some (hash, false)) :
    r.release i = r.removeHolder hash := by
  obtain ⟨c, hc, hbadge⟩ := Option.map_eq_some_iff.mp h
  obtain ⟨rfl, hprivate⟩ := Prod.mk.inj hbadge
  rw [release, hc]
  exact if_neg (by rw [hprivate]; exact Bool.false_ne_true)

/-- Giving back the default cache does nothing. -/
theorem release_of_badge?_default (h : r.badge? i = some (hash, true)) :
    r.release i = (false, r) := by
  obtain ⟨c, hc, hbadge⟩ := Option.map_eq_some_iff.mp h
  obtain ⟨-, hdefault⟩ := Prod.mk.inj hbadge
  rw [release, hc]
  exact if_pos hdefault

/-- What comes of giving a cache back that someone has a hold of. -/
inductive GivenBack (r : Registry) (holds : List Nat) (i : Nat) : Bool × Registry → Prop where
  | default (hi : i = defaultCache) : GivenBack r holds i (false, r)
  | kept {h : Holding} (hh : h ∈ r.held) (hi : h.cache = i) (hmany : 1 < holds.count i) :
      GivenBack r holds i (false, r.adjust h.hash (· - 1))
  | last {h : Holding} (hh : h ∈ r.held) (hi : h.cache = i) (hone : holds.count i = 1) :
      GivenBack r holds i (true, (r.unregister h.hash).destroyCache i)

/-- **Giving back.** What comes of giving back a cache that someone holds. -/
theorem Counted.release_cases (hcounted : r.Counted holds) (hr : r.Sound default)
    (hi : i ∈ holds) : GivenBack r holds i (r.release i) := by
  rcases hcounted.covers i hi with rfl | ⟨h, hh, rfl⟩
  · rw [release_of_badge?_default hr.front]
    exact .default rfl
  · have hfound := hr.holding?_of_mem hh
    have hcount := hcounted.counts h hh
    have hpos := hcounted.positive h hh
    rw [release_of_badge? (hr.registered h hh).2]
    have hcases := r.removeHolder_cases h.hash
    generalize r.removeHolder h.hash = result at hcases
    cases hcases with
    | absent hnone => rw [hfound] at hnone; exact absurd hnone nofun
    | kept hfound' hmany =>
        obtain rfl := Option.some.inj (hfound.symm.trans hfound')
        exact .kept hh rfl (by omega)
    | last hfound' hlast =>
        obtain rfl := Option.some.inj (hfound.symm.trans hfound')
        exact .last hh rfl (by omega)

/-- A hold of the default cache is given back without being counted. -/
theorem Counted.giveDefault (hcounted : r.Counted holds) (hr : r.Sound default) :
    r.Counted (holds.erase defaultCache) := by
  refine ⟨fun h hh => ?_, hcounted.positive,
    fun i hi => hcounted.covers i (List.mem_of_mem_erase hi)⟩
  rw [List.count_erase_of_ne (hr.cache_ne_default hh)]
  exact hcounted.counts h hh

/-- One hold of several is one holder less. -/
theorem Counted.giveShared (hcounted : r.Counted holds) (hr : r.Sound default) (hh : h ∈ r.held)
    (hmany : 1 < holds.count h.cache) :
    (r.adjust h.hash (· - 1)).Counted (holds.erase h.cache) := by
  refine hcounted.adjust hr hh List.count_erase_self ?_ fun i hi => List.count_erase_of_ne hi
  rw [List.count_erase_self]
  omega

/-- With the last hold the cache is no longer registered. -/
theorem Counted.giveLast (hcounted : r.Counted holds) (hr : r.Sound default) (hh : h ∈ r.held)
    (hone : holds.count h.cache = 1) :
    ((r.unregister h.hash).destroyCache h.cache).Counted (holds.erase h.cache) := by
  have hheld : ((r.unregister h.hash).destroyCache h.cache).held =
      r.held.filter (·.hash != h.hash) := held_destroyCache
  have hother {h₁ : Holding} (hh₁ : h₁ ∈ r.held.filter (·.hash != h.hash)) :
      h₁ ∈ r.held ∧ h₁.cache ≠ h.cache := by
    obtain ⟨hmem, hne⟩ := List.mem_filter.mp hh₁
    exact ⟨hmem, fun heq => bne_iff_ne.mp hne
      (congrArg Holding.hash (hr.eq_of_cache_eq hmem hh heq))⟩
  refine ⟨fun h₁ hh₁ => ?_, fun h₁ hh₁ => ?_, fun i hi => ?_⟩
  · obtain ⟨hmem, hne⟩ := hother (hheld ▸ hh₁)
    rw [List.count_erase_of_ne hne]
    exact hcounted.counts h₁ hmem
  · exact hcounted.positive h₁ (hother (hheld ▸ hh₁)).1
  · refine (hcounted.covers i (List.mem_of_mem_erase hi)).imp_right ?_
    rintro ⟨h₁, hh₁, rfl⟩
    refine ⟨h₁, ?_, rfl⟩
    -- Of the cache that was unregistered no hold is left.
    have hne : h₁.hash ≠ h.hash := by
      intro heq
      obtain rfl := hr.eq_of_hash_eq hh₁ hh heq
      have hleft : 0 < (holds.erase h₁.cache).count h₁.cache := List.count_pos_iff.mpr hi
      rw [List.count_erase_self, hone] at hleft
      exact absurd hleft (by decide)
    rw [hheld]
    exact List.mem_filter.mpr ⟨hh₁, bne_iff_ne.mpr hne⟩

/-- **Giving a cache back.** A hold that is given back is counted no longer. -/
theorem Counted.release (hcounted : r.Counted holds) (hr : r.Sound default) (hi : i ∈ holds) :
    (r.release i).2.Counted (holds.erase i) := by
  have hcases := hcounted.release_cases hr hi
  generalize r.release i = result at hcases
  cases hcases with
  | default hzero => exact hzero ▸ hcounted.giveDefault hr
  | kept hh heq hmany =>
      obtain rfl := heq
      exact hcounted.giveShared hr hh hmany
  | last hh heq hone =>
      obtain rfl := heq
      exact hcounted.giveLast hr hh hone

/-- Work with a cache does not change its holders. -/
theorem Counted.use (hcounted : r.Counted holds) (i : Nat) (work : Cache → Cache) :
    (r.use i work).Counted holds := by
  unfold Registry.use
  split
  · exact ⟨hcounted.counts, hcounted.positive, hcounted.covers⟩
  · exact hcounted

end Registry

end Deferral

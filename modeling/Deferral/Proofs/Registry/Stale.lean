import Deferral.Proofs.Registry.Holds

/-!
# Caches that are no longer registered

When all caches of a registry are destroyed, those who have holds of them keep these. A cache is
given back by its digest, so such a hold counts against whatever is registered under the digest by
then: a later cache of the same settings loses a holder, and is destroyed if it had no other.

## Main results

* `release_eq_self_iff` — exactly when giving back a cache changes nothing, and what it does
  otherwise.
-/

namespace Deferral.Registry

variable {r : Registry} {default hash : String} {h : Holding} {i : Nat} {c : Cache}
  {network : ServerAddress → Except RedisError RedisServer} {settings : CacheSettings}

/-- A registry is changed when a number of holders is. -/
theorem adjust_ne_self {f : Nat → Nat} (hfound : r.holding? hash = some h)
    (hf : f h.holders ≠ h.holders) : r.adjust hash f ≠ r := by
  intro heq
  have hadjusted := r.holding?_adjust hash f hash
  obtain ⟨-, rfl⟩ := mem_of_holding? hfound
  rw [heq, hfound, Option.map_some, if_pos (beq_self_eq_true _)] at hadjusted
  exact hf (congrArg Holding.holders (Option.some.inj hadjusted)).symm

/-- It is changed when a cache is unregistered. -/
theorem held_unregister_ne (hfound : r.holding? hash = some h) :
    (r.unregister hash).held ≠ r.held := by
  intro heq
  obtain ⟨hh, rfl⟩ := mem_of_holding? hfound
  rw [← heq] at hh
  exact absurd rfl (bne_iff_ne.mp (List.mem_filter.mp hh).2)

/-- Giving back by a digest changes nothing exactly when nothing is registered under it. -/
theorem removeHolder_eq_self_iff (r : Registry) (hash : String) :
    (r.removeHolder hash).2 = r ↔ r.holding? hash = none := by
  have hcases := r.removeHolder_cases hash
  generalize r.removeHolder hash = result at hcases
  cases hcases with
  | absent hnone => exact iff_of_true rfl hnone
  | kept hfound hmany =>
      have hne : r.adjust hash (· - 1) ≠ r := adjust_ne_self hfound (by omega)
      exact iff_of_false hne (by rw [hfound]; exact nofun)
  | last hfound hlast =>
      refine iff_of_false (fun heq => held_unregister_ne hfound ?_) (by rw [hfound]; exact nofun)
      exact held_destroyCache.symm.trans (congrArg Registry.held heq)

/-- A hold that is counted is never of such a cache. -/
theorem Counted.registered {holds : List Nat} (hcounted : r.Counted holds) (hr : r.Sound default)
    (hi : i ∈ holds) (hb : r.badge? i = some (hash, false)) :
    ∃ h, r.holding? hash = some h ∧ h.cache = i := by
  rcases hcounted.covers i hi with rfl | ⟨h, hh, rfl⟩
  · rw [hr.front] at hb
    exact absurd (Prod.mk.inj (Option.some.inj hb)).2 (by decide)
  · rw [(hr.registered h hh).2] at hb
    obtain ⟨rfl, -⟩ := Prod.mk.inj (Option.some.inj hb)
    exact ⟨h, hr.holding?_of_mem hh, rfl⟩

/-- **Stale holds.** Whatever was done with a registry before, giving back a cache that is not the
default one changes nothing exactly when nothing is registered under its digest. Otherwise it is as
if the cache had been given back that is registered there, be it the same one or another. -/
theorem release_eq_self_iff (hr : connect network settings = .ok r) (ops : List RegistryOp)
    (hc : (r.run ops).cache? i = some c) (hprivate : c.isDefault = false) :
    (((r.run ops).release i).2 = r.run ops ↔ (r.run ops).holding? c.hash = none) ∧
      ∀ h, (r.run ops).holding? c.hash = some h →
        (r.run ops).release i = (r.run ops).release h.cache := by
  have hknown := badge?_of_cache? hc
  rw [hprivate] at hknown
  have hrelease := release_of_badge? hknown
  -- Of the cache only its digest is looked at, so any other of that digest does as well.
  refine ⟨hrelease ▸ removeHolder_eq_self_iff _ _, fun h hfound => ?_⟩
  obtain ⟨hh, hhash⟩ := mem_of_holding? hfound
  have hbadge := (((sound_connect hr).run ops).registered h hh).2
  rw [hrelease, release_of_badge? hbadge, hhash]

/-- A user takes a cache, all caches are destroyed, and a second user takes a cache of the same
settings and puts something into it. -/
def replacing : List RegistryOp :=
  let resolve : RegistryOp := .resolve noServers (some (.withKeyHead "p:"))
  [resolve, .destroyAll, resolve, .use 2 fun c => (c.set 0 "key" .null none).2]

/-- The first user gives a cache back that is not the registered one. The second user, who has not
given his back, loses it with all that it holds. -/
theorem release_destroys_successor :
    let r := plain.run replacing
    let hash := (CacheSettings.withKeyHead "p:").hash
    r.badge? 1 = some (hash, false) ∧
      r.holding? hash = some ⟨hash, 2, 1⟩ ∧
      (r.cache? 2).map (·.entries.length) = some 1 ∧
      (r.release 1).1 = true ∧
      (r.release 1).2.holding? hash = none ∧
      ((r.release 1).2.cache? 2).map (·.entries.length) = some 0 := by
  decide +kernel

/-- Before a second user has taken a cache, the first gives his back without effect; afterwards it
is as if the second gave his back. -/
theorem release_eq_self_iff_replaced :
    let before := plain.run (replacing.take 2)
    let after := plain.run replacing
    (before.release 1).2 = before ∧ after.release 1 = after.release 2 := by
  intro before after
  have hbefore : before.badge? 1 = some ((CacheSettings.withKeyHead "p:").hash, false) ∧
      before.holding? (CacheSettings.withKeyHead "p:").hash = none := by decide +kernel
  have hafter : after.badge? 1 = some ((CacheSettings.withKeyHead "p:").hash, false) ∧
      after.holding? (CacheSettings.withKeyHead "p:").hash =
        some ⟨(CacheSettings.withKeyHead "p:").hash, 2, 1⟩ := by decide +kernel
  constructor
  · obtain ⟨hknown, hnone⟩ := hbefore
    obtain ⟨c, hc, hbadge⟩ := Option.map_eq_some_iff.mp hknown
    obtain ⟨hhash, hprivate⟩ := Prod.mk.inj hbadge
    rw [← hhash] at hnone
    exact (release_eq_self_iff connect_plain (replacing.take 2) hc hprivate).1.mpr hnone
  · obtain ⟨hknown, hfound⟩ := hafter
    obtain ⟨c, hc, hbadge⟩ := Option.map_eq_some_iff.mp hknown
    obtain ⟨hhash, hprivate⟩ := Prod.mk.inj hbadge
    rw [← hhash] at hfound
    exact (release_eq_self_iff connect_plain replacing hc hprivate).2 _ hfound

end Deferral.Registry

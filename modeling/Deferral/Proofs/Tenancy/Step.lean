import Deferral.Dispatch.Host
import Deferral.Proofs.Registry.Holds
import Mathlib.Data.List.Forall2
import Mathlib.Data.List.Perm.Basic

/-!
# What a tenancy keeps

A container takes a cache from the registry when it is made and gives it back the first time that it
is destroyed. So the containers that have not been destroyed are those who have holds, and the
registry counts them; each has the cache that its settings ask for.

## Main results

* `Host.addContainer_of_ok`, `Host.addContainer_of_error`, `Host.destroy_eq` — what making and
  destroying a container does;
* `Tenancy.Kept.step`, `Tenancy.Kept.run` — no event breaks this.
-/

namespace Deferral

/-! ### Making and destroying a container -/

/-- The second cache is the first, but for the timer of a private cache, which may have been set. -/
def Cache.Timed (c c' : Cache) : Prop :=
  c' = c ∨ c.isDefault = false ∧ ∃ timer, c' = { c with pruneTimer := some timer }

/-- A timer is all that a cache gets when it is to be pruned. -/
theorem Cache.timed_setPruneTimer (c : Cache) (time : Nat) (ttls : List Ttl) :
    c.Timed (c.setPruneTimer time ttls).2 := by
  unfold Cache.setPruneTimer
  split
  · rename_i hprivate _
    exact .inr ⟨hprivate, _, rfl⟩
  · exact .inl rfl

/-- A container that has been destroyed. -/
def Container.ended (c : Container) : Container :=
  { c with
    scheduler := { c.scheduler.stop with queue := c.queue.clear.2 }
    isReleased := true }

/-- The caches that containers have holds of. -/
def Container.holds (containers : List Container) : List Nat :=
  (containers.filter fun c => !c.isReleased).map (·.cache)

namespace Host

variable {h : Host} {i : Nat} {c : Container}
  {network : ServerAddress → Except RedisError RedisServer} {name : String}
  {settings : DispatchSettings} {cache : Option CacheSettings}

/-- What happens to the cache of a new container. -/
def setTimer (time : Nat) (c : Cache) : Cache := (c.setPruneTimer time [c.defaultTtl]).2

/-- Setting a timer is work with a cache. -/
theorem use_setTimer (r : Registry) (i time : Nat) :
    r.use i (setTimer time) = match r.cache? i with
      | some c => r.setCache i (setTimer time c)
      | none => r := by
  unfold Registry.use
  cases r.cache? i with
  | none => rfl
  | some c =>
      rcases c.timed_setPruneTimer time [c.defaultTtl] with heq | ⟨-, timer, heq⟩ <;>
        simp only [setTimer, heq]

/-- A container is made if its cache could be. -/
theorem addContainer_of_ok (hi : (h.registry.resolve network cache).1 = .ok i) :
    h.addContainer network name settings cache =
      (.ok (), { h with
        registry := (h.registry.resolve network cache).2.use i (setTimer h.elapsed)
        containers :=
          h.containers ++ [⟨.new name settings, i, settings.disableDelays, false⟩] }) := by
  unfold addContainer Container.create
  cases hresolve : h.registry.resolve network cache with
  | mk result registry =>
      rw [hresolve] at hi
      obtain rfl : result = .ok i := hi
      rw [use_setTimer]
      rfl

/-- If not, nothing changes. -/
theorem addContainer_of_error {e : CacheError} {default : String}
    (hr : h.registry.Sound default) (he : (h.registry.resolve network cache).1 = .error e) :
    h.addContainer network name settings cache = (.error e, h) := by
  have hcases := hr.resolve_cases network cache
  unfold addContainer Container.create
  generalize h.registry.resolve network cache = result at hcases he
  cases hcases with
  | default _ | shared _ _ | made _ _ _ _ => exact absurd he nofun
  | failed _ _ =>
      obtain rfl := Except.error.inj he
      rfl

/-- A container that is destroyed gives its cache back the first time. -/
theorem destroy_eq (hc : h.container? i = some c) :
    h.destroy i = { h with
      registry := if c.isReleased then h.registry else (h.registry.release c.cache).2
      containers := h.containers.set i c.ended } := by
  unfold destroy
  rw [hc]
  unfold Container.destroy
  by_cases hreleased : c.isReleased = true <;>
    simp [hreleased, Container.ended, Container.withQueue, Container.queue, setContainer,
      Scheduler.stop]

/-- A container holds its cache until it has given it back. -/
theorem mem_holds (hc : h.container? i = some c) (hlive : c.isReleased = false) :
    c.cache ∈ Container.holds h.containers := by
  refine List.mem_map_of_mem (List.mem_filter.mpr ⟨List.mem_of_getElem? hc, ?_⟩)
  rw [hlive]
  rfl

end Host

/-! ### Lists side by side -/

section Lists

variable {α β : Type} {R : α → β → Prop} {as : List α} {bs : List β} {a : α} {b : β}

/-- Related lists have related elements at each place. -/
theorem forall₂_getElem? (h : List.Forall₂ R as bs) {i : Nat} (hb : bs[i]? = some b) :
    ∃ a, as[i]? = some a ∧ R a b := by
  induction h generalizing i with
  | nil => exact absurd hb nofun
  | cons hab _ ih =>
      cases i with
      | zero =>
          obtain rfl := Option.some.inj hb
          exact ⟨_, rfl, hab⟩
      | succ i => exact ih hb

/-- Lists stay related when related elements take one place in both. -/
theorem forall₂_set (h : List.Forall₂ R as bs) (hab : R a b) (i : Nat) :
    List.Forall₂ R (as.set i a) (bs.set i b) := by
  induction h generalizing i with
  | nil => exact .nil
  | cons hfirst hrest ih =>
      cases i with
      | zero => exact .cons hab hrest
      | succ i => exact .cons hfirst (ih i)

/-- Tests that agree on related elements count the same. -/
theorem countP_eq_of_forall₂ {p : α → Bool} {q : β → Bool}
    (h : List.Forall₂ (fun a b => p a = q b) as bs) : as.countP p = bs.countP q := by
  induction h with
  | nil => rfl
  | cons hab _ ih => rw [List.countP_cons, List.countP_cons, ih, hab]

end Lists

/-! ### What a tenancy keeps -/

/-- Whether a container that has not been destroyed was made with settings of a digest, where
`default` is that of the default cache. -/
def Lease.uses (l : Lease) (default hash : String) : Bool :=
  !l.isOver && hashOf default l.settings == hash

/-- A container as its lease has it. -/
structure Lease.Fits (l : Lease) (r : Registry) (default : String) (c : Container) : Prop where
  released : c.isReleased = l.isOver
  badge : ∃ isDefault, r.badge? c.cache = some (hashOf default l.settings, isDefault)

namespace Tenancy

variable {t : Tenancy} {default hash : String} {i : Nat} {l : Lease} {c : Container} {h : Holding}
  {network : ServerAddress → Except RedisError RedisServer} {name : String}
  {settings : DispatchSettings} {cache : Option CacheSettings}

/-- A tenancy in order: the registry counts the holds of the containers, which are as their leases
have them. -/
structure Kept (t : Tenancy) (default : String) : Prop where
  sound : t.registry.Sound default
  counted : t.registry.Counted (Container.holds t.host.containers)
  fits : List.Forall₂ (fun c l => l.Fits t.registry default c) t.host.containers t.leases

/-- Leases go on to fit while caches keep what they are known by. -/
theorem fits_mono {r r' : Registry} {cs : List Container} {ls : List Lease}
    (hbadge : ∀ i badge, r.badge? i = some badge → r'.badge? i = some badge)
    (h : List.Forall₂ (fun c l => l.Fits r default c) cs ls) :
    List.Forall₂ (fun c l => l.Fits r' default c) cs ls :=
  h.imp fun _ _ hfits => ⟨hfits.released, hfits.badge.imp fun _ => hbadge _ _⟩

/-- A new host is in order. -/
theorem kept_new {d : CacheSettings} {r : Registry} (hr : Registry.connect network d = .ok r)
    (start : Instant) : (new r start).Kept d.hash :=
  ⟨Registry.sound_connect hr, Registry.counted_connect hr, .nil⟩

/-- A tenancy in order stays so when a container is made. -/
theorem Kept.create (hkept : t.Kept default)
    (network : ServerAddress → Except RedisError RedisServer) (name : String)
    (settings : DispatchSettings) (cache : Option CacheSettings) :
    (t.step (.create network name settings cache)).Kept default := by
  cases hresolve : (t.host.registry.resolve network cache).1 with
  | error e =>
      rw [step, Host.addContainer_of_error hkept.sound hresolve]
      exact hkept
  | ok i =>
      have hsound := hkept.sound.resolve network cache
      rw [step, Host.addContainer_of_ok hresolve]
      refine ⟨hsound.use i _, ?_, ?_⟩
      · have hcounted := hkept.counted.resolve hkept.sound hresolve
        refine (hcounted.perm ?_).use i _
        simp only [Container.holds, List.filter_append, List.map_append]
        exact (List.perm_append_singleton i _).symm
      · have hbadge (j : Nat) (badge : String × Bool)
            (hj : t.registry.badge? j = some badge) :
            ((t.host.registry.resolve network cache).2.use i
              (Host.setTimer t.host.elapsed)).badge? j = some badge :=
          (Registry.badge?_use _).trans (hkept.sound.badge?_resolve hj)
        refine List.rel_append (fits_mono hbadge hkept.fits) (.cons ⟨rfl, ?_⟩ .nil)
        obtain ⟨isDefault, hgiven⟩ := hkept.sound.badge?_of_resolve hresolve
        exact ⟨isDefault, (Registry.badge?_use _).trans hgiven⟩

/-- The holds of containers in any order. -/
theorem holds_perm {cs cs' : List Container} (h : cs.Perm cs') :
    (Container.holds cs).Perm (Container.holds cs') := (h.filter _).map _

/-- A container that is destroyed has no hold any more. -/
theorem holds_set_ended {cs : List Container} (hc : cs[i]? = some c) :
    (Container.holds (cs.set i c.ended)).Perm
      (if c.isReleased then Container.holds cs else (Container.holds cs).erase c.cache) := by
  obtain ⟨hi, rfl⟩ := List.getElem?_eq_some_iff.mp hc
  -- Both sides are the holds of the other containers, before them perhaps that of this one.
  have hafter := holds_perm (List.set_perm_cons_eraseIdx hi cs[i].ended)
  have hbefore := holds_perm (List.getElem_cons_eraseIdx_perm hi)
  have hended : Container.holds (cs[i].ended :: cs.eraseIdx i) =
      Container.holds (cs.eraseIdx i) := rfl
  rw [hended] at hafter
  refine hafter.trans ?_
  by_cases hreleased : cs[i].isReleased = true
  · rw [if_pos hreleased]
    simpa [Container.holds, hreleased] using hbefore
  · rw [if_neg hreleased]
    have hfirst : Container.holds (cs[i] :: cs.eraseIdx i) =
        cs[i].cache :: Container.holds (cs.eraseIdx i) := by simp [Container.holds, hreleased]
    rw [hfirst] at hbefore
    simpa using hbefore.erase cs[i].cache

/-- A container that is destroyed for the first time gives its cache back. -/
theorem registry_destroy (hc : t.host.container? i = some c) (hlive : c.isReleased = false) :
    (t.host.destroy i).registry = (t.registry.release c.cache).2 := by
  rw [Host.destroy_eq hc, hlive]
  rfl

/-- Where there is no lease there is no container. -/
theorem Kept.destroy_of_none (hkept : t.Kept default) (hl : t.leases[i]? = none) :
    t.host.destroy i = t.host := by
  have hnone : t.host.container? i = none := by
    rw [List.getElem?_eq_none_iff, ← hkept.fits.length_eq] at hl
    exact List.getElem?_eq_none hl
  rw [Host.destroy, hnone]

/-- A tenancy in order stays so when a container is destroyed. -/
theorem Kept.destroy (hkept : t.Kept default) (i : Nat) : (t.step (.destroy i)).Kept default := by
  rw [step, endLease]
  cases hl : t.leases[i]? with
  | none =>
      rw [hkept.destroy_of_none hl]
      exact hkept
  | some l =>
      obtain ⟨c, hc, hfits⟩ := forall₂_getElem? hkept.fits hl
      rw [Host.destroy_eq hc]
      have hended : ({ l with isOver := true } : Lease).Fits t.registry default c.ended :=
        ⟨rfl, hfits.badge⟩
      have hholds := holds_set_ended hc
      by_cases hreleased : c.isReleased = true
      · rw [if_pos hreleased] at hholds ⊢
        exact ⟨hkept.sound, hkept.counted.perm hholds.symm, forall₂_set hkept.fits hended i⟩
      · rw [if_neg hreleased] at hholds ⊢
        have hhold := Host.mem_holds hc (Bool.eq_false_iff.mpr hreleased)
        refine ⟨hkept.sound.release c.cache, ?_, ?_⟩
        · exact (hkept.counted.release hkept.sound hhold).perm hholds.symm
        · exact fits_mono (fun _ _ hj => Registry.badge?_release.trans hj)
            (forall₂_set hkept.fits hended i)

/-- A tenancy in order stays so when someone works with a cache. -/
theorem Kept.use (hkept : t.Kept default) (i : Nat) (work : Cache → Cache) :
    (t.step (.use i work)).Kept default :=
  ⟨hkept.sound.use i work, hkept.counted.use i work,
    fits_mono (fun _ _ hj => (Registry.badge?_use work).trans hj) hkept.fits⟩

/-- Whatever happens, a tenancy in order stays so. -/
theorem Kept.step (hkept : t.Kept default) (event : TenancyEvent) :
    (t.step event).Kept default := by
  cases event with
  | create network name settings cache => exact hkept.create network name settings cache
  | destroy i => exact hkept.destroy i
  | use i work => exact hkept.use i work

/-- **Runs.** A tenancy in order stays so at any time. -/
theorem Kept.run (hkept : t.Kept default) (events : List TenancyEvent) :
    (t.run events).Kept default := by
  induction events generalizing t with
  | nil => exact hkept
  | cons event events ih => exact ih (hkept.step event)

end Tenancy

end Deferral

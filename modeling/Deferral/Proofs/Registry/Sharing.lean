import Deferral.Proofs.Registry.Sound

/-!
# Which settings share a cache

A registry compares digests. As long as the digests of the texts at hand do not collide, two
requests are answered with one cache exactly when their settings have the same normal form: what is
registered under a digest stays so while caches are only taken and used, and caches of different
digests are different ones.

## Main results

* `Sound.resolve_eq_iff` — two requests, one cache: equal digests;
* `sharedByNormalForm` — equal normal forms.
-/

namespace Deferral

namespace Registry

variable {r r' : Registry} {default hash : String} {i j : Nat} {c : Cache} {op : RegistryOp}
  {ops : List RegistryOp} {badge : String × Bool} {settings : Option CacheSettings}
  {network network' : ServerAddress → Except RedisError RedisServer}

/-- The cache that is registered under a digest. -/
def registered? (r : Registry) (hash : String) : Option Nat := (r.holding? hash).map (·.cache)

/-- A change to the number of holders leaves caches under their digests. -/
theorem registered?_adjust (r : Registry) (hash' : String) (f : Nat → Nat) (hash : String) :
    (r.adjust hash' f).registered? hash = r.registered? hash := by
  rw [registered?, registered?, holding?_adjust, Option.map_map]
  refine Option.map_congr fun h _ => ?_
  rw [Function.comp_apply]
  split <;> rfl

/-- What is registered stays so when another cache is made. -/
theorem registered?_register (h : r.registered? hash = some i) (hash' : String) (c : Cache) :
    (r.register hash' c).registered? hash = some i := by
  obtain ⟨holding, hfound, rfl⟩ := Option.map_eq_some_iff.mp h
  rw [registered?, holding?, register, List.find?_append, ← holding?, hfound]
  rfl

/-- A new cache is registered under its digest. -/
theorem registered?_register_self (hnone : r.holding? hash = none) (c : Cache) :
    (r.register hash c).registered? hash = some r.caches.length := by
  rw [registered?, holding?, register, List.find?_append, ← holding?, hnone]
  simp

/-- Work with a cache leaves caches under their digests. -/
theorem registered?_use (work : Cache → Cache) :
    (r.use i work).registered? hash = r.registered? hash := by
  unfold use
  split <;> rfl

namespace Sound

variable (hr : r.Sound default)

include hr

/-- What is registered stays so while caches are only taken and used. -/
theorem registered?_perform (hop : op.isTaking = true) (h : r.registered? hash = some i) :
    (r.perform op).registered? hash = some i := by
  cases op with
  | resolve network settings =>
      have hcases := hr.resolve_cases network settings
      rw [Registry.perform]
      generalize r.resolve network settings = result at hcases
      cases hcases with
      | default _ => exact h
      | shared _ _ => exact (r.registered?_adjust _ (· + 1) hash).trans h
      | made _ _ _ _ => exact registered?_register h _ _
      | failed _ _ => exact h
  | use i work => exact (registered?_use work).trans h
  | release _ | destroyAll => exact absurd hop Bool.false_ne_true

/-- **Runs.** Taking and using caches leaves those that are registered under their digests. -/
theorem registered?_run (hops : ∀ op ∈ ops, op.isTaking = true) (h : r.registered? hash = some i) :
    (r.run ops).registered? hash = some i := by
  induction ops generalizing r with
  | nil => exact h
  | cons op ops ih =>
      exact ih (hr.perform op) (fun op' hop' => hops op' (List.mem_cons_of_mem _ hop'))
        (hr.registered?_perform (hops op List.mem_cons_self) h)

/-- A cache that is registered is known by its digest. -/
theorem badge?_of_registered? (h : r.registered? hash = some i) :
    r.badge? i = some (hash, false) := by
  obtain ⟨holding, hfound, rfl⟩ := Option.map_eq_some_iff.mp h
  obtain ⟨hmem, rfl⟩ := mem_of_holding? hfound
  exact (hr.registered holding hmem).2

/-- A cache that is given for settings other than the default ones is registered then. -/
theorem registered?_resolve (hne : hashOf default settings ≠ default)
    (hok : (r.resolve network settings).1 = .ok i) :
    (r.resolve network settings).2.registered? (hashOf default settings) = some i := by
  have hcases := hr.resolve_cases network settings
  generalize r.resolve network settings = result at hcases hok
  cases hcases with
  | default heq => exact absurd heq hne
  | shared _ hfound =>
      obtain rfl := Except.ok.inj hok
      refine (r.registered?_adjust _ (· + 1) _).trans ?_
      rw [registered?, hfound, Option.map_some]
  | made _ hnone _ _ =>
      obtain rfl := Except.ok.inj hok
      exact registered?_register_self hnone _
  | failed _ _ => exact absurd hok nofun

/-- A cache that is registered is given. -/
theorem resolve_of_registered? (hne : hashOf default settings ≠ default)
    (h : r.registered? (hashOf default settings) = some i) :
    (r.resolve network settings).1 = .ok i := by
  obtain ⟨holding, hfound, rfl⟩ := Option.map_eq_some_iff.mp h
  have hcases := hr.resolve_cases network settings
  generalize r.resolve network settings = result at hcases
  cases hcases with
  | default heq => exact absurd heq hne
  | shared _ hfound' =>
      rw [hfound] at hfound'
      rw [Option.some.inj hfound']
  | made _ hnone _ _ => rw [hfound] at hnone; exact absurd hnone nofun
  | failed _ hnone => rw [hfound] at hnone; exact absurd hnone nofun

/-- **One cache, one digest.** Between two requests caches are only taken and used. Then both are
answered with the same cache exactly when their settings have the same digest. -/
theorem resolve_eq_iff {a b : Option CacheSettings} (ha : hashOf default a ≠ default)
    (hb : hashOf default b ≠ default) (hops : ∀ op ∈ ops, op.isTaking = true)
    (hi : (r.resolve network a).1 = .ok i)
    (hj : (((r.resolve network a).2.run ops).resolve network' b).1 = .ok j) :
    i = j ↔ hashOf default a = hashOf default b := by
  have hr' : ((r.resolve network a).2.run ops).Sound default := (hr.resolve network a).run ops
  have hregistered : ((r.resolve network a).2.run ops).registered? (hashOf default a) = some i :=
    (hr.resolve network a).registered?_run hops (hr.registered?_resolve ha hi)
  constructor
  · rintro rfl
    -- One cache cannot be known by two digests.
    have hfirst := (hr'.resolve network' b).badge?_of_registered? (hr'.registered?_resolve hb hj)
    rw [hr'.badge?_resolve (hr'.badge?_of_registered? hregistered)] at hfirst
    exact (Prod.mk.inj (Option.some.inj hfirst)).1
  · intro heq
    rw [heq] at hregistered
    rw [hr'.resolve_of_registered? hb hregistered] at hj
    exact Except.ok.inj hj

end Sound

end Registry

/-- Whether settings `a` and `b` share a cache, where the default ones are `d`, is decided by their
normal forms and nothing else. -/
structure SharedByNormalForm (a b d : CacheSettings) : Prop where
  text : a.hashedText = b.hashedText ↔ a.normalized = b.normalized
  /-- What is in normal form stays as it is, -/
  normalized : a.normalized.normalized = a.normalized
  /-- so a cache that is made of the normal form has the digest of the settings themselves. -/
  hash : ∀ backend isDefault, (Cache.ofBackend backend a.normalized isDefault).hash = a.hash
  /-- The comparison with the settings of a cache, -/
  sameSettings : Set.InjOn Sha256.digestText {a.hashedText, b.hashedText} →
    ∀ backend isDefault, (Cache.ofBackend backend a isDefault).sameSettings b = true ↔
      a.normalized = b.normalized
  /-- and the caches that two requests get, if both are not for the default cache and caches are
  only taken and used in between. Before the first anything may have happened to the registry. -/
  resolve : Set.InjOn Sha256.digestText {a.hashedText, b.hashedText, d.hashedText} →
    a.normalized ≠ d.normalized → b.normalized ≠ d.normalized →
    ∀ network r, Registry.connect network d = .ok r →
    ∀ (before : List RegistryOp) networkA i, ((r.run before).resolve networkA (some a)).1 = .ok i →
    ∀ between : List RegistryOp, (∀ op ∈ between, op.isTaking = true) →
    ∀ networkB j, ((((r.run before).resolve networkA (some a)).2.run between).resolve networkB
      (some b)).1 = .ok j →
    (i = j ↔ a.normalized = b.normalized)

/-- **Sharing.** For any settings at all. -/
theorem sharedByNormalForm (a b d : CacheSettings) : SharedByNormalForm a b d where
  text := CacheSettings.hashedText_eq_iff
  normalized := a.normalized_normalized
  hash backend isDefault := by
    have hsettings : (Cache.ofBackend backend a.normalized isDefault).hash =
        a.normalized.normalized.hash := rfl
    rw [hsettings, CacheSettings.hash_normalized, CacheSettings.hash_normalized]
  sameSettings htexts backend isDefault := by
    have hsettings : (Cache.ofBackend backend a isDefault).hash = a.normalized.hash := rfl
    rw [Cache.sameSettings, beq_iff_eq, hsettings, CacheSettings.hash_normalized, eq_comm]
    exact CacheSettings.hash_eq_iff htexts (.inl rfl) (.inr rfl)
  resolve htexts ha hb network r hr before networkA i hi between hbetween networkB j hj := by
    have hsound : (r.run before).Sound d.hash := (Registry.sound_connect hr).run before
    have hne {s : CacheSettings} (hs : s.normalized ≠ d.normalized)
        (hmem : s.hashedText ∈ ({a.hashedText, b.hashedText, d.hashedText} : Set (List Char))) :
        hashOf d.hash (some s) ≠ d.hash :=
      mt (CacheSettings.hash_eq_iff htexts hmem (.inr (.inr rfl))).mp hs
    have hdigests := hsound.resolve_eq_iff (hne ha (.inl rfl)) (hne hb (.inr (.inl rfl))) hbetween
      hi hj
    exact hdigests.trans (CacheSettings.hash_eq_iff htexts (.inl rfl) (.inr (.inl rfl)))

/-- A memory cache is made for one key head, and something is put into it. Settings that write out
the defaults then get the same one, and those with another key head get a cache of their own. -/
theorem sharedByNormalForm_keyHeads :
    let a : CacheSettings := .withKeyHead "a:"
    let b : CacheSettings := .withKeyHead "b:"
    let written : CacheSettings := { a with ttl := some 60, maxKeys := some 500 }
    let used := ((Registry.plain.run []).resolve Registry.noServers (some a)).2.run
      [.use 1 fun c => (c.set 0 "key" .null none).2]
    (used.resolve Registry.noServers (some written)).1 = .ok 1 ∧
      (used.resolve Registry.noServers (some b)).1 = .ok 2 ∧
      a.normalized = written.normalized ∧ a.normalized ≠ b.normalized := by
  intro a b written used
  have hdigests : ([a, b, .memory].map fun s => Sha256.digestText s.hashedText).Nodup := by
    decide +kernel
  have hinj : Set.InjOn Sha256.digestText
      {a.hashedText, b.hashedText, CacheSettings.memory.hashedText} := by
    rintro _ (rfl | rfl | rfl) _ (rfl | rfl | rfl) heq <;>
      exact congrArg CacheSettings.hashedText
        (List.inj_on_of_nodup_map hdigests (by simp) (by simp) heq)
  have htext : written.hashedText = a.hashedText := by decide +kernel
  have hinj' : Set.InjOn Sha256.digestText
      {a.hashedText, written.hashedText, CacheSettings.memory.hashedText} := by
    rw [htext]
    exact hinj.mono (by simp [Set.insert_subset_iff])
  have hi : ((Registry.plain.run []).resolve Registry.noServers (some a)).1 = .ok 1 := by
    decide +kernel
  have hwritten : (used.resolve Registry.noServers (some written)).1 = .ok 1 := by decide +kernel
  have hother : (used.resolve Registry.noServers (some b)).1 = .ok 2 := by decide +kernel
  have htaking : ∀ op ∈ [RegistryOp.use 1 fun c => (c.set 0 "key" .null none).2],
      op.isTaking = true := by decide
  have hsame := (sharedByNormalForm a written .memory).resolve hinj' (by decide) (by decide) _ _
    Registry.connect_plain [] _ 1 hi _ htaking _ 1 hwritten
  have hdifferent := (sharedByNormalForm a b .memory).resolve hinj (by decide) (by decide) _ _
    Registry.connect_plain [] _ 1 hi _ htaking _ 2 hother
  exact ⟨hwritten, hother, hsame.mp rfl, mt hdifferent.mpr (by decide)⟩

end Deferral

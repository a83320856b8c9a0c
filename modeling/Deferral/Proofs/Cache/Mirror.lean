import Deferral.Cache.Redis
import Deferral.Proofs.Json.Roundtrip
import Deferral.Proofs.Memory.Entries
import Mathlib.Data.List.Perm.Subperm

/-!
# A store and a server that hold the same

A store in memory holds values and a server holds their texts. They answer alike as long as every
value reads back from its text, no entry lapses and none is pushed out. Each operation keeps that.

## Main results

* `Mirrors.get`, `Mirrors.set?`, `Mirrors.del` — what a store and a server answer, and that they
  hold the same afterwards;
* `Faultless.get`, `Faultless.set`, `Faultless.del` — what a server answers that refuses nothing; it
  takes every value, also where the clock cannot express its end.
-/

namespace Deferral

namespace RedisServer

variable {r : RedisServer} {key k : String} {data : List (String × List Char)}

/-- A server that refuses none of the commands to come. -/
def Faultless (r : RedisServer) : Prop := ∀ f ∈ r.faults, f = none

/-- A server that refuses nothing runs every command. -/
theorem Faultless.command {α : Type} (h : r.Faultless) (run : RedisServer → α × RedisServer) :
    ∃ faults, (∀ f ∈ faults, f = none) ∧
      r.command run = (.ok (run { r with faults }).1, (run { r with faults }).2) := by
  unfold RedisServer.command
  split
  · rename_i e faults hfaults
    exact absurd (h (some e) (hfaults ▸ List.mem_cons_self)) nofun
  · rename_i faults hfaults
    exact ⟨faults, fun f hf => h f (hfaults ▸ List.mem_cons_of_mem _ hf), rfl⟩
  · rename_i hfaults
    exact ⟨r.faults, h, rfl⟩

/-- A key that was taken out is not found, and any other as before. -/
theorem lookup_without (k key : String) (data : List (String × List Char)) :
    (without key data).lookup k = if k = key then none else data.lookup k := by
  induction data with
  | nil => simp [without]
  | cons d data ih =>
      obtain ⟨name, text⟩ := d
      rw [without] at ih ⊢
      by_cases hname : name = key
      · subst hname
        rw [List.filter_cons_of_neg (by simp), ih, List.lookup_cons]
        split
        · rfl
        · rename_i hk
          rw [beq_eq_false_iff_ne.mpr hk]
      · rw [List.filter_cons_of_pos (by simpa using hname), List.lookup_cons, List.lookup_cons, ih]
        by_cases hk : k = name
        · subst hk
          simp [hname]
        · simp [beq_eq_false_iff_ne.mpr hk]

/-- A text that is put under a key is found there, and all others as before. -/
theorem lookup_put (k key : String) (text : List Char) (data : List (String × List Char)) :
    (without key data ++ [(key, text)]).lookup k =
      if k = key then some text else data.lookup k := by
  rw [List.lookup_append, lookup_without]
  by_cases hk : k = key
  · subst hk
    simp
  · have hother : [(key, text)].lookup k = none := by
      rw [List.lookup_cons, beq_eq_false_iff_ne.mpr hk]
      rfl
    rw [if_neg hk, if_neg hk, hother, Option.or_none]

/-- Dropping a key makes the data shorter exactly when the key was there. -/
theorem length_without_lt_iff :
    (without key data).length < data.length ↔ (data.lookup key).isSome = true := by
  rw [without, List.length_filter_lt_length_iff_exists, List.lookup_isSome_iff]
  refine exists_congr fun d => and_congr_right fun _ => ?_
  rw [Bool.not_eq_true, bne_eq_false_iff_eq, beq_iff_eq, eq_comm]

/-! ### A server that refuses nothing -/

/-- A server that refuses nothing reads what it holds and goes on refusing nothing. -/
theorem Faultless.get (h : r.Faultless) (key : String) :
    ∃ faults, (∀ f ∈ faults, f = none) ∧
      r.get key = (decode (r.text? key), { r with faults }) := by
  obtain ⟨faults, hfaults, hcommand⟩ := h.command fun r => (r.text? key, r)
  refine ⟨faults, hfaults, ?_⟩
  rw [RedisServer.get, hcommand]
  rfl

/-- Every value is taken. -/
theorem Faultless.set (h : r.Faultless) (key : String) (value : Json) :
    ∃ faults, (∀ f ∈ faults, f = none) ∧ r.set key value =
      (.ok (), { r with faults, data := without key r.data ++ [(key, value.render)] }) :=
  h.command fun r => ((), { r with data := without key r.data ++ [(key, value.render)] })

/-- Dropping a key tells whether it was there. -/
theorem Faultless.del (h : r.Faultless) (key : String) :
    ∃ faults, (∀ f ∈ faults, f = none) ∧ r.del key =
      (.ok (r.text? key).isSome, { r with faults, data := without key r.data }) := by
  obtain ⟨faults, hfaults, hcommand⟩ := h.command fun r =>
    (r.data.length - (without key r.data).length, { r with data := without key r.data })
  have hmany : r.delMany [key] = (.ok (r.data.length - (without key r.data).length),
      { r with faults, data := without key r.data }) := hcommand
  have hthere : decide (0 < r.data.length - (without key r.data).length) =
      (r.text? key).isSome := by
    rw [Bool.eq_iff_iff, decide_eq_true_iff, Nat.sub_pos_iff_lt, length_without_lt_iff, text?]
  refine ⟨faults, hfaults, ?_⟩
  rw [RedisServer.del, hmany, ← hthere]
  rfl

end RedisServer

namespace MemoryStore

variable {s s' : MemoryStore} {r : RedisServer} {now stop : Uptime} {key : String} {value : Json}
  {keys : List String} {ttl : Option Span}

/-- A store and a server that hold the same until a time, under some of the keys given. -/
structure Mirrors (s : MemoryStore) (r : RedisServer) (keys : List String) (stop : Uptime) :
    Prop where
  faultless : r.Faultless
  nodup : (s.entries.map (·.key)).Nodup
  /-- There is room for all keys. -/
  room : keys.length ≤ s.capacity
  among : ∀ e ∈ s.entries, e.key ∈ keys
  lasting : ∀ e ∈ s.entries, ∀ t ∈ e.expiresAt, stop < t
  plain : ∀ e ∈ s.entries, e.value.PlainWithin Json.maxDepth
  /-- The server holds the texts of what the store holds. -/
  same : ∀ key, r.text? key = (s.entry? key).map fun e => e.value.render

namespace Mirrors

/-- Nothing is held at first. -/
theorem new {maxKeys : Nat} (hr : r.Faultless) (hdata : r.data = [])
    (hroom : keys.length ≤ max maxKeys 1) : (new maxKeys).Mirrors r keys stop where
  faultless := hr
  nodup := List.nodup_nil
  room := hroom
  among := nofun
  lasting := nofun
  plain := nofun
  same key := by rw [RedisServer.text?, hdata]; rfl

/-- What holds less than the store, in step with the server, mirrors it still. -/
theorem of_subset (h : s.Mirrors r keys stop) {r' : RedisServer} {entries : List Entry}
    (hfaultless : r'.Faultless) (hnodup : (entries.map (·.key)).Nodup)
    (hsub : ∀ e ∈ entries, e ∈ s.entries)
    (hsame : ∀ key, r'.text? key =
      (entries.find? fun e => e.key == key).map fun e => e.value.render) :
    ({ s with entries } : MemoryStore).Mirrors r' keys stop where
  faultless := hfaultless
  nodup := hnodup
  room := h.room
  among e he := h.among e (hsub e he)
  lasting e he := h.lasting e (hsub e he)
  plain e he := h.plain e (hsub e he)
  same := hsame

/-- What is read is the same, and what is held stays the same. -/
theorem get (h : s.Mirrors r keys stop) (hnow : now ≤ stop) (key : String) :
    (r.get key).1 = .ok (s.get now key).1 ∧
      (s.get now key).2.Mirrors (r.get key).2 keys stop := by
  obtain ⟨faults, hfaults, hr⟩ := h.faultless.get key
  rw [hr]
  rcases s.get_cases now key with
    ⟨hfind, hget⟩ | ⟨e, hfind, hlapsed, -⟩ | ⟨e, hfind, -, hget⟩
  · rw [hget, h.same, hfind]
    exact ⟨rfl, { h with faultless := hfaults }⟩
  · obtain ⟨he, -⟩ := entry?_eq_some hfind
    obtain ⟨t, ht, hle⟩ := Entry.isLapsed_eq_true_iff.mp hlapsed
    exact absurd (h.lasting e he t ht) (Nat.not_lt.mpr (Nat.le_trans hle hnow))
  · obtain ⟨he, rfl⟩ := entry?_eq_some hfind
    have hmem : ∀ a ∈ e :: without e.key s.entries, a ∈ s.entries := by
      intro a ha
      rcases List.mem_cons.mp ha with rfl | ha
      · exact he
      · exact (mem_without_iff.mp ha).1
    have hsame : ∀ k, (e :: without e.key s.entries).find? (fun e => e.key == k) = s.entry? k := by
      intro k
      rw [find?_cons_without]
      split
      · rename_i hk
        exact hk ▸ hfind.symm
      · rfl
    rw [hget, h.same, hfind]
    refine ⟨by simp [RedisServer.decode, (h.plain e he).parse?_render], ?_⟩
    exact h.of_subset hfaults (nodup_cons_without h.nodup) hmem
      fun k => (h.same k).trans (congrArg _ (hsame k).symm)

/-- A value that is put away is held by both. -/
theorem put (h : s.Mirrors r keys stop) {expiresAt : Option Uptime} (hkey : key ∈ keys)
    (hlasting : ∀ t ∈ expiresAt, stop < t) (hplain : value.PlainWithin Json.maxDepth) :
    (r.set key value).1 = .ok () ∧
      (s.put ⟨key, value, expiresAt⟩).Mirrors (r.set key value).2 keys stop := by
  obtain ⟨faults, hfaults, hr⟩ := h.faultless.set key value
  have hmem : ∀ a ∈ ⟨key, value, expiresAt⟩ :: without key s.entries,
      a = ⟨key, value, expiresAt⟩ ∨ a ∈ s.entries := fun a ha =>
    (List.mem_cons.mp ha).imp_right fun ha => (mem_without_iff.mp ha).1
  have hamong : ∀ a ∈ ⟨key, value, expiresAt⟩ :: without key s.entries, a.key ∈ keys := by
    intro a ha
    rcases hmem a ha with rfl | ha
    · exact hkey
    · exact h.among a ha
  have hnodup := nodup_cons_without (e := ⟨key, value, expiresAt⟩) h.nodup
  -- There are no more keys than there is room for, so nothing is pushed out.
  have hfits : (⟨key, value, expiresAt⟩ :: without key s.entries).length ≤ s.capacity := by
    have hsub : (⟨key, value, expiresAt⟩ :: without key s.entries).map (·.key) ⊆ keys := by
      intro k hk
      obtain ⟨a, ha, rfl⟩ := List.mem_map.mp hk
      exact hamong a ha
    have hle := (List.subperm_of_subset hnodup hsub).length_le
    rw [List.length_map] at hle
    exact Nat.le_trans hle h.room
  rw [hr, MemoryStore.put, List.take_of_length_le hfits]
  refine ⟨rfl, hfaults, hnodup, h.room, hamong, fun a ha => ?_, fun a ha => ?_, fun k => ?_⟩
  · rcases hmem a ha with rfl | ha
    · exact hlasting
    · exact h.lasting a ha
  · rcases hmem a ha with rfl | ha
    · exact hplain
    · exact h.plain a ha
  · have hserver := RedisServer.lookup_put k key value.render r.data
    have hstore := find?_cons_without k ⟨key, value, expiresAt⟩ s.entries
    rw [RedisServer.text?, hserver, entry?, hstore]
    split
    · rfl
    · exact h.same k

/-- A value whose end the clock can express is taken by both. -/
theorem set? (h : s.Mirrors r keys stop) (hkey : key ∈ keys)
    (hlasting : ∀ d ∈ ttl, stop < now + d.nanos) (hplain : value.PlainWithin Json.maxDepth)
    (hset : s.set? now key value ttl = some s') :
    (r.set key value).1 = .ok () ∧ s'.Mirrors (r.set key value).2 keys stop := by
  rw [set?_eq_some hset]
  refine h.put hkey (fun t ht => ?_) hplain
  obtain ⟨d, hd, rfl⟩ := Option.map_eq_some_iff.mp ht
  exact hlasting d hd

/-- What is dropped was there for both or for neither. -/
theorem del (h : s.Mirrors r keys stop) (key : String) :
    (r.del key).1 = .ok (s.del key).1 ∧ (s.del key).2.Mirrors (r.del key).2 keys stop := by
  obtain ⟨faults, hfaults, hr⟩ := h.faultless.del key
  rw [hr, h.same, Option.isSome_map]
  refine ⟨rfl, ?_⟩
  refine h.of_subset hfaults (h.nodup.sublist ((without_sublist _ _).map _))
    (fun a ha => (mem_without_iff.mp ha).1) fun k => ?_
  have hserver := RedisServer.lookup_without k key r.data
  rw [RedisServer.text?, hserver, find?_without]
  split
  · rfl
  · exact h.same k

end Mirrors

end MemoryStore

end Deferral

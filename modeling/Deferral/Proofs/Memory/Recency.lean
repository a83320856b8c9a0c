import Deferral.Cache.Memory
import Deferral.Proofs.Memory.Entries
import Mathlib.Data.List.Perm.Subperm
import Mathlib.Data.List.Nodup

/-!
# What a memory store keeps

The entries of a store stand in the order of their last use. So what stands before an entry was used
since, and an entry is only pushed out when as many other keys were used since as the store has
room for. Until then, and until it lapses or is dropped, a key is found with the value that it was
last set to.

## Main results

* `Tracked.perform`, `Tracked.run` — no operation breaks what links a store to its history;
* `faithful_run` — a store is bounded, never makes a value up, and finds what was used lately.
-/

namespace Deferral

open StoreEvent

namespace StoreEvent

/-! ### One event more -/

/-- What one more event makes of the last write to a key. -/
theorem lastStored?_concat (key : String) (events : List StoreEvent) (event : StoreEvent) :
    lastStored? key (events ++ [event]) =
      match event with
      | stored k value expiresAt =>
          if k = key then some (value, expiresAt) else lastStored? key events
      | read _ => lastStored? key events
      | dropped k => if k = key then none else lastStored? key events
      | cleared => none := by
  rw [lastStored?, List.foldl_append]
  rfl

/-- What one more event makes of the keys used since. -/
theorem usedSince_concat (key : String) (events : List StoreEvent) (event : StoreEvent) :
    usedSince key (events ++ [event]) =
      match event with
      | stored k _ _ | read k => if k = key then [] else (usedSince key events).insert k
      | dropped _ | cleared => usedSince key events := by
  rw [usedSince, List.foldl_append]
  cases event <;> rfl

end StoreEvent

namespace MemoryStore

variable {s s' : MemoryStore} {now later : Uptime} {key : String} {e : Entry}
  {events events' : List StoreEvent} {entries : List Entry}

/-! ### The room -/

/-- A lookup keeps the size of a store. -/
theorem capacity_get (s : MemoryStore) (now : Uptime) (key : String) :
    (s.get now key).2.capacity = s.capacity := by
  rcases s.get_cases now key with ⟨-, hget⟩ | ⟨e, -, -, hget⟩ | ⟨e, -, -, hget⟩ <;> rw [hget]

/-- So do several lookups. -/
theorem capacity_getMany (s : MemoryStore) (now : Uptime) (keys : List String) :
    (s.getMany now keys).2.capacity = s.capacity := by
  induction keys generalizing s with
  | nil => rfl
  | cons key keys ih => exact (ih _).trans (s.capacity_get now key)

/-- So does every operation. -/
theorem capacity_perform (s : MemoryStore) (now : Uptime) (op : StoreOp) :
    (s.perform now op).2.capacity = s.capacity := by
  cases op with
  | set key value ttl =>
      rw [perform]
      cases hset : s.set? now key value ttl with
      | none => rfl
      | some s' => exact (congrArg capacity (set?_eq_some hset)).trans rfl
  | get key => exact s.capacity_get now key
  | getMany keys => exact s.capacity_getMany now keys
  | delMany keys => exact (congrArg capacity (s.delMany_eq keys)).trans rfl
  | _ => rfl

/-- There is always as much room as at first. -/
theorem capacity_run (s : MemoryStore) (ops : List (Uptime × StoreOp)) :
    (s.run ops).capacity = s.capacity := by
  induction ops generalizing s with
  | nil => rfl
  | cons op ops ih => exact (ih _).trans (s.capacity_perform op.1 op.2)

/-! ### A store and its history -/

/-- What links a store to what happened to its keys until a time. -/
structure Tracked (s : MemoryStore) (events : List StoreEvent) (now : Uptime) : Prop where
  room : 0 < s.capacity
  bounded : s.entries.length ≤ s.capacity
  nodup : (s.entries.map (·.key)).Nodup
  /-- An entry holds what its key was last set to. -/
  latest : ∀ e ∈ s.entries, lastStored? e.key events = some (e.value, e.expiresAt)
  /-- What stands before an entry was used since. -/
  order : s.entries.Pairwise fun a b => a.key ∈ usedSince b.key events
  /-- What has not lapsed and was used lately is there. -/
  kept : ∀ key value expiresAt, lastStored? key events = some (value, expiresAt) →
    (∀ t ∈ expiresAt, now < t) → (usedSince key events).length < s.capacity →
    ∃ e ∈ s.entries, e.key = key

namespace Tracked

/-- A new store has no history. -/
theorem new (maxKeys : Nat) (now : Uptime) : (new maxKeys).Tracked [] now where
  room := Nat.le_max_right _ _
  bounded := Nat.zero_le _
  nodup := List.nodup_nil
  latest := nofun
  order := List.Pairwise.nil
  kept := nofun

/-- As time passes there is less to be kept. -/
theorem mono (h : s.Tracked events now) (hle : now ≤ later) : s.Tracked events later where
  room := h.room
  bounded := h.bounded
  nodup := h.nodup
  latest := h.latest
  order := h.order
  kept key value expiresAt hlast hlive hused :=
    h.kept key value expiresAt hlast (fun t ht => Nat.lt_of_le_of_lt hle (hlive t ht)) hused

/-- Entries may go if they have lapsed or their keys were dropped. -/
theorem restrict (h : s.Tracked events now) {entries : List Entry}
    (hsub : entries.Sublist s.entries) (hused : ∀ k, usedSince k events' = usedSince k events)
    (hlatest : ∀ e ∈ entries, lastStored? e.key events' = lastStored? e.key events)
    (hgone : ∀ e ∈ s.entries, e ∉ entries →
      lastStored? e.key events' = none ∨ ∃ t ∈ e.expiresAt, t ≤ now)
    (hless : ∀ k, lastStored? k events' = none ∨ lastStored? k events' = lastStored? k events) :
    ({ s with entries } : MemoryStore).Tracked events' now where
  room := h.room
  bounded := Nat.le_trans hsub.length_le h.bounded
  nodup := h.nodup.sublist (hsub.map _)
  latest e he := (hlatest e he).trans (h.latest e (hsub.subset he))
  order := (h.order.sublist hsub).imp fun hab => hused _ ▸ hab
  kept key value expiresAt hlast hlive hlength := by
    have hbefore : lastStored? key events = some (value, expiresAt) := by
      rcases hless key with hnone | hsame
      · rw [hnone] at hlast
        exact absurd hlast nofun
      · exact hsame.symm.trans hlast
    obtain ⟨e, he, rfl⟩ := h.kept key value expiresAt hbefore hlive (hused _ ▸ hlength)
    refine ⟨e, ?_, rfl⟩
    by_contra hout
    rcases hgone e he hout with hnone | ⟨t, ht, hlapsed⟩
    · rw [hnone] at hlast
      exact absurd hlast nofun
    · obtain ⟨-, rfl⟩ := Prod.mk.inj (Option.some.inj (hbefore.symm.trans (h.latest e he)))
      exact absurd (hlive t ht) (Nat.not_lt.mpr hlapsed)

/-- An entry is among the first that are as many as the keys used since, and one. -/
theorem mem_take (hnodup : (entries.map (·.key)).Nodup)
    (horder : entries.Pairwise fun a b => a.key ∈ usedSince b.key events) (he : e ∈ entries)
    {n : Nat} (hlength : (usedSince e.key events).length < n) : e ∈ entries.take n := by
  obtain ⟨front, back, rfl⟩ := List.append_of_mem he
  have hused : front.map (·.key) ⊆ usedSince e.key events := by
    intro k hk
    obtain ⟨a, ha, rfl⟩ := List.mem_map.mp hk
    exact (List.pairwise_append.mp horder).2.2 a ha e List.mem_cons_self
  have hfront : (front.map (·.key)).Nodup := by
    rw [List.map_append] at hnodup
    exact (List.nodup_append.mp hnodup).1
  have hle : front.length ≤ (usedSince e.key events).length := by
    rw [← List.length_map (f := (·.key))]
    exact (List.subperm_of_subset hfront hused).length_le
  rw [List.take_append, List.mem_append]
  right
  obtain ⟨m, hm⟩ := Nat.exists_eq_add_of_lt (Nat.lt_of_le_of_lt hle hlength)
  rw [show n - front.length = m + 1 by omega]
  exact List.mem_cons_self

/-- An entry whose key is used now goes to the front. -/
theorem put (h : s.Tracked events now)
    (hlast : lastStored? e.key events' = some (e.value, e.expiresAt))
    (hothers : ∀ k, k ≠ e.key → lastStored? k events' = lastStored? k events)
    (hused : ∀ k, usedSince k events' =
      if e.key = k then [] else (usedSince k events).insert e.key) :
    (s.put e).Tracked events' now := by
  have hnodup := nodup_cons_without (e := e) h.nodup
  have horder : (e :: without e.key s.entries).Pairwise
      fun a b => a.key ∈ usedSince b.key events' := by
    refine List.pairwise_cons.mpr ⟨fun b hb => ?_, ?_⟩
    · rw [hused, if_neg (mem_without_iff.mp hb).2.symm]
      exact List.mem_insert_self
    · refine (h.order.sublist (without_sublist _ _)).imp_of_mem fun {a b} _ hb hab => ?_
      rw [hused, if_neg (mem_without_iff.mp hb).2.symm]
      exact List.mem_insert_of_mem hab
  have hsub := List.take_sublist s.capacity (e :: without e.key s.entries)
  refine ⟨h.room, List.length_take_le _ _, hnodup.sublist (hsub.map _), fun a ha => ?_,
    horder.sublist hsub, fun key value expiresAt hkey hlive hlength => ?_⟩
  · rcases List.mem_cons.mp (hsub.subset ha) with rfl | hmem
    · exact hlast
    · obtain ⟨hmem, hne⟩ := mem_without_iff.mp hmem
      exact (hothers _ hne).trans (h.latest a hmem)
  · by_cases heq : key = e.key
    · subst heq
      exact ⟨e, mem_take hnodup horder List.mem_cons_self hlength, rfl⟩
    have hbefore : (usedSince key events).length < s.capacity := by
      rw [hused, if_neg (Ne.symm heq)] at hlength
      exact Nat.lt_of_le_of_lt List.length_le_length_insert hlength
    obtain ⟨a, ha, rfl⟩ := h.kept key value expiresAt ((hothers key heq).symm.trans hkey) hlive
      hbefore
    have hmem : a ∈ e :: without e.key s.entries :=
      List.mem_cons_of_mem _ (mem_without_iff.mpr ⟨ha, heq⟩)
    exact ⟨a, mem_take hnodup horder hmem hlength, rfl⟩

/-! ### Each operation -/

/-- A write is a new event. -/
theorem set? (h : s.Tracked events now) {value : Json} {ttl : Option Span}
    (hset : s.set? now key value ttl = some s') :
    s'.Tracked (events ++ [stored key value (ttl.map fun d => now + d.nanos)]) now := by
  rw [set?_eq_some hset]
  exact h.put ((lastStored?_concat _ _ _).trans (if_pos rfl))
    (fun k hk => (lastStored?_concat _ _ _).trans (if_neg hk.symm))
    fun k => usedSince_concat k _ _

/-- Dropping a key drops its entry. -/
theorem del (h : s.Tracked events now) (key : String) :
    (s.del key).2.Tracked (events ++ [dropped key]) now := by
  refine h.restrict (without_sublist key s.entries) (fun k => usedSince_concat k _ _)
    (fun e he => ?_) (fun e he hgone => ?_) fun k => ?_
  · exact (lastStored?_concat _ _ _).trans (if_neg (mem_without_iff.mp he).2.symm)
  · have hkey : e.key = key := by
      by_contra hne
      exact hgone (mem_without_iff.mpr ⟨he, hne⟩)
    exact .inl ((lastStored?_concat _ _ _).trans (if_pos hkey.symm))
  · simp only [lastStored?_concat]
    split
    · exact .inl rfl
    · exact .inr rfl

/-- Each deleted key is a new event. -/
theorem delMany (h : s.Tracked events now) (keys : List String) :
    (s.delMany keys).2.Tracked (events ++ keys.map dropped) now := by
  induction keys generalizing s events with
  | nil => simpa [MemoryStore.delMany] using h
  | cons key keys ih =>
      rw [MemoryStore.delMany, List.map_cons, List.append_cons]
      exact ih (h.del key)

/-- Lapsed entries may go at any time. -/
theorem prune (h : s.Tracked events now) : (s.prune now).2.Tracked events now := by
  refine h.restrict List.filter_sublist (fun _ => rfl) (fun _ _ => rfl) (fun e he hgone => ?_)
    fun _ => .inr rfl
  refine .inr (Entry.isLapsed_eq_true_iff.mp ?_)
  by_contra hlive
  exact hgone (List.mem_filter.mpr ⟨he, by simpa [Entry.isLive] using hlive⟩)

/-- Clearing is a new event. -/
theorem clear (h : s.Tracked events now) : s.clear.Tracked (events ++ [cleared]) now :=
  h.restrict (List.nil_sublist _) (fun k => usedSince_concat k _ _) nofun
    (fun _ _ _ => .inl (lastStored?_concat _ _ _)) fun _ => .inl (lastStored?_concat _ _ _)

/-- Reading drops a lapsed entry and brings a live one to the front. -/
theorem get (h : s.Tracked events now) (key : String) :
    (s.get now key).2.Tracked (events ++ reads [key] [(s.get now key).1]) now := by
  rcases s.get_cases now key with
    ⟨-, hget⟩ | ⟨e, hfind, hlapsed, hget⟩ | ⟨e, hfind, -, hget⟩
  · rw [hget]
    exact (List.append_nil events).symm ▸ h
  · obtain ⟨he, rfl⟩ := entry?_eq_some hfind
    have hgone : ∀ a ∈ s.entries, a ∉ without e.key s.entries → a = e := by
      intro a ha hgone
      have hkey : a.key = e.key := by
        by_contra hne
        exact hgone (mem_without_iff.mpr ⟨ha, hne⟩)
      exact List.inj_on_of_nodup_map h.nodup ha he hkey
    rw [hget]
    refine (List.append_nil events).symm ▸ h.restrict (without_sublist e.key s.entries)
      (fun _ => rfl) (fun _ _ => rfl) (fun a ha hout => ?_) fun _ => .inr rfl
    obtain rfl := hgone a ha hout
    exact .inr (Entry.isLapsed_eq_true_iff.mp hlapsed)
  · obtain ⟨he, rfl⟩ := entry?_eq_some hfind
    have hfits : (e :: without e.key s.entries).length ≤ s.capacity :=
      Nat.le_trans (length_without_lt he) h.bounded
    have hput : s.put e = { s with entries := e :: without e.key s.entries } := by
      rw [MemoryStore.put, List.take_of_length_le hfits]
    have hlast : lastStored? e.key (events ++ [read e.key]) = some (e.value, e.expiresAt) :=
      (lastStored?_concat _ _ _).trans (h.latest e he)
    rw [hget]
    exact hput ▸ h.put hlast (fun k _ => lastStored?_concat k _ _) fun k => usedSince_concat k _ _

/-- The first lookup comes before the others. -/
theorem reads_cons (key : String) (value : Option Json) (keys : List String)
    (values : List (Option Json)) :
    reads (key :: keys) (value :: values) = reads [key] [value] ++ reads keys values := by
  cases value <;> simp [reads]

/-- Each successful lookup is a new event. -/
theorem getMany (h : s.Tracked events now) (keys : List String) :
    (s.getMany now keys).2.Tracked (events ++ reads keys (s.getMany now keys).1) now := by
  induction keys generalizing s events with
  | nil => simpa [MemoryStore.getMany, reads] using h
  | cons key keys ih =>
      rw [MemoryStore.getMany, reads_cons, ← List.append_assoc]
      exact ih (h.get key)

/-- **Step.** No operation breaks what links a store to its history. -/
theorem perform (h : s.Tracked events now) (op : StoreOp) :
    (s.perform now op).2.Tracked (events ++ observed now op (s.perform now op).1) now := by
  cases op with
  | set key value ttl =>
      rw [MemoryStore.perform]
      cases hset : s.set? now key value ttl with
      | none => exact (List.append_nil events).symm ▸ h
      | some s' => exact h.set? hset
  | get key => exact h.get key
  | getMany keys => exact h.getMany keys
  | del key => exact h.del key
  | delMany keys => exact h.delMany keys
  | keys => exact (List.append_nil events).symm ▸ h
  | size => exact (List.append_nil events).symm ▸ h
  | prune => exact (List.append_nil events).symm ▸ h.prune
  | clear => exact h.clear

/-- **Run.** The link holds after any operations whose times do not go back. -/
theorem run (h : s.Tracked events now) {ops : List (Uptime × StoreOp)}
    (hsorted : (ops.map (·.1)).Pairwise (· ≤ ·)) (hfrom : ∀ op ∈ ops, now ≤ op.1)
    (hle : now ≤ later) (hto : ∀ op ∈ ops, op.1 ≤ later) :
    (s.run ops).Tracked (events ++ s.history ops) later := by
  induction ops generalizing s events now with
  | nil =>
      rw [history, List.append_nil]
      exact h.mono hle
  | cons op ops ih =>
      obtain ⟨time, op⟩ := op
      rw [List.map_cons, List.pairwise_cons] at hsorted
      have hstep := (h.mono (hfrom _ List.mem_cons_self)).perform op
      have hrest := ih hstep hsorted.2
        (fun op hop => hsorted.1 _ (List.mem_map_of_mem hop)) (hto _ List.mem_cons_self)
        fun op hop => hto op (List.mem_cons_of_mem _ hop)
      rw [history, ← List.append_assoc]
      exact hrest

/-- What is found was last set to that, and has not lapsed. -/
theorem lastStored?_of_get (h : s.Tracked events now) {value : Json}
    (hget : (s.get now key).1 = some value) :
    ∃ expiresAt, lastStored? key events = some (value, expiresAt) ∧ ∀ t ∈ expiresAt, now < t := by
  rcases s.get_cases now key with
    ⟨-, h0⟩ | ⟨e, -, -, h0⟩ | ⟨e, hfind, hlapsed, h0⟩ <;> rw [h0] at hget
  · exact absurd hget nofun
  · exact absurd hget nofun
  · obtain ⟨he, rfl⟩ := entry?_eq_some hfind
    obtain rfl := Option.some.inj hget
    refine ⟨e.expiresAt, h.latest e he, fun t ht => ?_⟩
    by_contra hle
    have hgone := Entry.isLapsed_eq_true_iff.mpr ⟨t, ht, Nat.not_lt.mp hle⟩
    exact absurd (hgone.symm.trans hlapsed) nofun

/-- What was used lately is found while it has not lapsed. -/
theorem get_of_lastStored? (h : s.Tracked events now) {value : Json} {expiresAt : Option Uptime}
    (hlast : lastStored? key events = some (value, expiresAt)) (hlive : ∀ t ∈ expiresAt, now < t)
    (hused : (usedSince key events).length < s.capacity) : (s.get now key).1 = some value := by
  obtain ⟨e, he, rfl⟩ := h.kept key value expiresAt hlast hlive hused
  obtain ⟨rfl, rfl⟩ := Prod.mk.inj (Option.some.inj ((h.latest e he).symm.trans hlast))
  rcases s.get_cases now e.key with
    ⟨hnone, -⟩ | ⟨a, hfind, hlapsed, -⟩ | ⟨a, hfind, -, hget⟩
  · exact absurd (List.find?_eq_none.mp hnone e he) (by simp)
  · obtain ⟨ha, hkey⟩ := entry?_eq_some hfind
    obtain rfl : a = e := List.inj_on_of_nodup_map h.nodup ha he hkey
    obtain ⟨t, ht, hle⟩ := Entry.isLapsed_eq_true_iff.mp hlapsed
    exact absurd (hlive t ht) (Nat.not_lt.mpr hle)
  · obtain ⟨ha, hkey⟩ := entry?_eq_some hfind
    obtain rfl : a = e := List.inj_on_of_nodup_map h.nodup ha he hkey
    rw [hget]

end Tracked

/-- **A store is bounded, makes no value up and keeps what was used lately.** After any operations,
whose times do not go back, the slots hold distinct keys and are no more than there is room for.
What is found under a key was last set there, was not dropped since and has not lapsed. And such a
value is found as long as fewer other keys were used since than there is room for. -/
theorem faithful_run (maxKeys : Nat) {ops : List (Uptime × StoreOp)}
    (hsorted : (ops.map (·.1)).Pairwise (· ≤ ·)) {now : Uptime} (hto : ∀ op ∈ ops, op.1 ≤ now)
    (key : String) (value : Json) :
    let s := (new maxKeys).run ops
    let events := (new maxKeys).history ops
    ((s.entries.map (·.key)).Nodup ∧ s.entries.length ≤ max maxKeys 1) ∧
      ((s.get now key).1 = some value →
        ∃ expiresAt, lastStored? key events = some (value, expiresAt) ∧
          ∀ t ∈ expiresAt, now < t) ∧
      ∀ expiresAt, lastStored? key events = some (value, expiresAt) → (∀ t ∈ expiresAt, now < t) →
        (usedSince key events).length < max maxKeys 1 → (s.get now key).1 = some value := by
  intro s events
  have h : s.Tracked ([] ++ events) now :=
    (Tracked.new maxKeys 0).run hsorted (fun _ _ => Nat.zero_le _) (Nat.zero_le _) hto
  have hroom : s.capacity = max maxKeys 1 := capacity_run _ _
  refine ⟨⟨h.nodup, hroom ▸ h.bounded⟩, h.lastStored?_of_get, ?_⟩
  intro expiresAt hlast hlive hused
  exact h.get_of_lastStored? hlast hlive (hroom ▸ hused)

/-- Three keys take turns in a store for two. -/
def turnover : List (Uptime × StoreOp) :=
  [(0, .set "a" (.int 1) none), (1, .set "b" (.int 2) (some (Span.ofSeconds 1))), (2, .get "a"),
   (3, .set "c" (.int 3) none)]

/-- The key that was read lately is found; the other one, with two used since, was pushed out. -/
theorem faithful_run_turnover :
    (turnover.map (·.1)).Pairwise (· ≤ ·) ∧ (∀ op ∈ turnover, op.1 ≤ 4) ∧
      (usedSince "a" ((new 2).history turnover)).length = 1 ∧
      (((new 2).run turnover).get 4 "a").1 = some (.int 1) ∧
      (usedSince "b" ((new 2).history turnover)).length = 2 ∧
      (((new 2).run turnover).get 4 "b").1 = none := by
  have hsorted : (turnover.map (·.1)).Pairwise (· ≤ ·) := by decide
  have hto : ∀ op ∈ turnover, op.1 ≤ 4 := by decide
  have hlast : lastStored? "a" ((new 2).history turnover) = some (.int 1, none) := rfl
  have hused : (usedSince "a" ((new 2).history turnover)).length = 1 := by decide +kernel
  refine ⟨hsorted, hto, hused, ?_, by decide +kernel, by decide +kernel⟩
  exact (faithful_run 2 hsorted hto "a" (.int 1)).2.2 none hlast nofun (by omega)

end MemoryStore

end Deferral

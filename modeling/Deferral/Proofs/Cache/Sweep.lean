import Deferral.Proofs.Cache.Reset
import Deferral.Proofs.Json.Members

/-!
# Keys that match a pattern

The keys of a store in memory that match a pattern are got or deleted together. To get them is to
look each of them up, which changes the order of the entries; to delete them is to drop them whether
they have lapsed or not. Both go through the same keys, those of the live entries that match.

## Main results

* `sweep_get_eq`, `sweep_delete_eq` — what either answers and leaves behind;
* `sweepsAgree` — both select the same keys, and neither touches anything else.
-/

namespace Deferral

namespace Cache

variable {c : Cache} {store : MemoryStore} {now later : Uptime} {pattern : KeyPattern}
  {m : KeyMatcher} {e : Entry} {key : String} {value : Json}

/-- The live entries of a store whose keys a matcher accepts. -/
def hits (m : KeyMatcher) (store : MemoryStore) (now : Uptime) : List Entry :=
  store.entries.filter fun e => m.isMatch e.key && e.isLive now

/-- The entries of a store whose keys are none of those. -/
def passedOver (m : KeyMatcher) (store : MemoryStore) (now : Uptime) : List Entry :=
  store.entries.filter fun e => e.key ∉ matched m store now

/-- A hit is a live entry whose key the pattern accepts. -/
theorem mem_hits :
    e ∈ hits m store now ↔ e ∈ store.entries ∧ m.isMatch e.key = true ∧ e.isLive now = true := by
  rw [hits, List.mem_filter, Bool.and_eq_true]

/-- The keys of the hits are the keys that are matched. -/
theorem map_key_hits (m : KeyMatcher) (store : MemoryStore) (now : Uptime) :
    (hits m store now).map (·.key) = matched m store now := (matched_eq m store now).symm

/-- No key is matched twice. -/
theorem nodup_matched (hnodup : (store.entries.map (·.key)).Nodup) :
    (matched m store now).Nodup := by
  rw [matched_eq]
  exact hnodup.sublist (List.filter_sublist.map _)

/-- As keys are distinct, the key of an entry is told exactly if the entry itself is a hit. -/
theorem mem_matched_iff (hnodup : (store.entries.map (·.key)).Nodup) (he : e ∈ store.entries) :
    e.key ∈ matched m store now ↔ m.isMatch e.key = true ∧ e.isLive now = true := by
  rw [← map_key_hits, List.mem_map]
  constructor
  · rintro ⟨a, ha, hkey⟩
    obtain ⟨hmem, hhit⟩ := mem_hits.mp ha
    obtain rfl : a = e := List.inj_on_of_nodup_map hnodup hmem he hkey
    exact hhit
  · exact fun hhit => ⟨e, mem_hits.mpr ⟨he, hhit⟩, rfl⟩

/-- The hits and the entries passed over are all that there are. -/
theorem hits_append_passedOver_perm (hnodup : (store.entries.map (·.key)).Nodup) :
    ((hits m store now).reverse ++ passedOver m store now).Perm store.entries := by
  have hrest : passedOver m store now =
      store.entries.filter fun e => !(m.isMatch e.key && e.isLive now) := by
    refine List.filter_congr fun e he => ?_
    rw [Bool.eq_iff_iff, decide_eq_true_iff, mem_matched_iff hnodup he, Bool.not_eq_true',
      ← Bool.not_eq_true, Bool.and_eq_true]
  rw [hrest]
  exact ((List.reverse_perm _).append_right _).trans (List.filter_append_perm _ _)

/-! ### One pass -/

/-- Values that are all there are added as the members of an object are. -/
theorem addFound_eq (values : List (String × Json)) (es : List Entry) :
    addFound values ((es.map (·.key)).zip (es.map fun e => some e.value)) =
      Json.insertMembers values (es.map fun e => (e.key, e.value)) := by
  rw [List.zip_map', addFound, Json.insertMembers, List.foldl_map, List.foldl_map]

/-- **Getting.** The values of the hits are found, and the hits come to the front. -/
theorem sweep_get_eq (hstore : c.backend = .memory store)
    (hnodup : (store.entries.map (·.key)).Nodup)
    (hm : KeyMatcher.parse? pattern (some c.keyHead) = some m) :
    c.sweep now pattern .get =
      (.ok (.found (Json.insertMembers [] ((hits m store now).map fun e => (e.key, e.value)))),
        { c with backend :=
            .memory ⟨store.capacity, (hits m store now).reverse ++ passedOver m store now⟩ }) := by
  have hlive : ∀ e ∈ hits m store now, e ∈ store.entries ∧ e.isLive now = true :=
    fun e he => ⟨(mem_hits.mp he).1, (mem_hits.mp he).2.2⟩
  have hkeys : ((hits m store now).map (·.key)).Nodup :=
    map_key_hits m store now ▸ nodup_matched hnodup
  have hfiltered : (store.keys now).filter m.isMatch = (hits m store now).map (·.key) :=
    (map_key_hits m store now).symm
  have hmany := MemoryStore.getMany_of_live hnodup hkeys hlive
  rw [sweep, hm, hstore]
  simp only [Backend.pages, findPages, Backend.page, hfiltered, Backend.getMany, hmany, addFound_eq]
  rw [passedOver, map_key_hits]

/-- **Deleting.** The keys of the hits are deleted, and what is passed over stays. -/
theorem sweep_delete_eq (hstore : c.backend = .memory store)
    (hm : KeyMatcher.parse? pattern (some c.keyHead) = some m) :
    c.sweep now pattern .delete =
      (.ok (.deleted (matched m store now)),
        { c with backend := .memory ⟨store.capacity, passedOver m store now⟩ }) := by
  rw [sweep_delete hstore hm, MemoryStore.delMany_eq]
  rfl

/-! ### Nothing to go through -/

/-- Where no live key matches, either answers that there is none and changes nothing. -/
theorem sweep_of_hits_eq_nil (hstore : c.backend = .memory store)
    (hnodup : (store.entries.map (·.key)).Nodup)
    (hm : KeyMatcher.parse? pattern (some c.keyHead) = some m) (hnone : hits m store now = []) :
    c.sweep now pattern .get = (.ok (.found []), c) ∧
      c.sweep now pattern .delete = (.ok (.deleted []), c) := by
  have hmatched : matched m store now = [] := by rw [← map_key_hits, hnone, List.map_nil]
  have hall : passedOver m store now = store.entries := by simp [passedOver, hmatched]
  rw [sweep_get_eq hstore hnodup hm, sweep_delete_eq hstore hm, hnone, hmatched, hall,
    List.reverse_nil, List.nil_append, List.map_nil, ← hstore]
  exact ⟨rfl, rfl⟩

/-- No hit is left among what is passed over, then or later. -/
theorem hits_passedOver (hnodup : (store.entries.map (·.key)).Nodup) (hle : now ≤ later) :
    hits m ⟨store.capacity, passedOver m store now⟩ later = [] := by
  refine List.filter_eq_nil_iff.mpr fun e he hhit => ?_
  obtain ⟨hmem, hout⟩ := List.mem_filter.mp he
  obtain ⟨hmatch, hlive⟩ := Bool.and_eq_true_iff.mp hhit
  exact of_decide_eq_true hout
    ((mem_matched_iff hnodup hmem).mpr ⟨hmatch, Entry.isLive_of_le hle hlive⟩)

/-! ### Both agree -/

/-- What it is for the two actions on the keys that match a pattern to agree, where getting them
answers with values and deleting them with keys. -/
structure SweepsAgree (c : Cache) (store : MemoryStore) (now : Uptime) (pattern : KeyPattern)
    (m : KeyMatcher) (found : List (String × Json)) (deleted : List String) : Prop where
  get : (c.sweep now pattern .get).1 = .ok (.found found)
  delete : (c.sweep now pattern .delete).1 = .ok (.deleted deleted)
  /-- Either tells each key once. -/
  once : Json.KeysSorted found ∧ deleted.Nodup
  /-- Both tell the same keys. -/
  same : (found.map (·.1)).Perm deleted
  /-- They are the keys of live entries that the matcher accepts, with the values stored there. -/
  mem_found : ∀ key value, (key, value) ∈ found ↔
    m.isMatch key = true ∧ ∃ e ∈ store.live now, e.key = key ∧ e.value = value
  /-- After getting, the entries are the same, in another order. -/
  afterGet : ∃ entries, entries.Perm store.entries ∧
    (c.sweep now pattern .get).2 = { c with backend := .memory ⟨store.capacity, entries⟩ }
  /-- After deleting, those entries are gone whose keys were told, and no others. -/
  afterDelete : (c.sweep now pattern .delete).2 =
    { c with backend :=
        .memory ⟨store.capacity, store.entries.filter fun e => e.key ∉ deleted⟩ }
  /-- Once the keys have been deleted, neither finds any more. -/
  again :
    let after := (c.sweep now pattern .delete).2
    ∀ later, now ≤ later →
      after.sweep later pattern .get = (.ok (.found []), after) ∧
        after.sweep later pattern .delete = (.ok (.deleted []), after)
  /-- Where no live key matches, both leave the cache as it was. -/
  unchanged : (∀ e ∈ store.live now, m.isMatch e.key = false) →
    (c.sweep now pattern .get).2 = c ∧ (c.sweep now pattern .delete).2 = c

/-- What a sweep finds is the values of the live entries with keys that the pattern accepts. -/
theorem mem_map_hits :
    (key, value) ∈ (hits m store now).map (fun e => (e.key, e.value)) ↔
      m.isMatch key = true ∧ ∃ e ∈ store.live now, e.key = key ∧ e.value = value := by
  rw [List.mem_map]
  constructor
  · rintro ⟨e, he, heq⟩
    obtain ⟨rfl, rfl⟩ := Prod.mk.inj heq
    obtain ⟨hmem, hmatch, hlive⟩ := mem_hits.mp he
    exact ⟨hmatch, e, List.mem_filter.mpr ⟨hmem, hlive⟩, rfl, rfl⟩
  · rintro ⟨hmatch, e, he, rfl, rfl⟩
    obtain ⟨hmem, hlive⟩ := List.mem_filter.mp he
    exact ⟨e, mem_hits.mpr ⟨hmem, hmatch, hlive⟩, rfl⟩

/-- **Getting and deleting agree.** For a cache over a store in memory whose entries have distinct
keys, lapsed or not, and for every pattern that means something. -/
theorem sweepsAgree (hstore : c.backend = .memory store)
    (hnodup : (store.entries.map (·.key)).Nodup)
    (hm : KeyMatcher.parse? pattern (some c.keyHead) = some m) :
    ∃ found deleted, c.SweepsAgree store now pattern m found deleted := by
  let pairs := (hits m store now).map fun e => (e.key, e.value)
  have hkeys : pairs.map (·.1) = matched m store now := by
    rw [List.map_map, ← map_key_hits]
    rfl
  have hperm : (Json.insertMembers [] pairs).Perm pairs := by
    have hdistinct : (List.map (·.1) (pairs ++ [])).Nodup := by
      rw [List.append_nil, hkeys]
      exact nodup_matched hnodup
    exact (Json.insertMembers_perm hdistinct).trans (.of_eq (List.append_nil pairs))
  have hget : c.sweep now pattern .get = _ := sweep_get_eq hstore hnodup hm
  have hdelete : c.sweep now pattern .delete = _ := sweep_delete_eq hstore hm
  refine ⟨_, _, {
    get := congrArg Prod.fst hget
    delete := congrArg Prod.fst hdelete
    once := ⟨Json.KeysSorted.insertMembers List.Pairwise.nil pairs, nodup_matched hnodup⟩
    same := hkeys ▸ hperm.map _
    mem_found := fun key value => hperm.mem_iff.trans mem_map_hits
    afterGet := ⟨_, hits_append_passedOver_perm hnodup, congrArg Prod.snd hget⟩
    afterDelete := congrArg Prod.snd hdelete
    again := ?_
    unchanged := ?_ }⟩
  · rw [hdelete]
    intro after later hle
    have hleft : ((passedOver m store now).map (·.key)).Nodup :=
      hnodup.sublist (List.filter_sublist.map _)
    exact sweep_of_hits_eq_nil rfl hleft hm (hits_passedOver hnodup hle)
  · intro hnone
    have hhits : hits m store now = [] := by
      refine List.eq_nil_iff_forall_not_mem.mpr fun e he => ?_
      obtain ⟨hmem, hmatch, hlive⟩ := mem_hits.mp he
      rw [hnone e (List.mem_filter.mpr ⟨hmem, hlive⟩)] at hmatch
      exact absurd hmatch Bool.false_ne_true
    obtain ⟨h₁, h₂⟩ := sweep_of_hits_eq_nil hstore hnodup hm hhits
    exact ⟨congrArg Prod.snd h₁, congrArg Prod.snd h₂⟩

/-- A store with two live entries of one cache, one of them to lapse, a lapsed entry of it, and an
entry of another cache. -/
def motley : MemoryStore :=
  ⟨10, [⟨"p:b", .int 2, none⟩, ⟨"q:a", .int 4, none⟩, ⟨"p:c", .int 3, some 4⟩,
    ⟨"p:a", .int 1, some 10⟩]⟩

/-- All keys of the cache are got or deleted: the two that are live, each with its value. -/
theorem sweepsAgree_motley :
    let c := ofBackend (.memory motley) (.withKeyHead "p:") false
    ∃ m, KeyMatcher.parse? (.text "*") (some c.keyHead) = some m ∧
      ∃ found deleted, c.SweepsAgree motley 5 (.text "*") m found deleted ∧
        deleted = ["p:b", "p:a"] ∧ ("p:a", .int 1) ∈ found ∧ found.length = 2 := by
  intro c
  have hmatched : (KeyMatcher.parse? (.text "*") (some c.keyHead)).map (matched · motley 5) =
      some ["p:b", "p:a"] := by
    decide +kernel
  obtain ⟨m, hm, hkeys⟩ := Option.map_eq_some_iff.mp hmatched
  have hdistinct : (motley.entries.map (·.key)).Nodup := by decide +kernel
  obtain ⟨found, deleted, h⟩ :
      ∃ found deleted, c.SweepsAgree motley 5 (.text "*") m found deleted :=
    sweepsAgree rfl hdistinct hm
  obtain rfl : deleted = ["p:b", "p:a"] := by
    have hdelete := h.delete.symm.trans (congrArg Prod.fst (sweep_delete_eq rfl hm))
    rw [PatternResult.deleted.inj (Except.ok.inj hdelete), hkeys]
  have hlength : found.length = 2 := by simpa using h.same.length_eq
  obtain ⟨⟨key, value⟩, hmem, rfl⟩ :=
    List.mem_map.mp (h.same.mem_iff.mpr (List.mem_cons_of_mem _ List.mem_cons_self))
  have hone : ("p:a", Json.int 1) ∈ found := by
    have hmatch := ((h.mem_found _ _).mp hmem).1
    have hlive : ⟨"p:a", .int 1, some 10⟩ ∈ motley.live 5 := by
      simp [motley, MemoryStore.live, Entry.isLive, Entry.isLapsed]
    exact (h.mem_found _ _).mpr ⟨hmatch, _, hlive, rfl, rfl⟩
  exact ⟨m, hm, found, _, h, rfl, hone, hlength⟩

end Cache

end Deferral

import Deferral.Proofs.Cache.Backends
import Deferral.Proofs.Cache.Sweep
import Deferral.Proofs.Pattern.Faithful
import Mathlib.Data.List.Infix

/-!
# Keys as patterns

A key without special characters that is given as a pattern names one full key. It names the full
key of its own entry unless it mentions the key head of the cache: a key in which the key head
occurs is taken for a full key already, and nothing is put before it.

## Main results

* `exists_parse?_named` — what a key accepts as a pattern;
* `sweep_text_of_named` — what an entry in front of a store that is named by a key comes to;
* `addressed_set_iff` — exactly which keys address their own entries.
-/

namespace Deferral

/-- The search for a text within a text is the relation of being part of it. -/
theorem Text.occursIn_iff {needle text : List Char} :
    Text.occursIn needle text = true ↔ needle <:+: text := by
  induction text with
  | nil => simp [Text.occursIn]
  | cons c text ih =>
      rw [Text.occursIn, Bool.or_eq_true, List.isPrefixOf_iff_prefix, ih, List.infix_cons_iff]

namespace Cache

variable {c : Cache} {store : MemoryStore} {now later : Uptime} {key : String} {value : Json}
  {ttl : Option Ttl} {e : Entry} {rest : List Entry}

/-- Whether a key mentions the key head of a cache, if there is one. -/
def Mentions (c : Cache) (key : String) : Prop :=
  c.keyHead ≠ "" ∧ c.keyHead.toList <:+: key.toList

instance (c : Cache) (key : String) : Decidable (c.Mentions key) :=
  inferInstanceAs (Decidable (_ ∧ _))

/-- The full key that a key names as a pattern. -/
def named (c : Cache) (key : String) : String := if c.Mentions key then key else c.fullKey key

/-- A key addresses an entry of a value: given as a pattern, it finds the entry and nothing else,
and deletes it and nothing else. -/
structure Addressed (c : Cache) (store : MemoryStore) (now : Uptime) (key : String) (value : Json) :
    Prop where
  found : (c.sweep now (.text key) .get).1 = .ok (.found [(c.fullKey key, value)])
  unchanged : (c.sweep now (.text key) .get).2 = c
  deleted : (c.sweep now (.text key) .delete).1 = .ok (.deleted [c.fullKey key])
  left : (c.sweep now (.text key) .delete).2 =
    { c with backend :=
        .memory { store with entries := store.entries.filter fun e => e.key ≠ c.fullKey key } }

/-! ### What a key names -/

/-- A key that is given as a pattern is looked for under the name that it has in the store. -/
theorem scopedGlob_eq (c : Cache) (key : String) :
    KeyMatcher.scopedGlob (KeyMatcher.keyHead? (some c.keyHead)) key.toList =
      (c.named key).toList := by
  by_cases hhead : c.keyHead = ""
  · have hplain : c.named key = key := by simp [named, Mentions, fullKey, hhead]
    rw [hhead, hplain]
    rfl
  · rw [KeyMatcher.keyHead?_some hhead, KeyMatcher.scopedGlob, named]
    by_cases hmentions : c.Mentions key
    · rw [if_pos (Text.occursIn_iff.mpr hmentions.2), if_pos hmentions]
    · have hoccurs : ¬ Text.occursIn c.keyHead.toList key.toList = true :=
        fun h => hmentions ⟨hhead, Text.occursIn_iff.mp h⟩
      rw [if_neg hoccurs, if_neg hmentions, fullKey, String.toList_append]

/-- A key without special characters accepts the full key that it names. -/
theorem exists_parse?_named (hliteral : KeyMatcher.literalRegex? key.toList = none)
    (hplain : ∀ ch ∈ (c.fullKey key).toList, Glob.isWild ch = false ∧ ch ≠ '[') :
    ∃ m, KeyMatcher.parse? (.text key) (some c.keyHead) = some m ∧
      ∀ k, m.isMatch k = true ↔ k = c.named key := by
  have hnamed : ∀ ch ∈ (c.named key).toList, Glob.isWild ch = false ∧ ch ≠ '[' := by
    intro ch hch
    refine hplain ch ?_
    rw [named] at hch
    split at hch
    · rw [fullKey, String.toList_append]
      exact List.mem_append_right _ hch
    · exact hch
  have hscoped := c.scopedGlob_eq key
  obtain ⟨m, hm, hmatch⟩ := KeyMatcher.exists_parse?_text hliteral
    (fun ch hch => (hnamed ch (hscoped ▸ hch)).1) fun hch => (hnamed _ (hscoped ▸ hch)).2 rfl
  refine ⟨m, hm, fun k => ?_⟩
  rw [hmatch, hscoped, String.toList_inj]

/-! ### The entry that is named -/

/-- No other entry has the key of the one in front. -/
theorem ne_key_of_front (hnodup : ((e :: rest).map (·.key)).Nodup) {a : Entry} (ha : a ∈ rest) :
    a.key ≠ e.key :=
  fun hsame => (List.nodup_cons.mp hnodup).1 (List.mem_map.mpr ⟨a, ha, hsame⟩)

/-- An entry in front of a store that alone is accepted, and is live, is all that there is to
hit. -/
theorem hits_of_front {m : KeyMatcher} (hnodup : ((e :: rest).map (·.key)).Nodup)
    (hmatch : ∀ k, m.isMatch k = true ↔ k = e.key) (hlive : e.isLive now = true) (capacity : Nat) :
    hits m ⟨capacity, e :: rest⟩ now = [e] := by
  have hothers : rest.filter (fun a => m.isMatch a.key && a.isLive now) = [] :=
    List.filter_eq_nil_iff.mpr fun a ha hhit =>
      ne_key_of_front hnodup ha ((hmatch a.key).mp (Bool.and_eq_true_iff.mp hhit).1)
  have hfront : (m.isMatch e.key && e.isLive now) = true :=
    Bool.and_eq_true_iff.mpr ⟨(hmatch e.key).mpr rfl, hlive⟩
  rw [hits, List.filter_cons, if_pos hfront, hothers]

/-- A key addresses a live entry in front of a store, if it is the entry that the key names. -/
theorem sweep_text_of_named (hstore : c.backend = .memory store)
    (hentries : store.entries = e :: rest)
    (hnodup : (store.entries.map (·.key)).Nodup) (hlive : e.isLive now = true)
    (hliteral : KeyMatcher.literalRegex? key.toList = none)
    (hplain : ∀ ch ∈ (c.fullKey key).toList, Glob.isWild ch = false ∧ ch ≠ '[')
    (hkey : e.key = c.fullKey key) (hnamed : c.named key = c.fullKey key) :
    c.Addressed store now key e.value := by
  obtain ⟨m, hm, hmatch⟩ := exists_parse?_named hliteral hplain
  rw [hnamed, ← hkey] at hmatch
  obtain ⟨capacity, entries⟩ := store
  obtain rfl : entries = e :: rest := hentries
  have hhits : hits m ⟨capacity, e :: rest⟩ now = [e] := hits_of_front hnodup hmatch hlive capacity
  have hmatched : matched m ⟨capacity, e :: rest⟩ now = [e.key] := by
    rw [← map_key_hits, hhits, List.map_singleton]
  have hleft : passedOver m ⟨capacity, e :: rest⟩ now =
      (e :: rest).filter fun a => a.key ≠ c.fullKey key := by
    rw [passedOver, hmatched, ← hkey]
    exact List.filter_congr fun a _ => by simp
  have hrest : (e :: rest).filter (fun a => a.key ≠ c.fullKey key) = rest := by
    rw [List.filter_cons_of_neg (by simp [hkey])]
    exact List.filter_eq_self.mpr fun a ha =>
      decide_eq_true (hkey ▸ ne_key_of_front hnodup ha)
  have hget : c.sweep now (.text key) .get = _ := sweep_get_eq hstore hnodup hm
  have hdelete : c.sweep now (.text key) .delete = _ := sweep_delete_eq hstore hm
  rw [hhits, hleft, hrest] at hget
  rw [hmatched, hleft] at hdelete
  exact {
    found := by rw [hget, ← hkey]; rfl
    unchanged := by
      rw [hget]
      exact congrArg (fun b => { c with backend := b }) hstore.symm
    deleted := by rw [hdelete, hkey]
    left := by rw [hdelete] }

/-! ### Entries that were set -/

/-- A value that was put into a store with room for an entry stands in front of it. -/
theorem exists_front_set (hstore : c.backend = .memory store) (hroom : 0 < store.capacity)
    (hnodup : (store.entries.map (·.key)).Nodup) (hkept : c.effectiveTtl ttl ≠ .disabled)
    (hset : (c.set now key value ttl).1 = .ok ())
    (hlasting : ∀ span ∈ (c.effectiveTtl ttl).expiry?, later < now + span.nanos) :
    ∃ s e rest, (c.set now key value ttl).2 = { c with backend := .memory s } ∧
      s.entries = e :: rest ∧ (s.entries.map (·.key)).Nodup ∧ e.key = c.fullKey key ∧
      e.value = value ∧ e.isLive later = true := by
  rw [set_of_kept key hkept, hstore, Backend.set] at hset ⊢
  cases hput : store.set? now (c.fullKey key) value (c.effectiveTtl ttl).expiry? with
  | none =>
      rw [hput] at hset
      cases hset
  | some s =>
      let e : Entry :=
        ⟨c.fullKey key, value, (c.effectiveTtl ttl).expiry?.map fun d => now + d.nanos⟩
      obtain rfl : s = store.put e := MemoryStore.set?_eq_some hput
      obtain ⟨n, hn⟩ := Nat.exists_eq_add_of_lt hroom
      have hentries : (store.put e).entries =
          e :: (MemoryStore.without e.key store.entries).take n := by
        rw [MemoryStore.put, hn, Nat.zero_add, List.take_succ_cons]
      refine ⟨store.put e, e, _, rfl, hentries, ?_, rfl, rfl, ?_⟩
      · exact (MemoryStore.nodup_cons_without hnodup).sublist ((List.take_sublist _ _).map _)
      · rw [Entry.isLive, Bool.not_eq_true', Bool.eq_false_iff]
        intro hlapsed
        obtain ⟨t, ht, hle⟩ := Entry.isLapsed_eq_true_iff.mp hlapsed
        obtain ⟨span, hspan, rfl⟩ := Option.map_eq_some_iff.mp ht
        exact absurd (hlasting span hspan) (Nat.not_lt.mpr hle)

/-- **Keys as patterns.** A value was put under a key, and has not lapsed. There are no special
characters in the key and in the key head, and the key is no regular expression. Then the key
addresses the entry, whatever else is in the store, exactly if it does not mention the key head. -/
theorem addressed_set_iff (hstore : c.backend = .memory store) (hroom : 0 < store.capacity)
    (hnodup : (store.entries.map (·.key)).Nodup)
    (hplain : ∀ ch ∈ (c.fullKey key).toList, Glob.isWild ch = false ∧ ch ≠ '[')
    (hliteral : KeyMatcher.literalRegex? key.toList = none)
    (hkept : c.effectiveTtl ttl ≠ .disabled) (hset : (c.set now key value ttl).1 = .ok ())
    (hlasting : ∀ span ∈ (c.effectiveTtl ttl).expiry?, later < now + span.nanos) :
    let d := (c.set now key value ttl).2
    (∃ s, d.backend = .memory s ∧ d.Addressed s later key value) ↔
      c.keyHead = "" ∨ ¬ c.keyHead.toList <:+: key.toList := by
  intro d
  obtain ⟨s, e, rest, hd, hentries, hdistinct, hkey, rfl, hlive⟩ :=
    exists_front_set hstore hroom hnodup hkept hset hlasting
  have hafter : d.backend = .memory s := congrArg Cache.backend hd
  have hfull : d.fullKey key = c.fullKey key := by rw [show d = _ from hd]; rfl
  have hhead : d.keyHead = c.keyHead := by rw [show d = _ from hd]; rfl
  constructor
  · rintro ⟨s', -, haddressed⟩
    by_contra hmentioned
    obtain ⟨hne, hinfix⟩ := not_or.mp hmentioned
    have hmentions : d.Mentions key := ⟨hhead ▸ hne, hhead ▸ not_not.mp hinfix⟩
    obtain ⟨m, hm, hmatch⟩ := exists_parse?_named (c := d) hliteral (hfull ▸ hplain)
    have hget : (d.sweep later (.text key) .get).1 = _ :=
      congrArg Prod.fst (sweep_get_eq hafter hdistinct hm)
    have hfound := PatternResult.found.inj (Except.ok.inj (haddressed.found.symm.trans hget))
    -- What is found is named by the key, and that is the key itself.
    have hmem : (d.fullKey key, e.value) ∈ Json.insertMembers [] _ :=
      hfound ▸ List.mem_singleton.mpr rfl
    rcases Json.mem_or_mem_of_mem_insertMembers hmem with hhit | hnil
    · have hsame := (hmatch _).mp (mem_map_hits.mp hhit).1
      rw [named, if_pos hmentions, fullKey, String.append_eq_right_iff] at hsame
      exact hmentions.1 hsame
    · exact absurd hnil List.not_mem_nil
  · intro hunmentioned
    have hnamed : d.named key = d.fullKey key := by
      refine if_neg fun hmentions => ?_
      rw [Mentions, hhead] at hmentions
      rcases hunmentioned with hnone | hout
      · exact hmentions.1 hnone
      · exact hout hmentions.2
    exact ⟨s, hafter, sweep_text_of_named hafter hentries hdistinct hlive hliteral (hfull ▸ hplain)
      (hfull ▸ hkey) hnamed⟩

/-- A cache over a store with room for three, in which a key stands that the dot of another would
match in a regular expression, and a key of another cache. -/
def crowded : Cache :=
  ofBackend (.memory ⟨3, [⟨"p:axb", .int 2, none⟩, ⟨"q:a.b", .int 3, some 9⟩]⟩) (.withKeyHead "p:")
    false

/-- A value is put under a key with a dot in it. The key addresses it. -/
theorem addressed_set_iff_dot :
    (∀ ch ∈ (crowded.fullKey "a.b").toList, Glob.isWild ch = false ∧ ch ≠ '[') ∧
      KeyMatcher.literalRegex? "a.b".toList = none ∧
      crowded.effectiveTtl (some .indefinite) ≠ .disabled ∧
      (crowded.set 5 "a.b" (.int 1) (some .indefinite)).1 = .ok () ∧
      let d := (crowded.set 5 "a.b" (.int 1) (some .indefinite)).2
      ∃ s, d.backend = .memory s ∧ d.Addressed s 7 "a.b" (.int 1) ∧ s.entries.length = 3 := by
  have hfull : crowded.fullKey "a.b" = "p:a.b" := by decide +kernel
  have hhead : crowded.keyHead = "p:" := by decide +kernel
  have hplain : ∀ ch ∈ (crowded.fullKey "a.b").toList, Glob.isWild ch = false ∧ ch ≠ '[' := by
    rw [hfull]
    simp [Glob.isWild]
  have hliteral : KeyMatcher.literalRegex? "a.b".toList = none := rfl
  have hset : (crowded.set 5 "a.b" (.int 1) (some .indefinite)).1 = .ok () := by decide +kernel
  have hthree : ((crowded.set 5 "a.b" (.int 1) (some .indefinite)).2.backend.memory?.map
      (·.entries.length)) = some 3 := by decide +kernel
  have hkept : crowded.effectiveTtl (some .indefinite) ≠ .disabled := nofun
  have hlasting : ∀ span ∈ (crowded.effectiveTtl (some .indefinite)).expiry?, 7 < 5 + span.nanos :=
    fun _ hspan => absurd hspan nofun
  obtain ⟨store, hstore⟩ : ∃ store, crowded.backend = .memory store := ⟨_, rfl⟩
  have hnodup : (store.entries.map (·.key)).Nodup := by
    obtain rfl := Backend.memory.inj hstore
    decide +kernel
  have hroom : 0 < store.capacity := by
    obtain rfl := Backend.memory.inj hstore
    decide
  refine ⟨hplain, hliteral, hkept, hset, ?_⟩
  obtain ⟨s, hs, haddressed⟩ :=
    (addressed_set_iff hstore hroom hnodup hplain hliteral hkept hset hlasting).mpr
      (.inr (by rw [hhead]; decide))
  rw [hs] at hthree
  exact ⟨s, hs, haddressed, Option.some.inj hthree⟩

/-- A value is put under a key that mentions the key head, and is stored. The key does not address
it: as a pattern it finds nothing. -/
theorem not_addressed_mention :
    let c := ofBackend (.memory (.new 500)) (.withKeyHead "p:") false
    let d := (c.set 0 "p:k" (.int 1) none).2
    (∀ ch ∈ (c.fullKey "p:k").toList, Glob.isWild ch = false ∧ ch ≠ '[') ∧
      KeyMatcher.literalRegex? "p:k".toList = none ∧ c.effectiveTtl none = .seconds 60 ∧
      (c.set 0 "p:k" (.int 1) none).1 = .ok () ∧
      d.backend.memory?.map (·.keys 1) = some ["p:p:k"] ∧
      (d.sweep 1 (.text "p:k") .get).1.map PatternResult.size = .ok 0 ∧
      ¬ ∃ s, d.backend = .memory s ∧ d.Addressed s 1 "p:k" (.int 1) := by
  intro c d
  have hfull : c.fullKey "p:k" = "p:p:k" := by decide +kernel
  have hsize : (d.sweep 1 (.text "p:k") .get).1.map PatternResult.size = .ok 0 := by decide +kernel
  have hplain : ∀ ch ∈ (c.fullKey "p:k").toList, Glob.isWild ch = false ∧ ch ≠ '[' := by
    rw [hfull]
    simp [Glob.isWild]
  refine ⟨hplain, rfl, by decide +kernel, by decide +kernel, by decide +kernel, hsize, ?_⟩
  rintro ⟨s, -, haddressed⟩
  rw [haddressed.found] at hsize
  exact absurd hsize nofun

end Cache

end Deferral

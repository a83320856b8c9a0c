import Deferral.Proofs.Cache.Scanning
import Deferral.Proofs.Cache.Sweep

/-!
# Regular expressions over pages

A regular expression is matched by the cache and not by the server, which is asked for all its keys.
However the server pages them, with empty pages and with keys that come again, a cache on the server
finds what a cache in memory finds that holds the same, and both hold the same after deleting.

## Main results

* `sweep_get_eq_gather`, `sweep_get_onServer`, `sweep_delete_onServer` — what either cache answers;
* `ignoresPaging_of_regex` — the answers and what is left do not depend on the pages.
-/

namespace Deferral

/-- The regular expression that a pattern is, as it stands or between slashes. -/
def KeyPattern.regex? : KeyPattern → Option Regex
  | .regex r => some r
  | .text s => KeyMatcher.literalRegex? s.toList

/-- A pattern that is a regular expression is matched by it, under any key head. -/
theorem KeyMatcher.parse?_of_regex? {pattern : KeyPattern} {re : Regex}
    (h : pattern.regex? = some re) (head : Option String) :
    parse? pattern head = some (.regex re (keyHead? head)) := by
  cases pattern with
  | regex r => rw [parse?, Option.some.inj h]
  | text s =>
      have hliteral : literalRegex? s.toList = some re := h
      simp only [parse?, hliteral]

namespace RedisServer

variable {r : RedisServer} {key : String} {keys : List String}

/-- The keys of a server are those that it has a text for. -/
theorem mem_keys_iff : key ∈ r.keys ↔ (r.text? key).isSome = true := by
  rw [text?, List.lookup_isSome_iff, keys, List.mem_map]
  refine exists_congr fun d => and_congr_right fun _ => ?_
  rw [beq_iff_eq, eq_comm]

/-- Keys that were taken out are not found, and all others as before. -/
theorem lookup_withoutAll (key : String) (keys : List String) (data : List (String × List Char)) :
    (withoutAll keys data).lookup key = if key ∈ keys then none else data.lookup key := by
  rw [← foldl_without]
  induction keys generalizing data with
  | nil => rfl
  | cons k keys ih =>
      rw [List.foldl_cons, ih, lookup_without]
      by_cases hk : key = k <;> simp [hk]

/-- Only where no text is, nothing is read. -/
theorem decode_eq_none_iff {text : Option (List Char)} : decode text = .ok none ↔ text = none := by
  cases text with
  | none => simp [decode]
  | some cs =>
      rw [decode]
      cases Json.parse? cs <;> simp

end RedisServer

namespace MemoryStore

variable {s : MemoryStore} {r : RedisServer} {now : Uptime} {key : String} {value : Json}

/-- A server that refuses nothing holds what a store does at a time: under every key the text of the
value that can be read from the store, or no text if there is none. -/
structure HeldBy (s : MemoryStore) (r : RedisServer) (now : Uptime) : Prop where
  faultless : r.Faultless
  nodup : (s.entries.map (·.key)).Nodup
  same : ∀ key, RedisServer.decode (r.text? key) = .ok (s.value? now key)

/-- A key with a value is among the keys of a store. -/
theorem mem_keys_of_value? (hnodup : (s.entries.map (·.key)).Nodup)
    (h : s.value? now key = some value) : key ∈ s.keys now := by
  obtain ⟨e, he, hlive, hkey, -⟩ := (value?_eq_some_iff hnodup).mp h
  exact mem_keys_iff.mpr ⟨e, he, hlive, hkey⟩

/-- What has a value in the store has a text on the server. -/
theorem HeldBy.mem_keys (h : s.HeldBy r now) (hvalue : s.value? now key = some value) :
    key ∈ r.keys := by
  rw [RedisServer.mem_keys_iff, Option.isSome_iff_ne_none]
  intro hnone
  have hsame := h.same key
  rw [hnone, hvalue] at hsame
  exact absurd hsame nofun

/-- A server that holds what a store holds has no text where the store has no value. -/
theorem HeldBy.text?_eq_none (h : s.HeldBy r now) (hvalue : s.value? now key = none) :
    r.text? key = none :=
  RedisServer.decode_eq_none_iff.mp ((h.same key).trans (congrArg _ hvalue))

/-- What can be read does not depend on the order of the entries. -/
theorem value?_of_perm {entries : List Entry} (hnodup : (s.entries.map (·.key)).Nodup)
    (hperm : entries.Perm s.entries) (key : String) :
    ({ s with entries } : MemoryStore).value? now key = s.value? now key := by
  have hdistinct : (entries.map (·.key)).Nodup := (hperm.map _).nodup_iff.mpr hnodup
  refine Option.ext fun value => ?_
  rw [value?_eq_some_iff hdistinct, value?_eq_some_iff hnodup]
  exact exists_congr fun e => and_congr_left fun _ => hperm.mem_iff

/-- What is passed over can be read as before, and nothing else. -/
theorem value?_passedOver (hnodup : (s.entries.map (·.key)).Nodup) (m : KeyMatcher) (key : String) :
    (⟨s.capacity, Cache.passedOver m s now⟩ : MemoryStore).value? now key =
      if key ∈ Cache.matched m s now then none else s.value? now key := by
  have hdistinct : ((Cache.passedOver m s now).map (·.key)).Nodup :=
    hnodup.sublist (List.filter_sublist.map _)
  refine Option.ext fun value => ?_
  rw [value?_eq_some_iff hdistinct]
  simp only [Cache.passedOver, List.mem_filter, decide_eq_true_iff]
  split
  · rename_i hmatched
    constructor
    · rintro ⟨e, ⟨-, hout⟩, -, rfl, -⟩
      exact absurd hmatched hout
    · intro hnone
      cases hnone
  · rename_i hout
    rw [value?_eq_some_iff hnodup]
    constructor
    · rintro ⟨e, ⟨he, -⟩, hlive, hkey, hvalue⟩
      exact ⟨e, he, hlive, hkey, hvalue⟩
    · rintro ⟨e, he, hlive, rfl, hvalue⟩
      exact ⟨e, ⟨he, hout⟩, hlive, rfl, hvalue⟩

end MemoryStore

namespace Cache

variable {c d : Cache} {store : MemoryStore} {r : RedisServer} {now : Uptime}
  {pattern : KeyPattern} {action : PatternAction} {m : KeyMatcher} {it : ScanIteration} {re : Regex}

/-! ### Either cache -/

/-- A cache in memory finds the values under the keys that match. -/
theorem sweep_get_eq_gather (hstore : c.backend = .memory store)
    (hnodup : (store.entries.map (·.key)).Nodup)
    (hm : KeyMatcher.parse? pattern (some c.keyHead) = some m) :
    (c.sweep now pattern .get).1 =
      .ok (.found (gather (store.value? now) [] (matched m store now))) := by
  have hvalues : (hits m store now).map (fun e => some e.value) =
      ((hits m store now).map (·.key)).map (store.value? now) := by
    rw [List.map_map]
    refine List.map_congr_left fun e he => ?_
    obtain ⟨hmem, -, hlive⟩ := mem_hits.mp he
    exact ((MemoryStore.value?_eq_some_iff hnodup).mpr ⟨e, hmem, hlive, rfl, rfl⟩).symm
  rw [sweep_get_eq hstore hnodup hm, ← addFound_eq, hvalues, addFound_zip_map, map_key_hits]

/-- The keys of an iteration that a matcher accepts, each as often as it comes. -/
def brought (m : KeyMatcher) (it : ScanIteration) : List String := it.keys.filter m.isMatch

/-- A cache on a server finds the values under the keys that are brought and match. -/
theorem sweep_get_onServer {f : String → Option Json} (hr : d.backend = .redis r)
    (h : r.Faultless) (hread : ∀ key, RedisServer.decode (r.text? key) = .ok (f key))
    (hm : KeyMatcher.parse? pattern (some d.keyHead) = some m)
    (hpages : r.paging r.keys = it.pages) (now : Uptime) :
    ∃ faults, (∀ x ∈ faults, x = none) ∧ d.sweep now pattern .get =
      (.ok (.found (gather f [] (brought m it))),
        { d with backend := .redis { r with faults } }) := by
  obtain ⟨faults, hfaults, hfind⟩ := findPages_onServer (m := m) h hread now [] it.pages
  refine ⟨faults, hfaults, ?_⟩
  have hserver : (Backend.redis r).pages now = it.pages := hpages
  simp only [sweep, hm, hr, hserver, hfind]
  rfl

/-- On a server the keys that are brought and match are deleted. -/
theorem sweep_delete_onServer (hr : d.backend = .redis r) (h : r.Faultless)
    (hm : KeyMatcher.parse? pattern (some d.keyHead) = some m)
    (hpages : r.paging r.keys = it.pages) (now : Uptime) :
    ∃ faults, (∀ x ∈ faults, x = none) ∧ d.sweep now pattern .delete =
      (.ok (.deleted (brought m it)),
        { d with backend := .redis { r with
            faults, data := RedisServer.withoutAll (brought m it) r.data } }) := by
  obtain ⟨faults, hfaults, hdelete⟩ := deletePages_onServer (m := m) h [] it.pages
  refine ⟨faults, hfaults, ?_⟩
  have hserver : (Backend.redis r).pages now = it.pages := hpages
  simp only [sweep, hm, hr, hserver, hdelete]
  rfl

/-! ### Both caches -/

/-- Two caches with one key head that hold the same at a time, one in memory and one on a server. -/
structure HoldsAlike (c d : Cache) (now : Uptime) : Prop where
  heads : c.keyHead = d.keyHead
  stores : ∃ s r, c.backend = .memory s ∧ d.backend = .redis r ∧ s.HeldBy r now

/-- What it is for the keys that match a pattern not to depend on how the server of one cache pages
its keys, since they are those of the other cache. -/
structure IgnoresPaging (c d : Cache) (it : ScanIteration) (now : Uptime) (pattern : KeyPattern)
    (action : PatternAction) : Prop where
  /-- The cursors lead to the end of the iteration. -/
  walked : d.sweepAlong it.replies now pattern action = some (d.sweep now pattern action)
  /-- Both find the same values under the same keys. -/
  found : action = .get → ∃ values, (c.sweep now pattern action).1 = .ok (.found values) ∧
    (d.sweep now pattern action).1 = .ok (.found values)
  /-- Neither fails to delete. -/
  deleted : action = .delete → ∃ keys more, (c.sweep now pattern action).1 = .ok (.deleted keys) ∧
    (d.sweep now pattern action).1 = .ok (.deleted more)
  /-- Both hold the same afterwards. -/
  after : (c.sweep now pattern action).2.HoldsAlike (d.sweep now pattern action).2 now

/-- What is brought is what comes on some page and matches. -/
theorem mem_brought {key : String} : key ∈ brought m it ↔ key ∈ it.keys ∧ m.isMatch key = true :=
  List.mem_filter

/-- A key with a value is matched exactly if the pattern accepts it. -/
theorem mem_matched_of_value? {key : String} {value : Json}
    (hnodup : (store.entries.map (·.key)).Nodup) (hvalue : store.value? now key = some value) :
    key ∈ matched m store now ↔ m.isMatch key = true := by
  rw [matched, List.mem_filter, and_iff_right (MemoryStore.mem_keys_of_value? hnodup hvalue)]

/-- After matching keys were deleted from a server that had brought every key which is there from
the beginning to the end, what is left on it is what the store passes over. -/
theorem read_after_delete {faults : List (Option ServerError)} (h : store.HeldBy r now)
    (hcovers : it.Covers r.keys
      ({ r with faults, data := RedisServer.withoutAll (brought m it) r.data } : RedisServer).keys)
    (key : String) :
    RedisServer.decode (RedisServer.text?
        { r with faults, data := RedisServer.withoutAll (brought m it) r.data } key) =
      .ok ((⟨store.capacity, passedOver m store now⟩ : MemoryStore).value? now key) := by
  have htext : RedisServer.text?
      { r with faults, data := RedisServer.withoutAll (brought m it) r.data } key =
        if key ∈ brought m it then none else r.text? key :=
    RedisServer.lookup_withoutAll key _ _
  rw [MemoryStore.value?_passedOver h.nodup, htext]
  cases hvalue : store.value? now key with
  | none =>
      rw [h.text?_eq_none hvalue, ite_self, ite_self]
      rfl
  | some value =>
      have hread : RedisServer.decode (r.text? key) = .ok (some value) := hvalue ▸ h.same key
      have hmatched := mem_matched_of_value? (m := m) h.nodup hvalue
      by_cases hmatch : m.isMatch key = true
      · -- A key that matches and was not brought would be there to the end.
        have hbrought : key ∈ brought m it := by
          by_contra hout
          have hbefore := h.mem_keys hvalue
          rw [if_neg hout] at htext
          have hafter := RedisServer.mem_keys_iff.mpr
            (htext.symm ▸ RedisServer.mem_keys_iff.mp hbefore)
          exact hout (mem_brought.mpr ⟨hcovers key hbefore hafter, hmatch⟩)
        rw [if_pos hbrought, if_pos (hmatched.mpr hmatch)]
        rfl
      · have hout : key ∉ brought m it := fun hmem => hmatch (mem_brought.mp hmem).2
        rw [if_neg hout, if_neg (mt hmatched.mp hmatch), hread]

/-- **Paging.** A cache in memory and one on a server hold the same. The keys that match a regular
expression are got or deleted, and the server brings every key that is there from the beginning to
the end. Then nothing depends on its pages. -/
theorem ignoresPaging_of_regex (h : c.HoldsAlike d now) (hregex : pattern.regex? = some re)
    (hr : d.backend = .redis r) (hpages : r.paging r.keys = it.pages)
    (hcovers : ∀ r', (d.sweep now pattern action).2.backend = .redis r' →
      it.Covers r.keys r'.keys) :
    c.IgnoresPaging d it now pattern action := by
  obtain ⟨s, r', hs, hr', hheld⟩ := h.stores
  obtain rfl : r' = r := Backend.redis.inj (hr'.symm.trans hr)
  let m : KeyMatcher := .regex re (KeyMatcher.keyHead? (some d.keyHead))
  have hmd : KeyMatcher.parse? pattern (some d.keyHead) = some m :=
    KeyMatcher.parse?_of_regex? hregex _
  have hmc : KeyMatcher.parse? pattern (some c.keyHead) = some m := h.heads ▸ hmd
  have hserver : d.backend.pages now = it.pages := by rw [hr]; exact hpages
  have hwalked := sweepAlong_eq hserver pattern action
  cases action with
  | get =>
      obtain ⟨faults, hfaults, hd⟩ :=
        sweep_get_onServer hr hheld.faultless hheld.same hmd hpages now
      have hc : c.sweep now pattern .get = _ := sweep_get_eq hs hheld.nodup hmc
      have hall : it.Covers r'.keys r'.keys := hcovers { r' with faults } (by rw [hd])
      have hsame : gather (s.value? now) [] (matched m s now) =
          gather (s.value? now) [] (brought m it) := by
        refine gather_congr fun key value hvalue => ?_
        have hkey := hheld.mem_keys hvalue
        rw [mem_matched_of_value? hheld.nodup hvalue, mem_brought,
          and_iff_right (hall key hkey hkey)]
      exact {
        walked := hwalked
        found := fun _ => ⟨_, sweep_get_eq_gather hs hheld.nodup hmc, by rw [hd, hsame]⟩
        deleted := nofun
        after := by
          rw [hc, hd]
          refine ⟨h.heads, _, _, rfl, rfl, hfaults, ?_, fun key => ?_⟩
          · exact ((hits_append_passedOver_perm hheld.nodup).map _).nodup_iff.mpr hheld.nodup
          · rw [MemoryStore.value?_of_perm hheld.nodup (hits_append_passedOver_perm hheld.nodup)]
            exact hheld.same key }
  | delete =>
      obtain ⟨faults, hfaults, hd⟩ := sweep_delete_onServer hr hheld.faultless hmd hpages now
      have hc : c.sweep now pattern .delete = _ := sweep_delete_eq hs hmc
      have hall := hcovers _ (congrArg (·.2.backend) hd)
      exact {
        walked := hwalked
        found := nofun
        deleted := fun _ => ⟨_, _, congrArg Prod.fst hc, congrArg Prod.fst hd⟩
        after := by
          rw [hc, hd]
          refine ⟨h.heads, _, _, rfl, rfl, hfaults, ?_, fun key => ?_⟩
          · exact hheld.nodup.sublist (List.filter_sublist.map _)
          · exact read_after_delete hheld hall key }

/-- Three keys of which two begin with the key head. One lapses at nine. -/
def threeKeys : MemoryStore :=
  ⟨500, [⟨"p:a", .int 1, none⟩, ⟨"p:b", .bool true, some 9⟩, ⟨"q:a", .null, none⟩]⟩

/-- The pages of a server that begins and ends with an empty page and brings keys again. -/
def repeating : ScanIteration where
  replies := [⟨7, []⟩, ⟨3, ["p:a", "p:b", "p:a"]⟩, ⟨3, []⟩, ⟨9, ["q:a", "p:b"]⟩, ⟨0, []⟩]
  whole := rfl

/-- A server with the texts of the three keys in another order. -/
def threeTexts : RedisServer :=
  ⟨[("q:a", "null".toList), ("p:b", "true".toList), ("p:a", "1".toList)],
    fun _ => repeating.pages, []⟩

/-- The server of the example holds what the store of the example holds. -/
theorem heldBy_threeTexts : threeKeys.HeldBy threeTexts 5 where
  faultless := fun _ hf => absurd hf List.not_mem_nil
  nodup := by decide
  same := by
    intro key
    by_cases hkey : key ∈ threeTexts.keys
    · have hall : ∀ key ∈ ["q:a", "p:b", "p:a"],
          RedisServer.decode (threeTexts.text? key) = .ok (threeKeys.value? 5 key) := by
        simp only [List.forall_mem_cons]
        exact ⟨rfl, rfl, rfl, nofun⟩
      exact hall key hkey
    · have hkeys : ∀ key ∈ threeKeys.keys 5, key ∈ threeTexts.keys := by decide +kernel
      have hvalue : threeKeys.value? 5 key = none := MemoryStore.get_eq_none (mt (hkeys key) hkey)
      have htext : threeTexts.text? key = none := by
        rwa [RedisServer.mem_keys_iff, Bool.not_eq_true, Option.isSome_eq_false_iff,
          Option.isNone_iff_eq_none] at hkey
      rw [hvalue, htext]
      rfl

/-- The two caches hold the same three keys. Whichever way a pattern without regard to case is used
on them, nothing depends on the pages. -/
theorem ignoresPaging_of_regex_repeating :
    let c := ofBackend (.memory threeKeys) (.withKeyHead "p:") false
    let d := ofBackend (.redis threeTexts) (.withKeyHead "p:") false
    (∃ re, (KeyPattern.text "/A|B/i").regex? = some re) ∧ c.HoldsAlike d 5 ∧
      ∀ action, c.IgnoresPaging d repeating 5 (.text "/A|B/i") action := by
  intro c d
  obtain ⟨re, hre⟩ : ∃ re, (KeyPattern.text "/A|B/i").regex? = some re :=
    Option.isSome_iff_exists.mp (by decide +kernel)
  have hholds : c.HoldsAlike d 5 := ⟨rfl, _, _, rfl, rfl, heldBy_threeTexts⟩
  have hall : ∀ key ∈ threeTexts.keys, key ∈ repeating.keys := by decide
  exact ⟨⟨re, hre⟩, hholds, fun action =>
    ignoresPaging_of_regex hholds hre rfl rfl fun _ _ key hkey _ => hall key hkey⟩

end Cache

end Deferral

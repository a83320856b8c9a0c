import Deferral.Proofs.Cache.Paging
import Mathlib.Data.List.Dedup

/-!
# Keys that come again

A server may bring a key more than once in one iteration. What is found does not show it, but keys
are counted, and deleted keys are told, as often as they come. So a cache counts its keys, and names
each key that it removes once, exactly if no key that matches comes again.

## Main results

* `keyCount_onServer` — a cache on a server counts what is brought;
* `length_brought_eq_iff` — when that is the number of the keys;
* `countsKeys_and_namesRemoved_iff` — when counts are counts of keys and removed keys are named
  once.
-/

namespace Deferral

namespace Cache

variable {d : Cache} {r : RedisServer} {now : Uptime} {pattern : KeyPattern} {m n : KeyMatcher}
  {it : ScanIteration}

/-- The count is the number of the distinct keys of the server that match. -/
def CountsKeys (d : Cache) (r : RedisServer) (m : KeyMatcher) (now : Uptime) : Prop :=
  (d.keyCount now).1 = .ok (r.keys.filter m.isMatch).dedup.length

/-- What matches is deleted, and each key that is gone from the server is named exactly once. -/
def NamesRemoved (d : Cache) (r : RedisServer) (pattern : KeyPattern) (now : Uptime) : Prop :=
  ∃ keys left, d.sweep now pattern .delete =
      (.ok (.deleted keys), { d with backend := .redis left }) ∧
    ∀ key ∈ r.keys, key ∉ left.keys → keys.count key = 1

/-- A cache on a server counts the keys that are brought and match, each as often as it comes. -/
theorem keyCount_onServer (hr : d.backend = .redis r) (h : r.Faultless)
    (hm : KeyMatcher.parse? (.text "*") (some d.keyHead) = some m)
    (hpages : r.paging r.keys = it.pages) :
    (d.keyCount now).1 = .ok (brought m it).length := by
  obtain ⟨faults, -, hcount⟩ := countPages_onServer (m := m) h 0 it.pages
  have hserver : (Backend.redis r).pages now = it.pages := hpages
  simp only [keyCount, hm, hr, hserver, hcount, Nat.zero_add]
  rfl

/-- If what is brought are keys of a server, and all of those that match, then their number is that
of the keys exactly if none comes again. -/
theorem length_brought_eq_iff (hbrings : ∀ key ∈ it.keys, key ∈ r.keys)
    (hcovers : ∀ key ∈ r.keys, m.isMatch key = true → key ∈ it.keys) :
    (brought m it).length = (r.keys.filter m.isMatch).dedup.length ↔ (brought m it).Nodup := by
  have hsame : (brought m it).dedup.Perm (r.keys.filter m.isMatch).dedup := by
    refine (List.perm_ext_iff_of_nodup (List.nodup_dedup _) (List.nodup_dedup _)).mpr fun key => ?_
    rw [List.mem_dedup, List.mem_dedup, mem_brought, List.mem_filter]
    exact and_congr_left fun hmatch => ⟨hbrings key, fun hkey => hcovers key hkey hmatch⟩
  rw [← hsame.length_eq, ← List.dedup_eq_self]
  constructor
  · intro hlength
    exact (List.dedup_sublist _).eq_of_length hlength.symm
  · intro hself
    rw [hself]

/-- The keys that are left are those that were not taken out. -/
theorem mem_keys_withoutAll {faults : List (Option ServerError)} {keys : List String}
    {key : String} :
    key ∈ ({ r with faults, data := RedisServer.withoutAll keys r.data } : RedisServer).keys ↔
      key ∈ r.keys ∧ key ∉ keys := by
  simp only [RedisServer.mem_keys_iff, RedisServer.text?, RedisServer.lookup_withoutAll]
  by_cases hkey : key ∈ keys <;> simp [hkey]

/-- Of keys of a server all that are deleted are named once exactly if no key is named again. -/
theorem namesRemoved_iff (hr : d.backend = .redis r) (h : r.Faultless)
    (hm : KeyMatcher.parse? pattern (some d.keyHead) = some m)
    (hpages : r.paging r.keys = it.pages) (hbrings : ∀ key ∈ it.keys, key ∈ r.keys) :
    d.NamesRemoved r pattern now ↔ (brought m it).Nodup := by
  obtain ⟨faults, -, hdelete⟩ := sweep_delete_onServer hr h hm hpages now
  rw [NamesRemoved, hdelete, List.nodup_iff_count_eq_one]
  constructor
  · rintro ⟨keys, left, heq, hnames⟩ key hkey
    obtain ⟨hanswer, hleft⟩ := Prod.mk.inj heq
    obtain rfl : brought m it = keys := PatternResult.deleted.inj (Except.ok.inj hanswer)
    obtain rfl := Backend.redis.inj (congrArg Cache.backend hleft)
    have hbefore := hbrings key (mem_brought.mp hkey).1
    exact hnames key hbefore fun hafter => (mem_keys_withoutAll.mp hafter).2 hkey
  · intro honce
    refine ⟨_, _, rfl, fun key hbefore hgone => honce key ?_⟩
    by_contra hout
    exact hgone (mem_keys_withoutAll.mpr ⟨hbefore, hout⟩)

/-- **Repeats.** A server brings keys of its own, and at least once each of those that match. Then a
count is one of keys exactly if none that matches comes again, and so is each removed key named
once. -/
theorem countsKeys_and_namesRemoved_iff (hr : d.backend = .redis r) (h : r.Faultless)
    (hpages : r.paging r.keys = it.pages) (hbrings : ∀ key ∈ it.keys, key ∈ r.keys)
    (hm : KeyMatcher.parse? (.text "*") (some d.keyHead) = some m)
    (hcovers : ∀ key ∈ r.keys, m.isMatch key = true → key ∈ it.keys)
    (hn : KeyMatcher.parse? pattern (some d.keyHead) = some n) :
    d.keyCountAlong it.replies now = some (d.keyCount now) ∧
      (d.CountsKeys r m now ↔ (brought m it).Nodup) ∧
      d.sweepAlong it.replies now pattern .delete = some (d.sweep now pattern .delete) ∧
      (d.NamesRemoved r pattern now ↔ (brought n it).Nodup) := by
  have hserver : d.backend.pages now = it.pages := by rw [hr]; exact hpages
  refine ⟨keyCountAlong_eq hr hpages, ?_, sweepAlong_eq hserver pattern .delete,
    namesRemoved_iff hr h hn hpages hbrings⟩
  rw [CountsKeys, keyCount_onServer hr h hm hpages, ← length_brought_eq_iff hbrings hcovers]
  exact ⟨Except.ok.inj, congrArg Except.ok⟩

/-- The pages of a server that brings a key again which does not match. -/
def foreignAgain : ScanIteration where
  replies := [⟨5, ["q:a"]⟩, ⟨0, ["p:a", "q:a"]⟩]
  whole := rfl

/-- One of two keys on a server begins with the key head, and only the other one comes again. So one
key is counted, and the deleted key is named once. -/
theorem countsKeys_and_namesRemoved_iff_foreignAgain :
    let r : RedisServer :=
      ⟨[("p:a", "1".toList), ("q:a", "2".toList)], fun _ => foreignAgain.pages, []⟩
    let d := ofBackend (.redis r) (.withKeyHead "p:") false
    ∃ m, KeyMatcher.parse? (.text "*") (some d.keyHead) = some m ∧
      (∀ key ∈ foreignAgain.keys, key ∈ r.keys) ∧
      (∀ key ∈ r.keys, m.isMatch key = true → key ∈ foreignAgain.keys) ∧
      d.CountsKeys r m 0 ∧ d.NamesRemoved r (.text "*") 0 := by
  intro r d
  have hmatcher : (KeyMatcher.parse? (.text "*") (some d.keyHead)).map (brought · foreignAgain) =
      some ["p:a"] := by decide +kernel
  obtain ⟨m, hm, hbrought⟩ := Option.map_eq_some_iff.mp hmatcher
  have honce : (brought m foreignAgain).Nodup := by
    rw [hbrought]
    exact List.nodup_singleton _
  have hbrings : ∀ key ∈ foreignAgain.keys, key ∈ r.keys := by decide
  have hcovers : ∀ key ∈ r.keys, m.isMatch key = true → key ∈ foreignAgain.keys := by
    have hall : ∀ key ∈ r.keys, key ∈ foreignAgain.keys := by decide
    exact fun key hkey _ => hall key hkey
  have hfaultless : r.Faultless := fun _ hf => absurd hf List.not_mem_nil
  obtain ⟨-, hcounts, -, hnames⟩ :=
    countsKeys_and_namesRemoved_iff (d := d) rfl hfaultless rfl hbrings hm hcovers hm
  exact ⟨m, hm, hbrings, hcovers, hcounts.mpr honce, hnames.mpr honce⟩

/-- The pages of a server that brings its one key twice. -/
def twice : ScanIteration where
  replies := [⟨5, ["p:a"]⟩, ⟨0, ["p:a"]⟩]
  whole := rfl

/-- A server brings its one key twice, which it may. Two keys are counted, and the key that is
deleted is named twice. -/
theorem counts_and_names_twice :
    let r : RedisServer := ⟨[("p:a", "1".toList)], fun _ => twice.pages, []⟩
    let d := ofBackend (.redis r) (.withKeyHead "p:") false
    twice.Covers r.keys r.keys ∧ (∀ key ∈ twice.keys, key ∈ r.keys) ∧ r.keys.dedup.length = 1 ∧
      (d.keyCount 0).1 = .ok 2 ∧
      (∃ left, d.sweep 0 (.text "*") .delete =
        (.ok (.deleted ["p:a", "p:a"]), { d with backend := .redis left })) ∧
      ∃ m, KeyMatcher.parse? (.text "*") (some d.keyHead) = some m ∧
        ¬ d.CountsKeys r m 0 ∧ ¬ d.NamesRemoved r (.text "*") 0 := by
  intro r d
  have hmatcher : (KeyMatcher.parse? (.text "*") (some d.keyHead)).map (brought · twice) =
      some ["p:a", "p:a"] := by decide +kernel
  obtain ⟨m, hm, hbrought⟩ := Option.map_eq_some_iff.mp hmatcher
  have hagain : ¬ (brought m twice).Nodup := by
    rw [hbrought]
    decide
  have hbrings : ∀ key ∈ twice.keys, key ∈ r.keys := by decide
  have hall : ∀ key ∈ r.keys, key ∈ twice.keys := by decide
  have hfaultless : r.Faultless := fun _ hf => absurd hf List.not_mem_nil
  have hcount : (d.keyCount 0).1 = .ok (brought m twice).length :=
    keyCount_onServer rfl hfaultless hm rfl
  obtain ⟨faults, -, hdelete⟩ := sweep_delete_onServer (d := d) rfl hfaultless hm rfl 0
  rw [hbrought] at hdelete
  refine ⟨fun key hkey _ => hall key hkey, hbrings, by decide, ?_, ⟨_, hdelete⟩, m, hm, ?_, ?_⟩
  · rw [hcount, hbrought]
    rfl
  · rw [CountsKeys, hcount]
    exact fun heq => hagain ((length_brought_eq_iff hbrings fun key hkey _ => hall key hkey).mp
      (Except.ok.inj heq))
  · rwa [namesRemoved_iff rfl hfaultless hm rfl hbrings]

end Cache

end Deferral

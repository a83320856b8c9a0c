import Deferral.Proofs.Memory.Entries
import Deferral.Proofs.Pattern.ClassHeads
import Deferral.Proofs.Registry.Sound

/-!
# Resetting a cache

A cache without a key head clears its store. A cache with one drops the keys that the glob of its
key head matches, since other caches may keep entries in the same store. What comes of that hangs on
two things about globs: wildcards in a key head are not taken as they stand, so foreign keys may
match, and a star stands for no line feed, so a key with one after the key head does not match.

## Main results

* `reset_of_keyHead` — which entries a reset drops;
* `keepsApart_iff` — the key heads with which a cache neither drops nor counts what is not its own;
* `not_forall_keepsApart_of_members` — key heads with closed classes are none of them;
* `isEmptied_reset_iff` — exactly when a reset leaves nothing behind.
-/

namespace Deferral

namespace Cache

variable {c : Cache} {store : MemoryStore} {now later : Uptime} {key head : String}
  {pattern : KeyPattern} {m : KeyMatcher}

/-- Whether a key begins with the key head of a cache. -/
def owns (c : Cache) (key : String) : Bool := c.keyHead.toList.isPrefixOf key.toList

/-! ### What a reset drops -/

/-- The live keys of a store that a matcher accepts. -/
def matched (m : KeyMatcher) (store : MemoryStore) (now : Uptime) : List String :=
  (store.keys now).filter m.isMatch

/-- Without a key head everything is dropped. -/
theorem reset_of_noKeyHead (hstore : c.backend = .memory store) (hhead : c.keyHead = "") :
    c.reset now = (.ok (), { c with backend := .memory store.clear, stats := .zero }) := by
  simp [reset, hhead, hstore, Backend.clear]

/-- To delete the keys that match a pattern is to drop the live keys that its matcher accepts. -/
theorem sweep_delete (hstore : c.backend = .memory store)
    (hm : KeyMatcher.parse? pattern (some c.keyHead) = some m) :
    c.sweep now pattern .delete =
      (.ok (.deleted (matched m store now)),
        { c with backend := .memory (store.delMany (matched m store now)).2 }) := by
  simp [sweep, hm, hstore, Backend.pages, deletePages, Backend.page, Backend.delMany, matched]

/-- **What is dropped.** With a key head the live keys that its glob matches are dropped. -/
theorem reset_of_keyHead (hstore : c.backend = .memory store) (hhead : c.keyHead ≠ "")
    (hm : KeyMatcher.parse? (.text "*") (some c.keyHead) = some m) :
    c.reset now =
      (.ok (), { c with backend := .memory (store.delMany (matched m store now)).2,
                        stats := .zero }) := by
  simp [reset, hhead, sweep_delete hstore hm, Except.map]

/-- The count is that of the live keys that the glob matches. -/
theorem keyCount_of_keyHead (hstore : c.backend = .memory store) (hhead : c.keyHead ≠ "")
    (hm : KeyMatcher.parse? (.text "*") (some c.keyHead) = some m) :
    (c.keyCount now).1 = .ok (matched m store now).length := by
  simp [keyCount, hhead, hm, hstore, Backend.pages, countPages, Backend.page, matched]

/-! ### What belongs to others -/

/-- The entries under a cache whose keys do not begin with its key head. -/
def neighbours (c : Cache) : List Entry := c.entries.filter fun e => !c.owns e.key

/-- A cache with only those entries that are its own. -/
def alone (c : Cache) : Cache :=
  match c.backend with
  | .memory store =>
      { c with backend := .memory { store with entries := store.entries.filter (c.owns ·.key) } }
  | _ => c

/-- A cache neither drops nor counts what is not its own. -/
structure KeepsApart (c : Cache) (now : Uptime) : Prop where
  /-- After a reset the entries of others are what they were. -/
  reset : (c.reset now).2.neighbours = c.neighbours
  /-- The count is what it would be without them. -/
  count : (c.keyCount now).1 = (c.alone.keyCount now).1

/-- A cache owns the keys that begin with its key head. -/
theorem owns_iff : c.owns key = true ↔ ∃ rest, key.toList = c.keyHead.toList ++ rest := by
  rw [owns, List.isPrefixOf_iff_prefix]
  exact ⟨fun ⟨rest, h⟩ => ⟨rest, h.symm⟩, fun ⟨rest, h⟩ => ⟨rest, h.symm⟩⟩

/-- The keys that a sweep meets are those of the live entries that the pattern accepts. -/
theorem matched_eq (m : KeyMatcher) (store : MemoryStore) (now : Uptime) :
    matched m store now =
      (store.entries.filter fun e => m.isMatch e.key && e.isLive now).map (·.key) := by
  rw [matched, MemoryStore.keys, MemoryStore.live, List.filter_map, List.filter_filter]
  rfl

/-- A cache whose matcher accepts only its own keys neither drops nor counts others. -/
theorem keepsApart_of_matcher (hstore : c.backend = .memory store) (hhead : c.keyHead ≠ "")
    (hm : KeyMatcher.parse? (.text "*") (some c.keyHead) = some m)
    (hown : ∀ key, m.isMatch key = true → c.owns key = true) : c.KeepsApart now where
  reset := by
    have hentries : c.entries = store.entries := by rw [entries, hstore]; rfl
    have hafter : (c.reset now).2.neighbours =
        (store.entries.filter fun e => e.key ∉ matched m store now).filter
          fun e => !c.owns e.key := by
      rw [reset_of_keyHead hstore hhead hm, MemoryStore.delMany_eq]
      rfl
    rw [hafter, neighbours, hentries, List.filter_filter]
    refine List.filter_congr fun e _ => ?_
    -- An entry of another cache is not matched, so it is not dropped.
    cases howned : c.owns e.key with
    | true => rfl
    | false =>
        have hforeign : e.key ∉ matched m store now := by
          intro hmem
          rw [hown e.key (List.mem_filter.mp hmem).2] at howned
          exact Bool.noConfusion howned
        simp [hforeign]
  count := by
    let mine : MemoryStore := { store with entries := store.entries.filter (c.owns ·.key) }
    have hmine : c.alone = { c with backend := .memory mine } := by rw [alone, hstore]
    have halone : (c.alone.keyCount now).1 = .ok (matched m mine now).length := by
      rw [hmine]
      exact keyCount_of_keyHead rfl hhead hm
    rw [keyCount_of_keyHead hstore hhead hm, halone, matched_eq, matched_eq, List.filter_filter]
    congr 3
    refine List.filter_congr fun e _ => ?_
    cases hmatch : m.isMatch e.key with
    | true => simp [hown e.key hmatch]
    | false => rfl

/-- A memory cache for a key head, with one entry in its store. -/
def holding (head : String) (e : Entry) : Cache :=
  ofBackend (.memory ⟨1, [e]⟩) (.withKeyHead head) false

/-- The cache of the examples has the key head that it was made with. -/
theorem keyHead_holding (hhead : head ≠ "") (e : Entry) : (holding head e).keyHead = head := by
  have hkept : (some head).filter (fun h => !h.isEmpty) = some head := by simp [hhead]
  rw [keyHead, holding, ofBackend, CacheSettings.withKeyHead, CacheSettings.normalized, hkept]
  rfl

/-- A cache drops an entry of others if its matcher accepts the key. -/
theorem not_keepsApart_holding {e : Entry} (hhead : head ≠ "")
    (hm : KeyMatcher.parse? (.text "*") (some head) = some m) (hmatch : m.isMatch e.key = true)
    (hforeign : ¬ head.toList <+: e.key.toList) (hlive : e.isLive now = true) :
    ¬ (holding head e).KeepsApart now := by
  intro hapart
  have hkeyHead := keyHead_holding hhead e
  have howns : (holding head e).owns e.key = false := by
    rw [owns, hkeyHead, ← Bool.not_eq_true, List.isPrefixOf_iff_prefix]
    exact hforeign
  have hdropped : matched m ⟨1, [e]⟩ now = [e.key] := by simp [matched_eq, hmatch, hlive]
  have hafter : ((holding head e).reset now).2.neighbours = [] := by
    rw [reset_of_keyHead rfl (by rwa [hkeyHead]) (by rwa [hkeyHead]), MemoryStore.delMany_eq,
      hdropped]
    simp [neighbours, entries, Backend.memory?]
  have hbefore : (holding head e).neighbours = [e] := List.filter_cons_of_pos (by simp [howns])
  have hsame := hapart.reset
  rw [hafter, hbefore] at hsame
  exact absurd hsame (List.cons_ne_nil _ _).symm

/-- A key head whose matcher accepts a foreign key does not keep caches apart. -/
theorem not_forall_keepsApart (hhead : head ≠ "")
    (hm : KeyMatcher.parse? (.text "*") (some head) = some m) (hmatch : m.isMatch key = true)
    (hforeign : ¬ head.toList <+: key.toList) :
    ¬ ∀ c : Cache, ∀ now, c.keyHead = head → c.backend.kind = .memory → c.KeepsApart now := by
  intro hapart
  have hlive : (⟨key, .null, none⟩ : Entry).isLive 0 = true := rfl
  exact not_keepsApart_holding hhead hm hmatch hforeign hlive
    (hapart _ 0 (keyHead_holding hhead _) rfl)

/-- **Key heads.** A cache with a key head in which no class is written neither drops nor counts
what belongs to others, exactly if there is no wildcard in it. -/
theorem keepsApart_iff (hhead : head ≠ "")
    (hfree : Glob.ClassFree (Glob.items (Glob.under head.toList))) :
    (∀ c : Cache, ∀ now, c.keyHead = head → c.backend.kind = .memory → c.KeepsApart now) ↔
      ∀ ch ∈ head.toList, Glob.isWild ch = false := by
  obtain ⟨m, hm, hmatch⟩ := KeyMatcher.exists_parse?_star hhead hfree
  constructor
  · intro hapart ch hch
    by_contra hwild
    obtain ⟨key, haccepts, hforeign⟩ :=
      Glob.exists_accepts_foreign hfree hch (Bool.not_eq_false _ ▸ hwild)
    have hkey : (String.ofList key).toList = key := String.toList_ofList
    refine not_forall_keepsApart hhead hm ?_ (hkey ▸ hforeign) hapart
    rw [hmatch, hkey, haccepts]
  · rintro hplain c now rfl hkind
    obtain ⟨store, hstore⟩ : ∃ store, c.backend = .memory store := by
      cases hbackend : c.backend with
      | memory store => exact ⟨store, rfl⟩
      | _ => rw [hbackend] at hkind; exact absurd hkind nofun
    refine keepsApart_of_matcher hstore hhead hm fun key hkey => owns_iff.mpr ?_
    obtain ⟨rest, hrest, -⟩ := (Glob.accepts_under_iff hfree hplain).mp (hmatch key ▸ hkey)
    exact ⟨rest, hrest⟩

/-- **Key heads with classes.** A cache whose key head has a closed class in it touches what belongs
to others, if every class there is readable and stands for some character. -/
theorem not_forall_keepsApart_of_members {body : List Char}
    (hclass : .members body ∈ Glob.items (Glob.under head.toList))
    (hreadable : ∀ body, .members body ∈ Glob.items (Glob.under head.toList) →
      Glob.IsReadable body ∧ ∃ ch, Glob.classAccepts body ch = true) :
    ¬ ∀ c : Cache, ∀ now, c.keyHead = head → c.backend.kind = .memory → c.KeepsApart now := by
  obtain ⟨m, hm, key, hmatch, hforeign⟩ :=
    KeyMatcher.exists_foreign_of_members hclass hreadable
  have hhead : head ≠ "" := by
    rintro rfl
    rw [String.toList_empty, Glob.items_under_nil] at hclass
    simp at hclass
  exact not_forall_keepsApart hhead hm hmatch hforeign

example : ¬ ∀ c : Cache, ∀ now, c.keyHead = "t[12]:" → c.backend.kind = .memory →
    c.KeepsApart now := by
  have hitems : Glob.items (Glob.under "t[12]:".toList) =
      [.literal 't', .members ['1', '2'], .literal ':', .anyRun] := by
    simp [Glob.under, Glob.items, Glob.takeBody?]
  have hclass : .members ['1', '2'] ∈ Glob.items (Glob.under "t[12]:".toList) := by
    rw [hitems]
    simp
  refine not_forall_keepsApart_of_members hclass fun body hbody => ?_
  rw [hitems] at hbody
  obtain rfl : body = ['1', '2'] := by simpa using hbody
  have hchars : Glob.classMembers ['1', '2'] = [.plain '1', .plain '2'] := rfl
  exact ⟨⟨by decide, by decide, by simp [hchars], by decide⟩, '1', by decide⟩

/-- A cache whose key head has a question mark in it, and an entry of a cache with a digit there:
the entry is counted by the first cache and dropped when it is reset. -/
theorem reset_drops_neighbour :
    let c := holding "t?:" ⟨"t1:k", .null, none⟩
    c.keyHead = "t?:" ∧ c.backend.kind = .memory ∧
      c.neighbours.map (·.key) = ["t1:k"] ∧
      (c.keyCount 0).1 = .ok 1 ∧ (c.alone.keyCount 0).1 = .ok 0 ∧
      (c.reset 0).1 = .ok () ∧
      (c.reset 0).2.neighbours.map (·.key) = [] := by
  decide +kernel

/-- A bracket that is not closed may stand in a key head, a question mark may not. -/
theorem keepsApart_iff_bracket :
    (∀ c : Cache, ∀ now, c.keyHead = "t[" → c.backend.kind = .memory → c.KeepsApart now) ∧
      ¬ ∀ c : Cache, ∀ now, c.keyHead = "t?:" → c.backend.kind = .memory → c.KeepsApart now := by
  have hbracket : Glob.items (Glob.under "t[".toList) =
      [.literal 't', .literal '[', .anyRun] := by
    simp [Glob.under, Glob.items, Glob.takeBody?]
  have hplain : ∀ ch ∈ "t[".toList, Glob.isWild ch = false := by simp [Glob.isWild]
  have hfree : ∀ ch ∈ "t?:".toList, ch ≠ '[' := by simp
  constructor
  · refine (keepsApart_iff (by decide) ?_).mpr hplain
    rw [hbracket]
    simp [Glob.ClassFree]
  · intro hapart
    have hwild := (keepsApart_iff (by decide) (Glob.classFree_under hfree)).mp hapart '?'
      (by decide)
    exact absurd hwild (by decide)

/-! ### What is left behind -/

/-- Nothing of a cache is left: no key is found in it from now on, and no live key of the store
begins with its key head. -/
structure IsEmptied (c : Cache) (now : Uptime) : Prop where
  missed : ∀ later, now ≤ later → ∀ wanted key, (c.get later wanted key).1 = ⟨none, none⟩
  gone : ∀ store, c.backend = .memory store → ∀ key ∈ store.keys now, c.owns key = false

/-- A cache owns every key that it uses. -/
theorem owns_fullKey (c : Cache) (key : String) : c.owns (c.fullKey key) = true :=
  owns_iff.mpr ⟨key.toList, by rw [fullKey, String.toList_append]⟩

/-- Where no live key is owned, none is found. -/
theorem isEmptied_of_gone (hstore : c.backend = .memory store)
    (hgone : ∀ key ∈ store.keys now, c.owns key = false) : c.IsEmptied now where
  missed later hle wanted key := by
    have hnone : (store.get later (c.fullKey key)).1 = none := by
      refine MemoryStore.get_eq_none fun hmem => ?_
      obtain ⟨e, he, hlive, hkey⟩ := MemoryStore.mem_keys_iff.mp hmem
      have hmem' : c.fullKey key ∈ store.keys now :=
        MemoryStore.mem_keys_iff.mpr ⟨e, he, Entry.isLive_of_le hle hlive, hkey⟩
      have howned := hgone _ hmem'
      rw [owns_fullKey] at howned
      exact Bool.noConfusion howned
    simp [get, hstore, Backend.get, hnone]
  gone other hother := by
    obtain rfl := Backend.memory.inj (hstore.symm.trans hother)
    exact hgone

/-- After a reset those keys are live that were so and are not matched. -/
theorem mem_keys_reset :
    key ∈ (store.delMany (matched m store now)).2.keys now ↔
      key ∈ store.keys now ∧ m.isMatch key = false := by
  rw [MemoryStore.delMany_eq, MemoryStore.mem_keys_iff, MemoryStore.mem_keys_iff]
  constructor
  · rintro ⟨e, he, hlive, rfl⟩
    obtain ⟨hmem, hkept⟩ := List.mem_filter.mp he
    have hkey : e.key ∈ store.keys now := MemoryStore.mem_keys_iff.mpr ⟨e, hmem, hlive, rfl⟩
    refine ⟨⟨e, hmem, hlive, rfl⟩, Bool.eq_false_iff.mpr fun hmatch => ?_⟩
    exact of_decide_eq_true hkept (List.mem_filter.mpr ⟨hkey, hmatch⟩)
  · rintro ⟨⟨e, he, hlive, rfl⟩, hmatch⟩
    refine ⟨e, List.mem_filter.mpr ⟨he, decide_eq_true fun hmem => ?_⟩, hlive, rfl⟩
    rw [(List.mem_filter.mp hmem).2] at hmatch
    exact Bool.noConfusion hmatch

/-- **Leftovers.** A reset of a memory cache whose key head is free of wildcards and brackets always
succeeds. It leaves nothing behind exactly if there is no key head, or if no live key of the cache
has a line feed after the key head. -/
theorem isEmptied_reset_iff (hstore : c.backend = .memory store)
    (hplain : ∀ ch ∈ c.keyHead.toList, Glob.isWild ch = false ∧ ch ≠ '[') :
    (c.reset now).1 = .ok () ∧
      ((c.reset now).2.IsEmptied now ↔
        c.keyHead = "" ∨ ∀ key, c.fullKey key ∈ store.keys now → '\n' ∉ key.toList) := by
  by_cases hhead : c.keyHead = ""
  · rw [reset_of_noKeyHead hstore hhead]
    refine ⟨rfl, iff_of_true (isEmptied_of_gone rfl ?_) (.inl hhead)⟩
    simp [MemoryStore.keys, MemoryStore.live, MemoryStore.clear]
  · have hfree := Glob.classFree_under fun ch hch => (hplain ch hch).2
    obtain ⟨m, hm, haccepts⟩ := KeyMatcher.exists_parse?_star hhead hfree
    have hmatch : ∀ key, m.isMatch (c.fullKey key) = true ↔ '\n' ∉ key.toList := by
      intro key
      rw [haccepts, Glob.accepts_under_iff hfree fun ch hch => (hplain ch hch).1, fullKey,
        String.toList_append]
      constructor
      · rintro ⟨rest, hrest, hfeed⟩
        exact List.append_cancel_left hrest ▸ hfeed
      · exact fun hfeed => ⟨_, rfl, hfeed⟩
    rw [reset_of_keyHead hstore hhead hm, or_iff_right hhead]
    refine ⟨rfl, fun hemptied key hkey hfeed => ?_, fun hkeys => isEmptied_of_gone rfl ?_⟩
    · have hkept : m.isMatch (c.fullKey key) = false :=
        Bool.eq_false_iff.mpr fun h => (hmatch key).mp h hfeed
      have hgone := hemptied.gone _ rfl _ (mem_keys_reset.mpr ⟨hkey, hkept⟩)
      exact Bool.false_ne_true (hgone.symm.trans (owns_fullKey c key))
    · intro key hkey
      obtain ⟨hmem, hkept⟩ := mem_keys_reset.mp hkey
      by_contra howns
      obtain ⟨rest, hrest⟩ := owns_iff.mp (Bool.not_eq_false _ ▸ howns)
      obtain rfl : key = c.fullKey (String.ofList rest) := by
        rw [← String.toList_inj, fullKey, String.toList_append, String.toList_ofList]
        exact hrest
      rw [(hmatch _).mpr (hkeys _ hmem)] at hkept
      exact Bool.noConfusion hkept

/-- Something is put into a cache under a key with a line feed in it. A reset succeeds, and the
entry is still found. -/
theorem reset_keeps_lineFeed :
    let c := ofBackend (.memory (.new 500)) (.withKeyHead "p:") false
    let filled := (c.set 0 "a\nb" (.bool true) none).2
    let cleared := filled.reset 1
    (c.set 0 "a\nb" (.bool true) none).1 = .ok () ∧ cleared.1 = .ok () ∧
      (cleared.2.get 2 .json "a\nb").1.value.isSome = true ∧
      (cleared.2.keyCount 2).1 = .ok 0 := by
  decide +kernel

/-- Two things are put into a cache, of which one has a line feed in its key: a reset leaves that
behind. Without it nothing is left. -/
theorem isEmptied_reset_iff_lineFeed :
    let c := ofBackend (.memory (.new 500)) (.withKeyHead "p:") false
    let one := (c.set 0 "ab" (.bool true) none).2
    let two := (one.set 0 "a\nb" (.bool true) none).2
    (one.reset 1).2.IsEmptied 1 ∧ ¬ (two.reset 1).2.IsEmptied 1 := by
  intro c one two
  have hplain : ∀ ch ∈ c.keyHead.toList, Glob.isWild ch = false ∧ ch ≠ '[' := by
    have hall : c.keyHead.toList.all (fun ch => !Glob.isWild ch && ch != '[') = true := by
      decide +kernel
    simpa using hall
  have hone : one.backend.memory?.map (·.keys 1) = some ["p:ab"] := by decide +kernel
  have htwo : two.backend.memory?.map (·.keys 1) = some ["p:a\nb", "p:ab"] := by decide +kernel
  have hfull : c.fullKey "a\nb" = "p:a\nb" ∧ c.keyHead ≠ "" := by decide +kernel
  constructor
  · obtain ⟨store, hstore⟩ : ∃ store, one.backend = .memory store := ⟨_, rfl⟩
    refine (isEmptied_reset_iff hstore hplain).2.mpr (.inr fun key hkey => ?_)
    rw [hstore] at hone
    have hkeys : store.keys 1 = ["p:ab"] := Option.some.inj hone
    rw [hkeys, List.mem_singleton] at hkey
    have htext : (c.keyHead ++ key).toList = "p:ab".toList := congrArg String.toList hkey
    intro hfeed
    have hmem : '\n' ∈ "p:ab".toList := by
      rw [← htext, String.toList_append]
      exact List.mem_append_right _ hfeed
    exact absurd hmem (by decide)
  · obtain ⟨store, hstore⟩ : ∃ store, two.backend = .memory store := ⟨_, rfl⟩
    rw [hstore] at htwo
    have hkeys : store.keys 1 = ["p:a\nb", "p:ab"] := Option.some.inj htwo
    have hmem : two.fullKey "a\nb" ∈ store.keys 1 := by
      rw [hkeys]
      exact List.mem_cons.mpr (.inl hfull.1)
    refine mt (isEmptied_reset_iff hstore hplain).2.mp ?_
    rintro (hnone | hfree)
    · exact hfull.2 hnone
    · exact hfree _ hmem (by decide)

end Cache

end Deferral

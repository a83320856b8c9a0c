import Deferral.Cache.Scan
import Deferral.Proofs.Cache.Mirror
import Deferral.Proofs.Json.Members

/-!
# Going through an iteration

Whatever a cache does with the keys of a server, it does the same from reply to reply, led by the
cursors, as it does to the pages one after another. A server that refuses nothing brings it to the
end: all values are found, all keys are deleted, and all keys are counted that match on some page.

## Main results

* `sweepAlong_eq`, `keyCountAlong_eq` — the cursors of a whole iteration lead through its pages;
* `gather_congr` — what is found does not depend on the order of the keys and on repetitions;
* `findPages_onServer`, `deletePages_onServer`, `countPages_onServer` — what comes of the pages.
-/

namespace Deferral

namespace Cache

variable {α : Type} {c : Cache} {m : KeyMatcher} {now : Uptime} {b : Backend}
  {visit : α → List String → Backend → Except CacheError α × Backend}

/-! ### Cursors and pages -/

/-- Visits the keys that match on one page after another. -/
def visitPages (m : KeyMatcher)
    (visit : α → List String → Backend → Except CacheError α × Backend) (a : α) :
    List (List String) → Backend → Except CacheError α × Backend
  | [], b => (.ok a, b)
  | page :: pages, b =>
      match b.page with
      | (.error e, b) => (.error e, b)
      | (.ok (), b) =>
          match visit a (page.filter m.isMatch) b with
          | (.error e, b) => (.error e, b)
          | (.ok a, b) => visitPages m visit a pages b

/-- The cursors of a whole iteration lead through all of its pages. -/
theorem walk_eq {rs : List ScanReply} (h : ScanReply.areWhole rs = true) (a : α) :
    walk m visit a rs b = some (visitPages m visit a (rs.map (·.page)) b) := by
  induction rs generalizing a b with
  | nil => exact absurd h nofun
  | cons r rs ih =>
      rw [walk, List.map_cons, visitPages]
      rcases b.page with ⟨_ | _, b⟩
      · rfl
      · cases rs with
        | nil =>
            have hlast : r.cursor = 0 := beq_iff_eq.mp h
            simp only [matchingPage, hlast, if_true]
            rcases visit a (r.page.filter m.isMatch) b with ⟨_ | _, b⟩ <;> rfl
        | cons s rs =>
            obtain ⟨hmore, hrest⟩ := Bool.and_eq_true_iff.mp h
            simp only [matchingPage, if_neg (bne_iff_ne.mp hmore)]
            rcases visit a (r.page.filter m.isMatch) b with ⟨_ | a, b⟩
            · rfl
            · exact ih hrest a

/-- Finding is a visit of all pages that looks up what matches. -/
theorem findPages_eq (pages : List (List String)) (values : List (String × Json)) :
    findPages m now values pages b =
      ((visitPages m (findKeys now) values pages b).1.map .found,
        (visitPages m (findKeys now) values pages b).2) := by
  induction pages generalizing values b with
  | nil => rfl
  | cons page pages ih =>
      rw [findPages, visitPages]
      rcases b.page with ⟨_ | _, b⟩
      · rfl
      · simp only [findKeys]
        rcases b.getMany now (page.filter m.isMatch) with ⟨_ | found, b⟩
        · rfl
        · exact ih _

/-- Deleting is a visit of all pages that deletes what matches. -/
theorem deletePages_eq (pages : List (List String)) (deleted : List String) :
    deletePages m deleted pages b =
      ((visitPages m deleteKeys deleted pages b).1.map .deleted,
        (visitPages m deleteKeys deleted pages b).2) := by
  induction pages generalizing deleted b with
  | nil => rfl
  | cons page pages ih =>
      rw [deletePages, visitPages]
      rcases b.page with ⟨_ | _, b⟩
      · rfl
      · simp only [deleteKeys]
        rcases b.delMany (page.filter m.isMatch) with ⟨_ | n, b⟩
        · rfl
        · exact ih _

/-- Counting is a visit of all pages that counts what matches. -/
theorem countPages_eq (pages : List (List String)) (count : Nat) :
    countPages m count pages b = visitPages m countKeys count pages b := by
  induction pages generalizing count b with
  | nil => rfl
  | cons page pages ih =>
      rw [countPages, visitPages]
      rcases b.page with ⟨_ | _, b⟩
      · rfl
      · exact ih _

/-- **Cursors.** To sweep along an iteration is to sweep its pages. -/
theorem sweepAlong_eq {it : ScanIteration} (hpages : c.backend.pages now = it.pages)
    (pattern : KeyPattern) (action : PatternAction) :
    c.sweepAlong it.replies now pattern action = some (c.sweep now pattern action) := by
  rw [sweepAlong, sweep]
  cases KeyMatcher.parse? pattern (some c.keyHead) with
  | none => rfl
  | some m =>
      simp only [hpages, walk_eq it.whole, findPages_eq, deletePages_eq]
      cases action <;> rfl

/-- To count along an iteration over the keys of a server is to count on its pages. -/
theorem keyCountAlong_eq {r : RedisServer} {it : ScanIteration} (hr : c.backend = .redis r)
    (hpages : r.paging r.keys = it.pages) :
    c.keyCountAlong it.replies now = some (c.keyCount now) := by
  have hserver : (Backend.redis r).pages now = it.pages := hpages
  simp only [keyCountAlong, keyCount, hr]
  cases KeyMatcher.parse? (.text "*") (some c.keyHead) with
  | none => rfl
  | some m =>
      simp only [hserver, walk_eq it.whole, countPages_eq, Option.map_some]
      rfl

end Cache

namespace RedisServer

variable {r : RedisServer} {keys : List String} {f : String → Option Json}

/-! ### Several keys on a server that refuses nothing -/

/-- A server that refuses nothing brings its next page. -/
theorem Faultless.page (h : r.Faultless) :
    ∃ faults, (∀ f ∈ faults, f = none) ∧
      (Backend.redis r).page = (.ok (), .redis { r with faults }) := by
  obtain ⟨faults, hfaults, hcommand⟩ := h.command fun r => ((), r)
  refine ⟨faults, hfaults, ?_⟩
  rw [Backend.page, RedisServer.page, hcommand]

/-- Where every text can be read, the values under all keys are. -/
theorem mapM_decode_eq (hread : ∀ key, decode (r.text? key) = .ok (f key)) (keys : List String) :
    (keys.map r.text?).mapM decode = .ok (keys.map f) := by
  induction keys with
  | nil => rfl
  | cons key keys ih =>
      rw [List.map_cons, List.mapM_cons, hread, ih]
      rfl

/-- It answers for several keys at once as it does for each. -/
theorem Faultless.getMany (h : r.Faultless) (hread : ∀ key, decode (r.text? key) = .ok (f key))
    (now : Uptime) (keys : List String) :
    ∃ faults, (∀ f ∈ faults, f = none) ∧
      (Backend.redis r).getMany now keys = (.ok (keys.map f), .redis { r with faults }) := by
  rw [Backend.getMany]
  cases keys with
  | nil => exact ⟨r.faults, h, rfl⟩
  | cons key keys =>
      obtain ⟨faults, hfaults, hcommand⟩ := h.command fun r => ((key :: keys).map r.text?, r)
      refine ⟨faults, hfaults, ?_⟩
      have hmany : r.getMany (key :: keys) =
          ((Except.ok ((key :: keys).map r.text?)).bind fun texts => texts.mapM decode,
            { r with faults }) := by
        rw [RedisServer.getMany, hcommand]
        rfl
      rw [hmany, Except.bind, mapM_decode_eq hread]

/-- The data without several keys. -/
def withoutAll (keys : List String) (data : List (String × List Char)) :
    List (String × List Char) :=
  data.filter fun d => d.1 ∉ keys

/-- Taking out keys one after another takes out all of them. -/
theorem foldl_without (keys : List String) (data : List (String × List Char)) :
    keys.foldl (fun data key => without key data) data = withoutAll keys data := by
  induction keys generalizing data with
  | nil => simp [withoutAll]
  | cons key keys ih =>
      rw [List.foldl_cons, ih, withoutAll, without, List.filter_filter, withoutAll]
      refine List.filter_congr fun d _ => ?_
      by_cases hd : d.1 = key <;> simp [hd]

/-- Taking out in two parts takes out both. -/
theorem withoutAll_append (keys more : List String) (data : List (String × List Char)) :
    withoutAll (keys ++ more) data = withoutAll more (withoutAll keys data) := by
  simp [withoutAll, List.filter_filter, Bool.and_comm]

/-- It deletes several keys at once. -/
theorem Faultless.delMany (h : r.Faultless) (keys : List String) :
    ∃ faults n, (∀ f ∈ faults, f = none) ∧ (Backend.redis r).delMany keys =
      (.ok n, .redis { r with faults, data := withoutAll keys r.data }) := by
  rw [Backend.delMany]
  cases keys with
  | nil =>
      have hall : withoutAll [] r.data = r.data := by simp [withoutAll]
      exact ⟨r.faults, 0, h, by rw [hall]; rfl⟩
  | cons key keys =>
      obtain ⟨faults, hfaults, hcommand⟩ := h.command fun r =>
        let data := (key :: keys).foldl (fun data key => without key data) r.data
        (r.data.length - data.length, { r with data })
      refine ⟨faults, r.data.length - (withoutAll (key :: keys) r.data).length, hfaults, ?_⟩
      rw [RedisServer.delMany, List.isEmpty_cons, if_neg Bool.false_ne_true, hcommand]
      simp only [foldl_without]

end RedisServer

namespace Cache

variable {m : KeyMatcher} {now : Uptime} {r : RedisServer} {pages : List (List String)}
  {f : String → Option Json}

/-! ### All pages -/

/-- Adds the values that are under keys to those found before. -/
def gather (f : String → Option Json) (values : List (String × Json)) (keys : List String) :
    List (String × Json) :=
  addFound values (keys.map fun key => (key, f key))

/-- What is found under the keys of a page is gathered key by key. -/
theorem addFound_zip_map (values : List (String × Json)) (keys : List String) :
    addFound values (keys.zip (keys.map f)) = gather f values keys := by
  rw [gather, ← List.zip_map', List.map_id']

/-- Gathering in two parts gathers both. -/
theorem gather_append (values : List (String × Json)) (keys more : List String) :
    gather f values (keys ++ more) = gather f (gather f values keys) more := by
  rw [gather, List.map_append, addFound, List.foldl_append]
  rfl

/-- Under a key that was gathered its value is found, and under all others what was found before. -/
theorem member?_gather (key : String) (values : List (String × Json)) (keys : List String) :
    Json.member? key (gather f values keys) =
      if key ∈ keys then (f key).or (Json.member? key values) else Json.member? key values := by
  induction keys generalizing values with
  | nil => rfl
  | cons k keys ih =>
      cases hk : f k with
      | none =>
          have hskip : gather f values (k :: keys) = gather f values keys := by
            rw [gather, List.map_cons, hk]
            rfl
          rw [hskip, ih]
          by_cases heq : key = k
          · subst heq
            simp [hk]
          · simp [heq]
      | some value =>
          have hadd : gather f values (k :: keys) =
              gather f (Json.insertMember k value values) keys := by
            rw [gather, List.map_cons, hk]
            rfl
          rw [hadd, ih, Json.member?_insertMember]
          by_cases heq : key = k
          · subst heq
            simp [hk]
          · simp [heq, Ne.symm heq]

/-- What is gathered stays in the order of its keys. -/
theorem keysSorted_gather {values : List (String × Json)} (h : Json.KeysSorted values)
    (keys : List String) : Json.KeysSorted (gather f values keys) := by
  induction keys generalizing values with
  | nil => exact h
  | cons key keys ih =>
      rw [gather, List.map_cons]
      cases hkey : f key with
      | none => exact ih h
      | some value => exact ih (h.insertMember key value)

/-- What is gathered does not depend on order and repetition, nor on keys without values. -/
theorem gather_congr {keys more : List String}
    (h : ∀ key value, f key = some value → (key ∈ keys ↔ key ∈ more)) :
    gather f [] keys = gather f [] more := by
  refine (keysSorted_gather .nil keys).ext (keysSorted_gather .nil more) fun key => ?_
  rw [member?_gather, member?_gather]
  cases hkey : f key with
  | none => simp
  | some value => simp [h key value hkey]

/-- **Getting.** The values are found that are under the matching keys of all pages, and the data
stay as they are. -/
theorem findPages_onServer (h : r.Faultless)
    (hread : ∀ key, RedisServer.decode (r.text? key) = .ok (f key)) (now : Uptime)
    (values : List (String × Json)) (pages : List (List String)) :
    ∃ faults, (∀ x ∈ faults, x = none) ∧
      findPages m now values pages (.redis r) =
        (.ok (.found (gather f values (pages.flatten.filter m.isMatch))),
          .redis { r with faults }) := by
  induction pages generalizing r values with
  | nil => exact ⟨r.faults, h, rfl⟩
  | cons page pages ih =>
      obtain ⟨faults₁, hfaults₁, hpage⟩ := h.page
      obtain ⟨faults₂, hfaults₂, hmany⟩ := RedisServer.Faultless.getMany
        (r := { r with faults := faults₁ }) hfaults₁ hread now (page.filter m.isMatch)
      obtain ⟨faults₃, hfaults₃, hrest⟩ :=
        ih (r := { r with faults := faults₂ }) hfaults₂ hread
          (gather f values (page.filter m.isMatch))
      refine ⟨faults₃, hfaults₃, ?_⟩
      rw [findPages, hpage]
      simp only [hmany, addFound_zip_map, hrest]
      rw [← gather_append, ← List.filter_append, ← List.flatten_cons]

/-- **Deleting.** The matching keys of all pages are told, page by page, and none of them is
left. -/
theorem deletePages_onServer (h : r.Faultless) (deleted : List String)
    (pages : List (List String)) :
    ∃ faults, (∀ x ∈ faults, x = none) ∧
      deletePages m deleted pages (.redis r) =
        (.ok (.deleted (deleted ++ pages.flatten.filter m.isMatch)),
          .redis { r with
            faults, data := RedisServer.withoutAll (pages.flatten.filter m.isMatch) r.data }) := by
  induction pages generalizing r deleted with
  | nil =>
      refine ⟨r.faults, h, ?_⟩
      simp [deletePages, RedisServer.withoutAll]
  | cons page pages ih =>
      obtain ⟨faults₁, hfaults₁, hpage⟩ := h.page
      obtain ⟨faults₂, n, hfaults₂, hmany⟩ := RedisServer.Faultless.delMany
        (r := { r with faults := faults₁ }) hfaults₁ (page.filter m.isMatch)
      let left := RedisServer.withoutAll (page.filter m.isMatch) r.data
      obtain ⟨faults₃, hfaults₃, hrest⟩ := ih (r := { r with faults := faults₂, data := left })
        hfaults₂ (deleted ++ page.filter m.isMatch)
      refine ⟨faults₃, hfaults₃, ?_⟩
      rw [deletePages, hpage]
      simp only [hmany, left, hrest]
      rw [← RedisServer.withoutAll_append, List.append_assoc, ← List.filter_append,
        ← List.flatten_cons]

/-- **Counting.** The matching keys of all pages are counted, each as often as it is there. -/
theorem countPages_onServer (h : r.Faultless) (count : Nat) (pages : List (List String)) :
    ∃ faults, (∀ x ∈ faults, x = none) ∧
      countPages m count pages (.redis r) =
        (.ok (count + (pages.flatten.filter m.isMatch).length), .redis { r with faults }) := by
  induction pages generalizing r count with
  | nil => exact ⟨r.faults, h, rfl⟩
  | cons page pages ih =>
      obtain ⟨faults₁, hfaults₁, hpage⟩ := h.page
      obtain ⟨faults₂, hfaults₂, hrest⟩ := ih (r := { r with faults := faults₁ }) hfaults₁
        (count + (page.filter m.isMatch).length)
      refine ⟨faults₂, hfaults₂, ?_⟩
      rw [countPages, hpage]
      simp only [hrest]
      rw [List.flatten_cons, List.filter_append, List.length_append, Nat.add_assoc]

end Cache

end Deferral

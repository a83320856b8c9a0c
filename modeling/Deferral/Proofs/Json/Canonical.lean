import Deferral.Proofs.Json.Legible
import Deferral.Proofs.Json.Members
import Deferral.Proofs.Text.Basic

/-!
# Canonical texts

Two values are the same data if their scalars are equal, their arrays have the same items, and their
objects have the same data under every key, in whatever order the members are held. The canonical
form of a value is the same data with the keys of every object in the order of their bytes, and it
is one form for all values that are the same data. So the text of the canonical form tells which
data a value is, and nothing else about it.

## Main results

* `FloatFree.canonical_eq_iff` — the same data, the same canonical form;
* `FloatFree.ascending_canonical` — the keys of a canonical form ascend at every level;
* `canonicalText_faithful` — the same data, the same canonical text.
-/

namespace Deferral.Json

variable {j k value : Json} {key : String} {m : String × Json} {ms ns : List (String × Json)}

/-- The value under a key. Of members with one key the last counts. -/
def valueOf? (key : String) (ms : List (String × Json)) : Option Json := member? key ms.reverse

/-- Two values are the same data: equal scalars, arrays that are the same item by item, or objects
that have the same keys and the same data under each. -/
inductive SameData : Json → Json → Prop where
  | null : SameData null null
  | bool (b : Bool) : SameData (bool b) (bool b)
  | int (n : Int) : SameData (int n) (int n)
  | float (x : Double) : SameData (float x) (float x)
  | str (s : String) : SameData (str s) (str s)
  | arr {items items' : List Json} (hlength : items.length = items'.length)
      (hitems : ∀ (i : Nat) j k, items[i]? = some j → items'[i]? = some k → SameData j k) :
      SameData (arr items) (arr items')
  | obj {ms ns : List (String × Json)}
      (hkeys : ∀ key, (valueOf? key ms).isSome = (valueOf? key ns).isSome)
      (hvalues : ∀ key j k, valueOf? key ms = some j → valueOf? key ns = some k → SameData j k) :
      SameData (obj ms) (obj ns)

/-- The keys of every object of a value ascend in the order of their bytes. -/
inductive Ascending : Json → Prop where
  | null : Ascending null
  | bool (b : Bool) : Ascending (bool b)
  | int (n : Int) : Ascending (int n)
  | float (x : Double) : Ascending (float x)
  | str (s : String) : Ascending (str s)
  | arr {items : List Json} (hitems : ∀ j ∈ items, Ascending j) : Ascending (arr items)
  | obj {members : List (String × Json)}
      (hkeys : members.Pairwise fun m n => Text.bytes m.1 < Text.bytes n.1)
      (hvalues : ∀ m ∈ members, Ascending m.2) : Ascending (obj members)

/-- An array has no binary numbers if no item has any. -/
theorem floatFree_arr_iff {items : List Json} : FloatFree (arr items) ↔ ∀ j ∈ items, FloatFree j :=
  ⟨fun | .arr h => h, .arr⟩

/-- An object has none if no value of a member has any. -/
theorem floatFree_obj_iff : FloatFree (obj ms) ↔ ∀ m ∈ ms, FloatFree m.2 :=
  ⟨fun | .obj h => h, .obj⟩

/-! ### Members under a key -/

/-- A value that is found for a key is that of a member. -/
theorem mem_of_member? (h : member? key ms = some value) : (key, value) ∈ ms := by
  obtain ⟨⟨k, v⟩, hfind, rfl⟩ := Option.map_eq_some_iff.mp h
  have hkey : k = key := by simpa using List.find?_some hfind
  exact hkey ▸ List.mem_of_find?_eq_some hfind

/-- So is the value that counts. -/
theorem mem_of_valueOf? (h : valueOf? key ms = some value) : (key, value) ∈ ms :=
  List.mem_reverse.mp (mem_of_member? h)

/-- Of members with one key the last counts. -/
theorem valueOf?_cons (k : String) (v : Json) (r : List (String × Json)) :
    valueOf? key ((k, v) :: r) = (valueOf? key r).or (if k = key then some v else none) := by
  rw [valueOf?, valueOf?, List.reverse_cons]
  induction r.reverse with
  | nil => rw [List.nil_append, member?_cons]; rfl
  | cons n r ih =>
      rw [List.cons_append, member?_cons, member?_cons, ih]
      split <;> rfl

/-- A change to all values changes the one that counts. -/
theorem valueOf?_map (f : Json → Json) (key : String) (ms : List (String × Json)) :
    valueOf? key (ms.map fun m => (m.1, f m.2)) = (valueOf? key ms).map f := by
  induction ms with
  | nil => rfl
  | cons n r ih =>
      rw [List.map_cons, valueOf?_cons, valueOf?_cons, ih]
      cases valueOf? key r with
      | some v => rfl
      | none => by_cases hkey : n.1 = key <;> simp [hkey]

/-- An object that is made of members holds under a key the last that was given with it. -/
theorem member?_insertMembers_valueOf? {acc : List (String × Json)} :
    member? key (insertMembers acc ms) = (valueOf? key ms).or (member? key acc) := by
  induction ms generalizing acc with
  | nil => rfl
  | cons n r ih =>
      have hrest : member? key (insertMembers acc (n :: r)) =
          (valueOf? key r).or (member? key (insertMember n.1 n.2 acc)) := ih
      rw [hrest, member?_insertMember, valueOf?_cons, Option.or_assoc]
      split <;> rfl

/-! ### Canonical forms by their parts -/

/-- The items of an array are brought into canonical form one by one. -/
theorem canonicalItems_eq (items : List Json) : canonicalItems items = items.map canonical := by
  induction items with
  | nil => rw [canonicalItems, List.map_nil]
  | cons j r ih => rw [canonicalItems, ih, List.map_cons]

/-- The canonical form of an array. -/
theorem canonical_arr (items : List Json) : canonical (arr items) = arr (items.map canonical) := by
  rw [canonical, canonicalItems_eq]

/-- The canonical form of an object. -/
theorem canonical_obj (ms : List (String × Json)) :
    canonical (obj ms) = ofMembers (ms.map fun m => (m.1, canonical m.2)) := by
  rw [canonical, canonicalMembers_eq, ofMembers_eq]

/-- What the canonical form of an object holds under a key. -/
theorem member?_canonical (key : String) (ms : List (String × Json)) :
    member? key (insertMembers [] (ms.map fun m => (m.1, canonical m.2))) =
      (valueOf? key ms).map canonical := by
  rw [member?_insertMembers_valueOf?, valueOf?_map]
  exact Option.or_none

/-- The members of the canonical form are in the order of their keys. -/
theorem keysSorted_canonical (ms : List (String × Json)) :
    KeysSorted (insertMembers [] (ms.map fun m => (m.1, canonical m.2))) :=
  KeysSorted.insertMembers List.Pairwise.nil _

/-- Each of them comes from a member of the object. -/
theorem exists_of_mem_canonical
    (h : m ∈ insertMembers [] (ms.map fun m => (m.1, canonical m.2))) :
    ∃ n ∈ ms, m = (n.1, canonical n.2) := by
  rcases mem_or_mem_of_mem_insertMembers h with hm | hm
  · obtain ⟨n, hn, rfl⟩ := List.mem_map.mp hm
    exact ⟨n, hn, rfl⟩
  · exact absurd hm List.not_mem_nil

/-! ### The same data -/

/-- Values that are the same data have one canonical form. -/
theorem SameData.canonical_eq (h : SameData j k) : canonical j = canonical k := by
  induction h with
  | arr hlength _ ih =>
      rename_i items items' _
      rw [canonical_arr, canonical_arr, arr.injEq]
      refine List.ext_getElem? fun i => ?_
      rw [List.getElem?_map, List.getElem?_map]
      by_cases hi : i < items.length
      · have hi' : i < items'.length := hlength ▸ hi
        have hj : items[i]? = some items[i] := List.getElem?_eq_getElem hi
        have hk : items'[i]? = some items'[i] := List.getElem?_eq_getElem hi'
        rw [hj, hk, Option.map_some, Option.map_some, ih i _ _ hj hk]
      · rw [List.getElem?_eq_none (Nat.le_of_not_lt hi),
          List.getElem?_eq_none (hlength ▸ Nat.le_of_not_lt hi)]
  | obj hkeys _ ih =>
      rename_i ms ns _
      rw [canonical_obj, canonical_obj, ofMembers_eq, ofMembers_eq, obj.injEq]
      refine (keysSorted_canonical ms).ext (keysSorted_canonical ns) fun key => ?_
      rw [member?_canonical, member?_canonical]
      have hkey := hkeys key
      cases hj : valueOf? key ms with
      | none =>
          rw [hj, Option.isSome_none] at hkey
          have hk : valueOf? key ns = none :=
            Option.not_isSome_iff_eq_none.mp (Bool.eq_false_iff.mp hkey.symm)
          rw [hk, Option.map_none]
      | some j =>
          rw [hj, Option.isSome_some] at hkey
          obtain ⟨k, hk⟩ := Option.isSome_iff_exists.mp hkey.symm
          rw [hk, Option.map_some, Option.map_some, ih key j k hj hk]
  | _ => rfl

/-- Values that have one canonical form are the same data. -/
theorem FloatFree.sameData (hj : FloatFree j) (h : canonical j = canonical k) : SameData j k := by
  induction hj generalizing k with
  | null =>
      cases k with
      | null => exact .null
      | _ => simp [canonical] at h
  | bool b =>
      cases k with
      | bool b' => exact Json.bool.inj h ▸ .bool b
      | _ => simp [canonical] at h
  | int n =>
      cases k with
      | int n' => exact Json.int.inj h ▸ .int n
      | _ => simp [canonical] at h
  | str s =>
      cases k with
      | str s' => exact Json.str.inj h ▸ .str s
      | _ => simp [canonical] at h
  | arr _ ih =>
      rename_i items _
      cases k with
      | arr items' =>
          rw [canonical_arr, canonical_arr, arr.injEq] at h
          have hlength : items.length = items'.length := by simpa using congrArg List.length h
          refine .arr hlength fun i j k hj hk => ?_
          have hi : (items.map canonical)[i]? = (items'.map canonical)[i]? := by rw [h]
          rw [List.getElem?_map, List.getElem?_map, hj, hk] at hi
          exact ih j (List.mem_of_getElem? hj) (Option.some.inj hi)
      | _ => simp [canonical] at h
  | obj _ ih =>
      rename_i ms _
      cases k with
      | obj ns =>
          rw [canonical_obj, canonical_obj, ofMembers_eq, ofMembers_eq, obj.injEq] at h
          have hvalue (key : String) :
              (valueOf? key ms).map canonical = (valueOf? key ns).map canonical := by
            rw [← member?_canonical, h, member?_canonical]
          refine .obj (fun key => ?_) fun key j k hj hk => ?_
          · have hkey := congrArg Option.isSome (hvalue key)
            rwa [Option.isSome_map, Option.isSome_map] at hkey
          · have hkey := hvalue key
            rw [hj, hk] at hkey
            exact ih (key, j) (mem_of_valueOf? hj) (Option.some.inj hkey)
      | _ => simp [canonical] at h

/-- **Canonical form.** Two values without binary numbers have the same canonical form exactly if
they are the same data. -/
theorem FloatFree.canonical_eq_iff (hj : FloatFree j) : canonical j = canonical k ↔ SameData j k :=
  ⟨hj.sameData, SameData.canonical_eq⟩

/-! ### The form of canonical forms -/

/-- The canonical form has no binary numbers if the value has none. -/
theorem FloatFree.canonical (hj : FloatFree j) : FloatFree (canonical j) := by
  induction hj with
  | arr _ ih =>
      rw [canonical_arr]
      refine .arr fun j hj => ?_
      obtain ⟨i, hi, rfl⟩ := List.mem_map.mp hj
      exact ih i hi
  | obj _ ih =>
      rw [canonical_obj, ofMembers_eq]
      refine .obj fun m hm => ?_
      obtain ⟨n, hn, rfl⟩ := exists_of_mem_canonical hm
      exact ih n hn
  | null => exact .null
  | bool b => exact .bool b
  | int n => exact .int n
  | str s => exact .str s

/-- A canonical form is its own canonical form. -/
theorem FloatFree.canonical_canonical (hj : FloatFree j) :
    Json.canonical (Json.canonical j) = Json.canonical j := by
  induction hj with
  | arr _ ih =>
      rw [canonical_arr, canonical_arr, List.map_map]
      exact congrArg Json.arr (List.map_congr_left ih)
  | obj _ ih =>
      rw [canonical_obj]
      refine canonical_ofMembers fun m hm => ?_
      obtain ⟨n, hn, rfl⟩ := List.mem_map.mp hm
      exact ih n hn
  | _ => rfl

/-- **Order.** The keys of a canonical form ascend at every level. -/
theorem FloatFree.ascending_canonical (hj : FloatFree j) : Ascending (Json.canonical j) := by
  induction hj with
  | arr _ ih =>
      rw [canonical_arr]
      refine .arr fun j hj => ?_
      obtain ⟨i, hi, rfl⟩ := List.mem_map.mp hj
      exact ih i hi
  | obj _ ih =>
      rename_i ms _
      rw [canonical_obj, ofMembers_eq]
      refine .obj ((keysSorted_canonical ms).imp Text.bytes_lt_bytes_iff.mpr) fun m hm => ?_
      obtain ⟨n, hn, rfl⟩ := exists_of_mem_canonical hm
      exact ih n hn
  | null => exact .null
  | bool b => exact .bool b
  | int n => exact .int n
  | str s => exact .str s

/-! ### Canonical texts -/

/-- **Canonical texts.** Two values without binary numbers have the same canonical text exactly if
they are the same data. The canonical text of a value is the text of a value that is the same data
and whose keys ascend at every level. -/
theorem canonicalText_faithful (hj : FloatFree j) (hk : FloatFree k) :
    (canonicalText j = canonicalText k ↔ SameData j k) ∧
      ∃ v, canonicalText j = render v ∧ SameData v j ∧ Ascending v := by
  constructor
  · rw [← hj.canonical_eq_iff]
    exact ⟨hj.canonical.render_inj hk.canonical, congrArg render⟩
  · exact ⟨_, rfl, hj.canonical.sameData hj.canonical_canonical, hj.ascending_canonical⟩

/-- Two values with the members of nested objects in different orders, among them strings with
escapes, a negative number and keys outside ASCII, and a third with one other number. -/
theorem canonicalText_faithful_nested :
    let j := obj
      [("é", obj [("z", int 1), ("a", int (-2))]),
        ("b", arr [obj [("y", str "\n\""), ("x", null)]])]
    let k := obj
      [("b", arr [obj [("x", null), ("y", str "\n\"")]]),
        ("é", obj [("a", int (-2)), ("z", int 1)])]
    let l := obj
      [("b", arr [obj [("x", null), ("y", str "\n\"")]]),
        ("é", obj [("a", int (-2)), ("z", int 2)])]
    FloatFree j ∧ FloatFree k ∧ FloatFree l ∧ SameData j k ∧ ¬ SameData j l ∧
      ∃ v, canonicalText j = render v ∧ SameData v j ∧ Ascending v := by
  intro j k l
  have hj : FloatFree j := by
    simp [j, floatFree_obj_iff, floatFree_arr_iff, FloatFree.null, FloatFree.int, FloatFree.str]
  have hk : FloatFree k := by
    simp [k, floatFree_obj_iff, floatFree_arr_iff, FloatFree.null, FloatFree.int, FloatFree.str]
  have hl : FloatFree l := by
    simp [l, floatFree_obj_iff, floatFree_arr_iff, FloatFree.null, FloatFree.int, FloatFree.str]
  have hsame : canonicalText j = canonicalText k := by rfl
  have hother : canonicalText j ≠ canonicalText l := by decide
  obtain ⟨hjk, hform⟩ := canonicalText_faithful hj hk
  exact ⟨hj, hk, hl, hjk.mp hsame, fun h => hother ((canonicalText_faithful hj hl).1.mpr h), hform⟩

end Deferral.Json

import Deferral.Json.Value

/-!
# Members of an object

An object that was made of members has them in the order of their keys, each key once, and the last
of the members with a key. Made again of its own members it is what it was.

## Main results

* `insertMembers_perm` — an object that was made of members of different keys has just these;
* `KeysSorted.ext` — members in order are told by what is found under each key;
* `get?_ofMembers` — what an object that was made of members of different keys has under a key;
* `canonical_ofMembers` — such an object is in canonical form if its values are.
-/

namespace Deferral.Json

variable {key k : String} {value : Json} {m : String × Json} {ms acc : List (String × Json)}

/-- Members in the order of their keys, each key once. -/
def KeysSorted (ms : List (String × Json)) : Prop := ms.Pairwise fun m n => m.1 < n.1

/-- The members that an object is made of, sorted into those that it has. -/
def insertMembers (acc ms : List (String × Json)) : List (String × Json) :=
  ms.foldl (fun ms m => insertMember m.1 m.2 ms) acc

/-- An object is made by inserting its members one after another. -/
theorem ofMembers_eq (ms : List (String × Json)) : ofMembers ms = obj (insertMembers [] ms) := rfl

/-! ### One member -/

/-- What is there after a member was inserted is the member or was there before. -/
theorem eq_or_mem_of_mem_insertMember (h : m ∈ insertMember key value ms) :
    m = (key, value) ∨ m ∈ ms := by
  induction ms with
  | nil => exact .inl (List.mem_singleton.mp h)
  | cons n r ih =>
      unfold insertMember at h
      split at h
      · exact List.mem_cons.mp h
      · split at h
        · exact (List.mem_cons.mp h).imp_right (List.mem_cons_of_mem _)
        · rcases List.mem_cons.mp h with rfl | h
          · exact .inr List.mem_cons_self
          · exact (ih h).imp_right (List.mem_cons_of_mem _)

/-- The first member with a key is found. -/
theorem member?_cons (k : String) (v : Json) (r : List (String × Json)) :
    member? key ((k, v) :: r) = if k = key then some v else member? key r := by
  by_cases hk : k = key <;> simp [member?, hk]

/-- An inserted member is found, and every other is found as before. -/
theorem member?_insertMember (key : String) (value : Json) (ms : List (String × Json)) :
    member? k (insertMember key value ms) = if key = k then some value else member? k ms := by
  induction ms with
  | nil => rw [insertMember, member?_cons]
  | cons n r ih =>
      obtain ⟨k', v⟩ := n
      unfold insertMember
      split
      · rw [member?_cons]
      · split
        · rename_i heq
          rw [member?_cons, member?_cons, heq]
          split <;> rfl
        · rename_i hne
          rw [member?_cons, member?_cons, ih]
          by_cases hk : k' = k
          · rw [if_pos hk, if_pos hk, if_neg (hk ▸ hne)]
          · rw [if_neg hk, if_neg hk]

/-- A member is inserted where its key belongs. -/
theorem KeysSorted.insertMember (h : KeysSorted ms) (key : String) (value : Json) :
    KeysSorted (insertMember key value ms) := by
  induction ms with
  | nil => exact List.pairwise_singleton _ _
  | cons n r ih =>
      obtain ⟨k', v⟩ := n
      obtain ⟨hfirst, hrest⟩ := List.pairwise_cons.mp h
      unfold Json.insertMember
      split
      · rename_i hlt
        refine List.pairwise_cons.mpr ⟨fun m hm => ?_, h⟩
        rcases List.mem_cons.mp hm with rfl | hm
        · exact hlt
        · exact String.lt_trans hlt (hfirst m hm)
      · split
        · rename_i heq
          exact List.pairwise_cons.mpr ⟨fun m hm => heq ▸ hfirst m hm, hrest⟩
        · rename_i hlt hne
          refine List.pairwise_cons.mpr ⟨fun m hm => ?_, ih hrest⟩
          rcases eq_or_mem_of_mem_insertMember hm with rfl | hm
          · exact String.not_le.mp fun hle => hne (String.le_antisymm hle (String.not_lt.mp hlt))
          · exact hfirst m hm

/-- A member with the last key goes to the end. -/
theorem insertMember_of_lt (h : ∀ m ∈ ms, m.1 < key) :
    insertMember key value ms = ms ++ [(key, value)] := by
  induction ms with
  | nil => rfl
  | cons n r ih =>
      obtain ⟨k', v⟩ := n
      have hlt : k' < key := h _ List.mem_cons_self
      rw [Json.insertMember, if_neg (String.lt_asymm hlt), if_neg (String.ne_of_lt hlt).symm,
        ih fun m hm => h m (List.mem_cons_of_mem _ hm), List.cons_append]

/-- A member with a new key comes to those that were there. -/
theorem insertMember_perm (h : key ∉ ms.map (·.1)) :
    (insertMember key value ms).Perm ((key, value) :: ms) := by
  induction ms with
  | nil => exact .refl _
  | cons n r ih =>
      obtain ⟨k', v⟩ := n
      unfold insertMember
      split
      · exact .refl _
      · rw [if_neg (List.ne_of_not_mem_cons h)]
        exact ((ih (List.not_mem_of_not_mem_cons h)).cons _).trans (.swap _ _ _)

/-- Where keys are different, a value is found for a key if they make up a member. -/
theorem member?_eq_some_iff (h : (ms.map (·.1)).Nodup) :
    member? key ms = some value ↔ (key, value) ∈ ms := by
  induction ms with
  | nil => simp [member?]
  | cons n r ih =>
      obtain ⟨k', v⟩ := n
      obtain ⟨hnew, hr⟩ := List.nodup_cons.mp h
      rw [member?_cons, List.mem_cons, Prod.mk.injEq]
      by_cases hk : k' = key
      · subst hk
        have hnone : (k', value) ∉ r := fun hmem =>
          hnew (List.mem_map.mpr ⟨_, hmem, rfl⟩)
        simp [hnone, eq_comm]
      · simp [hk, Ne.symm hk, ih hr]

/-- Keys in strict order are different. -/
theorem KeysSorted.nodup (h : KeysSorted ms) : (ms.map (·.1)).Nodup :=
  List.pairwise_map.mpr (h.imp String.ne_of_lt)

/-- **Extensionality.** Members in the order of their keys are the same if the same is found under
every key. -/
theorem KeysSorted.ext {ns : List (String × Json)} (hms : KeysSorted ms) (hns : KeysSorted ns)
    (h : ∀ key, member? key ms = member? key ns) : ms = ns := by
  have hmem : ∀ m, m ∈ ms ↔ m ∈ ns := fun m => by
    rw [← member?_eq_some_iff hms.nodup, h, member?_eq_some_iff hns.nodup]
  have hdistinct : ∀ {l : List (String × Json)}, KeysSorted l → l.Nodup := fun hl =>
    hl.imp fun hlt heq => String.ne_of_lt hlt (congrArg Prod.fst heq)
  have hperm : ms.Perm ns := (List.perm_ext_iff_of_nodup (hdistinct hms) (hdistinct hns)).mpr hmem
  exact hperm.eq_of_pairwise (fun _ _ _ _ hlt hgt => absurd hlt (String.lt_asymm hgt)) hms hns

/-! ### Members one after another -/

/-- Members of different keys all come to those that were there. -/
theorem insertMembers_perm (h : ((ms ++ acc).map (·.1)).Nodup) :
    (insertMembers acc ms).Perm (ms ++ acc) := by
  induction ms generalizing acc with
  | nil => exact .refl _
  | cons n r ih =>
      have hnew : n.1 ∉ acc.map (·.1) := fun hmem =>
        (List.nodup_cons.mp h).1 (List.map_append.symm ▸ List.mem_append_right _ hmem)
      have hone : (insertMember n.1 n.2 acc).Perm (n :: acc) := insertMember_perm hnew
      have hall : (r ++ insertMember n.1 n.2 acc).Perm (n :: r ++ acc) :=
        (hone.append_left r).trans List.perm_middle
      exact (ih ((hall.map _).nodup_iff.mpr h)).trans hall

/-- What is there after members were inserted is one of them or was there before. -/
theorem mem_or_mem_of_mem_insertMembers (h : m ∈ insertMembers acc ms) : m ∈ ms ∨ m ∈ acc := by
  induction ms generalizing acc with
  | nil => exact .inr h
  | cons n r ih =>
      rcases ih h with hr | hacc
      · exact .inl (List.mem_cons_of_mem _ hr)
      · rcases eq_or_mem_of_mem_insertMember hacc with rfl | hacc
        · exact .inl List.mem_cons_self
        · exact .inr hacc

/-- Members are inserted where their keys belong. -/
theorem KeysSorted.insertMembers (h : KeysSorted acc) (ms : List (String × Json)) :
    KeysSorted (insertMembers acc ms) := by
  induction ms generalizing acc with
  | nil => exact h
  | cons n r ih => exact ih (h.insertMember n.1 n.2)

/-- Nothing is found for a key that no member has. -/
theorem member?_eq_none (h : key ∉ ms.map (·.1)) : member? key ms = none := by
  induction ms with
  | nil => rfl
  | cons n r ih =>
      rw [member?_cons, if_neg (List.ne_of_not_mem_cons h).symm,
        ih (List.not_mem_of_not_mem_cons h)]

/-- A member that was inserted is found, and of those there were before what was found. -/
theorem member?_insertMembers (hms : (ms.map (·.1)).Nodup) :
    member? key (insertMembers acc ms) = (member? key ms).or (member? key acc) := by
  induction ms generalizing acc with
  | nil => rfl
  | cons n r ih =>
      obtain ⟨k', v⟩ := n
      obtain ⟨hnew, hr⟩ := List.nodup_cons.mp hms
      have hrest : member? key (insertMembers acc ((k', v) :: r)) =
          (member? key r).or (member? key (insertMember k' v acc)) := ih hr
      rw [hrest, member?_insertMember, member?_cons]
      by_cases hk : k' = key
      · subst hk
        rw [member?_eq_none hnew, if_pos rfl, if_pos rfl, Option.none_or, Option.some_or]
      · rw [if_neg hk, if_neg hk]

/-- **Look-up.** An object has the members that it was made of, if no key was given twice. -/
theorem get?_ofMembers (hms : (ms.map (·.1)).Nodup) : (ofMembers ms).get? key = member? key ms := by
  rw [ofMembers_eq, get?, member?_insertMembers hms]
  exact Option.or_none

/-! ### Canonical form -/

/-- Members that stand in the order of their keys stay where they are. -/
theorem insertMembers_of_keysSorted (h : KeysSorted (acc ++ ms)) :
    insertMembers acc ms = acc ++ ms := by
  induction ms generalizing acc with
  | nil => exact (List.append_nil acc).symm
  | cons n r ih =>
      obtain ⟨-, -, hlt⟩ := List.pairwise_append.mp h
      have hone : insertMember n.1 n.2 acc = acc ++ [n] :=
        insertMember_of_lt fun m hm => hlt m hm n List.mem_cons_self
      -- The front of the members moves to the end of those that are in order already.
      have hsplit : acc ++ n :: r = acc ++ [n] ++ r := by
        rw [List.append_assoc, List.singleton_append]
      rw [hsplit] at h ⊢
      rw [← ih h, ← hone]
      rfl

/-- The members of the canonical form are those of the object, inserted one after another. -/
theorem canonicalMembers_eq (sorted ms : List (String × Json)) :
    canonicalMembers sorted ms =
      insertMembers sorted (ms.map fun m => (m.1, canonical m.2)) := by
  induction ms generalizing sorted with
  | nil => rw [canonicalMembers]; rfl
  | cons n r ih => rw [canonicalMembers, ih]; rfl

/-- **Canonical form.** An object that was made of members with values in canonical form is in
canonical form. -/
theorem canonical_ofMembers (h : ∀ m ∈ ms, canonical m.2 = m.2) :
    canonical (ofMembers ms) = ofMembers ms := by
  have hvalues : (insertMembers [] ms).map (fun m => (m.1, canonical m.2)) =
      insertMembers [] ms := by
    refine (List.map_congr_left fun m hm => ?_).trans (List.map_id _)
    rcases mem_or_mem_of_mem_insertMembers hm with hm | hm
    · exact Prod.ext rfl (h m hm)
    · exact absurd hm List.not_mem_nil
  have hsorted : KeysSorted ([] ++ insertMembers [] ms) :=
    KeysSorted.insertMembers List.Pairwise.nil ms
  rw [ofMembers_eq, canonical, canonicalMembers_eq, hvalues,
    insertMembers_of_keysSorted hsorted, List.nil_append]

end Deferral.Json

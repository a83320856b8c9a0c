import Deferral.Proofs.Queue.Offer

/-!
# Offers for different activities

Only records of one activity can be like each other. So records of different activities that are
offered one after another do not meet: each is answered as if it had been offered to the queue as it
was before the first of them, none is skipped because of one of the others, and none takes the place
of one of the others.

## Main results

* `records_enqueue` — the records after one offer;
* `Apart.enqueue` — what one offer leaves for those after it;
* `Apart.records_run` — the records after all offers.
-/

namespace Deferral

/-- Whether an offered record takes the place of another one. -/
def Record.Displaces (new o : Record) : Prop := new.onExisting = .replace ∧ new.IsLike o

instance (new o : Record) : Decidable (new.Displaces o) := inferInstanceAs (Decidable (_ ∧ _))

namespace Queue

variable {q : Queue} {r s o : Record} {rs : List Record}

/-- Whether an offered record is put in. -/
def takes (q : Queue) (r : Record) : Bool := (q.byPolicy r).1.isInserted

/-! ### One offer -/

/-- Nothing is like a new record if no record of the queue is. -/
theorem like_eq_nil_iff : q.like r = [] ↔ ∀ o ∈ q.records, ¬ r.IsLike o := by
  simp [like]

/-- A record is left out exactly if its policy is to be skipped and there is one like it. -/
theorem takes_eq_false_iff :
    q.takes r = false ↔ r.onExisting = .skip ∧ ∃ o ∈ q.records, r.IsLike o := by
  by_cases hl : q.like r = []
  · rw [takes, byPolicy, if_pos hl]
    rw [like_eq_nil_iff] at hl
    simpa [EnqueueOutcome.isInserted] using fun _ => hl
  · rw [takes, byPolicy, if_neg hl]
    rw [like_eq_nil_iff] at hl
    push Not at hl
    cases hp : r.onExisting <;> simp [EnqueueOutcome.isInserted, hl]

/-- **One offer.** The records after it are those that it does not take the place of, and then it
itself if it is put in. -/
theorem records_enqueue (hn : q.ids.Nodup) (hid : r.id ∉ q.ids) :
    (q.enqueue r).2.records =
      (q.records.filter fun o => ¬ r.Displaces o) ++ if q.takes r then [r] else [] := by
  have hkept : r.onExisting ≠ .replace ∨ q.like r = [] →
      (q.records.filter fun o => ¬ r.Displaces o) = q.records := by
    intro h
    refine List.filter_eq_self.mpr fun o ho => decide_eq_true fun hdisplaces => ?_
    rcases h with hp | hl
    · exact hp hdisplaces.1
    · exact like_eq_nil_iff.mp hl o ho hdisplaces.2
  rw [enqueue_of_nodup hn hid, takes, byPolicy]
  by_cases hl : q.like r = []
  · rw [if_pos hl, hkept (.inr hl)]
    rfl
  · rw [if_neg hl]
    cases hp : r.onExisting with
    | skip =>
        rw [hkept (.inl (by simp [hp]))]
        exact (List.append_nil _).symm
    | ignore =>
        rw [hkept (.inl (by simp [hp]))]
        rfl
    | replace =>
        refine congrArg (· ++ [r]) (List.filter_congr fun o ho => ?_)
        rw [decide_eq_decide, mem_like_iff hn ho, Record.Displaces, hp, eq_self, true_and]

/-- An offer adds no id but that of its record. -/
theorem mem_ids_enqueue {id : RecordId} (hn : q.ids.Nodup) (hid : r.id ∉ q.ids)
    (h : id ∈ (q.enqueue r).2.ids) : id ∈ q.ids ∨ id = r.id := by
  obtain ⟨o, ho, rfl⟩ := mem_ids.mp h
  rw [records_enqueue hn hid, List.mem_append] at ho
  rcases ho with ho | ho
  · exact .inl (mem_ids.mpr ⟨o, List.mem_of_mem_filter ho, rfl⟩)
  · split at ho
    · exact .inr (congrArg Record.id (List.mem_singleton.mp ho))
    · exact absurd ho List.not_mem_nil

/-- After an offer the same records are like one of another activity. -/
theorem like_enqueue (hn : q.ids.Nodup) (hid : r.id ∉ q.ids) (hne : r.activity.id ≠ s.activity.id) :
    (q.enqueue r).2.like s = q.like s := by
  have hother : ∀ o, s.IsLike o → ¬ r.Displaces o := fun o ho hdisplaces =>
    hne (hdisplaces.2.2.1.symm.trans ho.2.1)
  have hself : ¬ s.IsLike r := fun h => hne h.2.1
  have hnew : ((if q.takes r then [r] else []).filter fun o => s.IsLike o) = [] := by
    split <;> simp [hself]
  rw [like, like, records_enqueue hn hid, List.filter_append, hnew, List.append_nil,
    List.filter_filter]
  refine congrArg (List.map Record.id) (List.filter_congr fun o _ => ?_)
  by_cases ho : s.IsLike o <;> simp [ho, hother o]

/-- What a record comes to depends on the queue only through the records like it. -/
theorem fst_byPolicy_congr {q' : Queue} (h : q'.like s = q.like s) :
    (q'.byPolicy s).1 = (q.byPolicy s).1 := by
  rw [byPolicy, byPolicy, h]
  split
  · rfl
  · cases s.onExisting <;> rfl

/-! ### One offer after another -/

/-- Records of different activities that can be offered one after another: no id is taken. -/
structure Apart (q : Queue) (rs : List Record) : Prop where
  nodup : q.ids.Nodup
  free : ∀ r ∈ rs, r.id ∉ q.ids
  ids : (rs.map (·.id)).Nodup
  activities : (rs.map (·.activity.id)).Nodup

namespace Apart

/-- The first of some records that are apart has a new id. -/
theorem head (h : q.Apart (r :: rs)) : r.id ∉ q.ids := h.free r List.mem_cons_self

/-- Records that are apart are of different activities. -/
theorem ne (h : q.Apart (r :: rs)) (hs : s ∈ rs) : r.activity.id ≠ s.activity.id := by
  intro heq
  exact (List.nodup_cons.mp h.activities).1 (List.mem_map.mpr ⟨s, hs, heq.symm⟩)

/-- What is left to be offered after one of the records. -/
theorem enqueue (h : q.Apart (r :: rs)) : (q.enqueue r).2.Apart rs where
  nodup := nodup_ids_perform h.nodup (.enqueue r)
  free s hs hmem := by
    rcases mem_ids_enqueue h.nodup h.head hmem with hold | hsame
    · exact h.free s (List.mem_cons_of_mem _ hs) hold
    · exact (List.nodup_cons.mp h.ids).1 (List.mem_map.mpr ⟨s, hs, hsame⟩)
  ids := (List.nodup_cons.mp h.ids).2
  activities := (List.nodup_cons.mp h.activities).2

/-- The others are answered as if the first had not been offered. -/
theorem fst_byPolicy_enqueue (h : q.Apart (r :: rs)) (hs : s ∈ rs) :
    ((q.enqueue r).2.byPolicy s).1 = (q.byPolicy s).1 :=
  fst_byPolicy_congr (like_enqueue h.nodup h.head (h.ne hs))

/-- Whether a record that is apart is put in does not depend on the offers before it. -/
theorem takes_enqueue (h : q.Apart (r :: rs)) (hs : s ∈ rs) :
    (q.enqueue r).2.takes s = q.takes s :=
  congrArg EnqueueOutcome.isInserted (h.fst_byPolicy_enqueue hs)

/-- **All offers.** The records afterwards are those that no offered one takes the place of, and
then those that are put in, which is told from the queue as it was. -/
theorem records_run (h : q.Apart rs) :
    (q.run (rs.map .enqueue)).records =
      (q.records.filter fun o => ∀ r ∈ rs, ¬ r.Displaces o) ++ rs.filter q.takes := by
  induction rs generalizing q with
  | nil => simp [run]
  | cons r rs ih =>
      have hrun : q.run ((r :: rs).map .enqueue) = (q.enqueue r).2.run (rs.map .enqueue) := rfl
      have htakes : rs.filter (q.enqueue r).2.takes = rs.filter q.takes :=
        List.filter_congr fun s hs => h.takes_enqueue hs
      -- What has just been put in stays, since none of the others is of its activity.
      have hnew : ((if q.takes r then [r] else []).filter fun o => ∀ s ∈ rs, ¬ s.Displaces o) =
          if q.takes r then [r] else [] := by
        refine List.filter_eq_self.mpr fun o ho => decide_eq_true fun s hs hdisplaces => ?_
        have hor : o = r := by
          split at ho
          · exact List.mem_singleton.mp ho
          · exact absurd ho List.not_mem_nil
        exact h.ne hs (hor ▸ hdisplaces.2.2.1)
      have hkept : ((q.records.filter fun o => ¬ r.Displaces o).filter
            fun o => ∀ s ∈ rs, ¬ s.Displaces o) =
          q.records.filter fun o => ∀ s ∈ r :: rs, ¬ s.Displaces o := by
        rw [List.filter_filter]
        refine List.filter_congr fun o _ => ?_
        rw [Bool.eq_iff_iff]
        simp [and_comm]
      rw [hrun, ih h.enqueue, records_enqueue h.nodup h.head, List.filter_append, hnew, htakes,
        hkept, List.append_assoc, List.filter_cons]
      split <;> rfl

end Apart

end Queue

end Deferral

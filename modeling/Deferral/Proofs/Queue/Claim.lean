import Deferral.Proofs.Queue.Step

/-!
# What a tick claims

A tick claims the idle records whose delay has passed, the earliest queued first. The order is the
only one in which the times do not decrease and the records of each time stand as in the queue.

## Main results

* `isWanted_iff` — which records are claimed;
* `claimDue_perm`, `mem_claimDue_iff` — each of them is claimed once, and marked;
* `pairwise_claimDue`, `filter_claimDue` — they are claimed first in, first out;
* `claimDue_eq_foldr` — how a claim can be computed.
-/

namespace Deferral

namespace Queue

variable {q : Queue} {now : Instant}

/-- A tick wants the records that are idle and whose delay has passed. -/
theorem isWanted_iff {r : Record} :
    isWanted now r = true ↔
      r.processing = false ∧ r.queuedAt.nanos + r.delay.nanos ≤ now.nanos := by
  rw [isWanted, Bool.and_eq_true, Record.isDue_iff, Record.isIdle, Bool.not_eq_true']

/-- The records that a tick wants, marked, in the order of the queue. -/
def wanted (q : Queue) (now : Instant) : List Record :=
  (q.records.filter (isWanted now)).map fun r => { r with processing := true }

/-- Whether a record was queued no later than another. -/
def isEarlier (a b : Record) : Bool := a.queuedAt ≤ b.queuedAt

/-- A claim hands out what is wanted in the order of the time it was queued at. -/
theorem claimDue_eq (q : Queue) (now : Instant) :
    (q.claimDue now).1 = (q.wanted now).mergeSort isEarlier := rfl

/-- It hands out all that is wanted, and nothing else. -/
theorem claimDue_perm (q : Queue) (now : Instant) : (q.claimDue now).1.Perm (q.wanted now) :=
  List.mergeSort_perm _ _

/-- The records that a tick claims are those it wants, each of them marked. -/
theorem mem_claimDue {r : Record} :
    r ∈ (q.claimDue now).1 ↔
      ∃ s ∈ q.records, isWanted now s = true ∧ { s with processing := true } = r := by
  rw [(q.claimDue_perm now).mem_iff]
  simp only [wanted, List.mem_map, List.mem_filter, and_assoc]

/-- A tick claims what was idle and due. -/
theorem mem_claimDue_iff {r : Record} :
    r ∈ (q.claimDue now).1 ↔
      ∃ s ∈ q.records, s.processing = false ∧ s.queuedAt.nanos + s.delay.nanos ≤ now.nanos ∧
        r = { s with processing := true } := by
  rw [mem_claimDue]
  constructor
  · rintro ⟨s, hs, hw, rfl⟩
    obtain ⟨hidle, hdue⟩ := isWanted_iff.mp hw
    exact ⟨s, hs, hidle, hdue, rfl⟩
  · rintro ⟨s, hs, hidle, hdue, rfl⟩
    exact ⟨s, hs, isWanted_iff.mpr ⟨hidle, hdue⟩, rfl⟩

/-- What is idle after a claim was there before and is not due. -/
theorem not_isDue_of_idle_claimDue {r : Record}
    (hr : r ∈ (q.claimDue now).2.records) (hidle : r.isIdle = true) : ¬ r.isDue now = true := by
  rw [records_claimDue] at hr
  obtain ⟨s, -, rfl⟩ := List.mem_map.mp hr
  rw [marked] at hidle ⊢
  split
  · rename_i hw
    rw [if_pos hw] at hidle
    exact absurd hidle Bool.false_ne_true
  · rename_i hw
    rw [if_neg hw] at hidle
    exact fun hdue => hw (Bool.and_eq_true_iff.mpr ⟨hidle, hdue⟩)

/-- No id is claimed twice. -/
theorem nodup_ids_claimed (hn : q.ids.Nodup) (now : Instant) :
    ((q.claimDue now).1.map (·.id)).Nodup := by
  have hperm := (q.claimDue_perm now).map (·.id)
  rw [wanted, List.map_map] at hperm
  exact hperm.nodup_iff.mpr (hn.sublist (List.filter_sublist.map _))

/-- The order of a claim is that of the instants. -/
theorem isEarlier_iff {a b : Record} : isEarlier a b = true ↔ a.queuedAt.nanos ≤ b.queuedAt.nanos :=
  decide_eq_true_iff

/-- The order of a claim is transitive. -/
theorem isEarlier_trans (a b c : Record) (hab : isEarlier a b = true) (hbc : isEarlier b c = true) :
    isEarlier a c = true := by
  rw [isEarlier_iff] at hab hbc ⊢
  exact Int.le_trans hab hbc

/-- The order of a claim is total. -/
theorem isEarlier_total (a b : Record) : (isEarlier a b || isEarlier b a) = true := by
  rw [Bool.or_eq_true, isEarlier_iff, isEarlier_iff]
  omega

/-- A record in front of the first one of a list that was not queued before it. -/
def insertByTime (r : Record) (rs : List Record) : List Record :=
  rs.takeWhile (fun s => !isEarlier r s) ++ r :: rs.dropWhile fun s => !isEarlier r s

/-- Sorting by time comes to inserting one record after another, the last one first. -/
theorem mergeSort_eq_foldr (rs : List Record) :
    rs.mergeSort isEarlier = rs.foldr insertByTime [] := by
  induction rs with
  | nil => exact List.mergeSort_nil
  | cons r rs ih =>
      obtain ⟨front, back, hsorted, hrest, hfront⟩ :=
        List.mergeSort_cons isEarlier_trans isEarlier_total r rs
      have hback : ∀ s ∈ back.head?, isEarlier r s = true := by
        have hpairs := List.pairwise_mergeSort isEarlier_trans isEarlier_total (r :: rs)
        rw [hsorted, List.pairwise_append] at hpairs
        exact fun s hs => List.rel_of_pairwise_cons hpairs.2.1 (List.mem_of_mem_head? hs)
      rw [List.foldr_cons, ← ih, hrest, hsorted, insertByTime,
        List.takeWhile_append_of_pos hfront, List.dropWhile_append_of_pos hfront]
      cases back with
      | nil => simp
      | cons s back => simp [hback s rfl]

/-- A claim, as it can be computed. -/
theorem claimDue_eq_foldr (q : Queue) (now : Instant) :
    q.claimDue now = ((q.wanted now).foldr insertByTime [],
      { q with records := q.records.map (marked now) }) := by
  rw [← mergeSort_eq_foldr]
  rfl

/-- What is claimed is claimed by the time at which it was queued. -/
theorem pairwise_claimDue (q : Queue) (now : Instant) :
    (q.claimDue now).1.Pairwise fun a b => a.queuedAt ≤ b.queuedAt := by
  rw [claimDue_eq]
  refine (List.pairwise_mergeSort isEarlier_trans isEarlier_total _).imp fun h => ?_
  exact of_decide_eq_true h

/-- What was queued at one time is claimed in the order of the queue. -/
theorem filter_claimDue (q : Queue) (now time : Instant) :
    (q.claimDue now).1.filter (·.queuedAt = time) =
      (q.wanted now).filter (·.queuedAt = time) := by
  have hties : ((q.wanted now).filter (·.queuedAt = time)).Pairwise
      fun a b => isEarlier a b = true := by
    refine List.pairwise_of_forall_mem_list fun a ha b hb => ?_
    have hqa : a.queuedAt = time := by simpa using (List.mem_filter.mp ha).2
    have hqb : b.queuedAt = time := by simpa using (List.mem_filter.mp hb).2
    exact isEarlier_iff.mpr (Int.le_of_eq (congrArg Instant.nanos (hqa.trans hqb.symm)))
  have hsub : ((q.wanted now).filter (·.queuedAt = time)).Sublist (q.claimDue now).1 :=
    List.sublist_mergeSort isEarlier_trans isEarlier_total hties List.filter_sublist
  have hkept := hsub.filter fun r => decide (r.queuedAt = time)
  simp only [List.filter_filter, Bool.and_self] at hkept
  have hlength := ((q.claimDue_perm now).filter (·.queuedAt = time)).length_eq
  exact (hkept.eq_of_length hlength.symm).symm

end Queue

end Deferral

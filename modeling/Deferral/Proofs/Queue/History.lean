import Deferral.Proofs.Queue.Claim
import Mathlib.Data.List.Nodup

/-!
# Histories of a queue

In a history of operations each record is offered under an id of its own. The theorems say what
becomes of an id in the course of one. The notion that carries them is that of a settled id: no idle
record in the queue has it. An id is settled from the moment in which it is claimed, cancelled or
replaced, no operation that does not offer it changes that, and no operation claims a settled id or
lists it.

## Main results

* `Settled.history` — a settled id that is not offered again is never claimed and never listed;
* `history_claims_once` — a record is claimed at most once, and never both claimed and withdrawn.
-/

namespace Deferral

namespace Queue

variable {q : Queue} {id : RecordId} {op : QueueOp} {ops : List QueueOp}

/-- No idle record in the queue has the id. -/
def Settled (q : Queue) (id : RecordId) : Prop := ∀ r ∈ q.records, r.id = id → r.processing = true

/-- An id that is not in the queue is settled. -/
theorem settled_of_notMem (h : id ∉ q.ids) : q.Settled id :=
  fun r hr hid => absurd (mem_ids.mpr ⟨r, hr, hid⟩) h

/-- An idle record is in the way of its id being settled. -/
theorem Settled.not_isIdle (h : q.Settled id) {r : Record} (hr : r ∈ q.records)
    (hid : r.id = id) : ¬ r.isIdle = true := by
  simp [Record.isIdle, h r hr hid]

/-- An id stays settled unless it is offered. -/
theorem Settled.perform (h : q.Settled id) (hop : ∀ r, op.offered? = some r → r.id ≠ id) :
    (q.perform op).2.Settled id := by
  intro r hr hid
  rcases mem_records_perform hr with ho | ⟨s, hs, rfl | rfl⟩
  · exact absurd hid (hop r ho)
  · exact h r hs hid
  · rfl

/-- A settled id stays settled when a record is taken out. -/
theorem Settled.complete (h : q.Settled id) (other : RecordId) :
    (q.complete other).2.Settled id :=
  fun r hr hid => h r (List.eraseP_subset hr) hid

/-! ### What an operation answers -/

/-- The ids of idle records picked out of the queue are those of idle records. -/
theorem exists_idle_of_mem_map_filter {wanted : Record → Bool}
    (h : id ∈ (q.records.filter fun r => r.isIdle && wanted r).map (·.id)) :
    ∃ s ∈ q.records, s.isIdle = true ∧ s.id = id := by
  obtain ⟨s, hs, rfl⟩ := List.mem_map.mp h
  obtain ⟨hmem, hidle⟩ := List.mem_filter.mp hs
  exact ⟨s, hmem, (Bool.and_eq_true_iff.mp hidle).1, rfl⟩

/-- The ids that are answered to an offer are those of idle records. -/
theorem exists_idle_of_mem_others {r : Record} (h : id ∈ (q.outcome r).others) :
    ∃ s ∈ q.records, s.isIdle = true ∧ s.id = id := by
  rw [outcome] at h
  split at h
  · exact absurd h List.not_mem_nil
  · split at h
    · exact exists_idle_of_mem_collisions h
    · exact exists_idle_of_mem_map_filter h
    · exact exists_idle_of_mem_collisions h

/-- Putting a record in hands out none and lists none. -/
theorem exchange_insert (q : Queue) (r : Record) :
    (q.exchange (.insert r)).claimed = [] ∧ (q.exchange (.insert r)).named = [] := by
  simp only [exchange, perform]
  split <;> exact ⟨rfl, rfl⟩

/-- What is claimed is idle. -/
theorem exists_idle_of_mem_claimed (h : id ∈ (q.exchange op).claimed) :
    ∃ now, op = .claimDue now ∧ ∃ s ∈ q.records, isWanted now s = true ∧ s.id = id := by
  cases op with
  | claimDue now =>
      obtain ⟨r, hr, rfl⟩ := List.mem_map.mp h
      obtain ⟨s, hs, hw, rfl⟩ := mem_claimDue.mp hr
      exact ⟨now, rfl, s, hs, hw, rfl⟩
  | insert r =>
      rw [(q.exchange_insert r).1] at h
      exact absurd h List.not_mem_nil
  | _ => exact absurd h List.not_mem_nil

/-- What is listed is idle. -/
theorem exists_idle_of_mem_named (h : id ∈ (q.exchange op).named) :
    ∃ s ∈ q.records, s.isIdle = true ∧ s.id = id := by
  cases op with
  | enqueue r =>
      simp only [exchange, perform, Exchange.named] at h
      rcases q.enqueue_cases r with ⟨-, -, he⟩ | ⟨-, he⟩ | ⟨-, -, he⟩
      · rw [he] at h
        exact exists_idle_of_mem_collisions h
      · simp only [he] at h
        exact absurd h List.not_mem_nil
      · rw [he] at h
        exact exists_idle_of_mem_others h
  | cancelMatching wanted dryRun =>
      simp only [exchange, perform, Exchange.named, (q.cancelMatching_eq wanted dryRun).1] at h
      exact exists_idle_of_mem_map_filter h
  | cancelSuperseded activityId source =>
      simp only [exchange, perform, Exchange.named, cancelSuperseded] at h
      split at h
      · exact absurd h List.not_mem_nil
      · rw [(q.cancelMatching_eq _ false).1] at h
        exact exists_idle_of_mem_map_filter h
  | insert r =>
      rw [(q.exchange_insert r).2] at h
      exact absurd h List.not_mem_nil
  | _ => exact absurd h List.not_mem_nil

/-- What is withdrawn is listed. -/
theorem mem_named_of_mem_withdrawn {x : Exchange} (h : id ∈ x.withdrawn) : id ∈ x.named := by
  obtain ⟨op, answer⟩ := x
  simp only [Exchange.withdrawn] at h
  split at h
  · split at h
    · exact absurd h List.not_mem_nil
    · exact h
  · rename_i outcome
    cases outcome with
    | replaced ids => exact h
    | _ => exact absurd h List.not_mem_nil
  · exact absurd h List.not_mem_nil

/-- A settled id is not claimed. -/
theorem Settled.notMem_claimed (h : q.Settled id) : id ∉ (q.exchange op).claimed := by
  intro hmem
  obtain ⟨now, -, s, hs, hw, hid⟩ := exists_idle_of_mem_claimed hmem
  exact h.not_isIdle hs hid (Bool.and_eq_true_iff.mp hw).1

/-- A settled id is not listed as cancelled, nor as that of a like record. -/
theorem Settled.notMem_named (h : q.Settled id) : id ∉ (q.exchange op).named := by
  intro hmem
  obtain ⟨s, hs, hidle, hid⟩ := exists_idle_of_mem_named hmem
  exact h.not_isIdle hs hid hidle

/-- **Settled for good.** A settled id that is not offered again is never claimed and never
listed. -/
theorem Settled.history (h : q.Settled id) (hops : ∀ r ∈ QueueOp.offers ops, r.id ≠ id) :
    ∀ x ∈ q.history ops, id ∉ x.claimed ∧ id ∉ x.named := by
  induction ops generalizing q with
  | nil => exact fun x hx => absurd hx List.not_mem_nil
  | cons op ops ih =>
      have hop : ∀ r, op.offered? = some r → r.id ≠ id := fun r hr =>
        hops r (List.mem_filterMap.mpr ⟨op, List.mem_cons_self, hr⟩)
      have hrest : ∀ r ∈ QueueOp.offers ops, r.id ≠ id := by
        intro r hr
        obtain ⟨o, ho, he⟩ := List.mem_filterMap.mp hr
        exact hops r (List.mem_filterMap.mpr ⟨o, List.mem_cons_of_mem _ ho, he⟩)
      rintro x (_ | ⟨_, hx⟩)
      · exact ⟨h.notMem_claimed, h.notMem_named⟩
      · exact ih (h.perform hop) hrest x hx

/-! ### How an id is settled -/

/-- A claim settles what it claims. -/
theorem settled_of_mem_claimDue (hn : q.ids.Nodup) {now : Instant}
    (h : id ∈ (q.claimDue now).1.map (·.id)) : (q.claimDue now).2.Settled id := by
  obtain ⟨c, hc, rfl⟩ := List.mem_map.mp h
  obtain ⟨s, hs, hw, rfl⟩ := mem_claimDue.mp hc
  intro r hr hid
  obtain ⟨t, ht, rfl⟩ := List.mem_map.mp hr
  obtain rfl : t = s := eq_of_id_eq hn ht hs ((id_marked now t).symm.trans hid)
  show (marked now t).processing = true
  rw [marked, if_pos hw]

/-- An id is settled by its claim. -/
theorem settled_of_mem_claimed (hn : q.ids.Nodup) (h : id ∈ (q.exchange op).claimed) :
    (q.perform op).2.Settled id := by
  obtain ⟨now, rfl, -⟩ := exists_idle_of_mem_claimed h
  exact settled_of_mem_claimDue hn h

/-- Ids of idle records that are taken out of the queue are not in it any more. -/
theorem notMem_ids_withoutIdle (hn : q.ids.Nodup) {wanted : Record → Bool}
    (h : id ∈ (q.records.filter fun r => r.isIdle && wanted r).map (·.id)) :
    id ∉ (q.withoutIdle wanted).ids := by
  obtain ⟨s, hs, rfl⟩ := List.mem_map.mp h
  obtain ⟨hmem, hw⟩ := List.mem_filter.mp hs
  intro hid
  obtain ⟨r, hr, heq⟩ := mem_ids.mp hid
  obtain ⟨hr, hkept⟩ := List.mem_filter.mp hr
  obtain rfl : r = s := eq_of_id_eq hn hr hmem heq
  simp [hw] at hkept

/-- What an offered record replaces is taken out to make room for it. -/
theorem mem_of_mem_removed {r : Record} (h : id ∈ (q.outcome r).removed) :
    id ∈ (q.records.filter fun o => o.isIdle && q.replaces r o).map (·.id) := by
  rw [outcome] at h
  split at h
  · exact absurd h List.not_mem_nil
  · split at h
    · exact absurd h List.not_mem_nil
    · exact h
    · exact absurd h List.not_mem_nil

/-- What is cancelled or replaced leaves the queue. -/
theorem notMem_ids_of_mem_withdrawn (hn : q.ids.Nodup)
    (hf : ∀ r, op.offered? = some r → r.id ∉ q.ids) (h : id ∈ (q.exchange op).withdrawn) :
    id ∉ (q.perform op).2.ids := by
  cases op with
  | enqueue r =>
      simp only [exchange, perform, Exchange.withdrawn] at h ⊢
      rcases q.enqueue_cases r with ⟨-, -, he⟩ | ⟨-, he⟩ | ⟨-, -, he⟩
      · simp only [he] at h
        exact absurd h List.not_mem_nil
      · simp only [he] at h
        exact absurd h List.not_mem_nil
      · simp only [he] at h ⊢
        have hrep := mem_of_mem_removed h
        have hout : id ∉ (q.madeRoom r).ids := notMem_ids_withoutIdle hn hrep
        have hnew : id ≠ r.id := by
          rintro rfl
          obtain ⟨s, hs, -, hid⟩ := exists_idle_of_mem_map_filter hrep
          exact hf r rfl (mem_ids.mpr ⟨s, hs, hid⟩)
        simp [hout, hnew]
  | cancelMatching wanted dryRun =>
      cases dryRun with
      | true => exact absurd h List.not_mem_nil
      | false =>
          simp only [exchange, perform, Exchange.withdrawn, QueueOp.isDryRun,
            (q.cancelMatching_eq wanted false).1] at h
          rw [perform, ids, (q.cancelMatching_eq wanted false).2]
          exact notMem_ids_withoutIdle hn h
  | cancelSuperseded activityId source =>
      simp only [exchange, perform, Exchange.withdrawn, QueueOp.isDryRun, cancelSuperseded] at h ⊢
      by_cases hs : source.isDispatch = true
      · rw [if_pos hs] at h
        exact absurd h List.not_mem_nil
      · rw [if_neg hs, ids, (q.cancelMatching_eq _ false).2]
        rw [if_neg hs, (q.cancelMatching_eq _ false).1] at h
        exact notMem_ids_withoutIdle hn h
  | insert r =>
      have hnamed := mem_named_of_mem_withdrawn h
      rw [(q.exchange_insert r).2] at hnamed
      exact absurd hnamed List.not_mem_nil
  | _ => exact absurd h List.not_mem_nil

/-! ### Whole histories -/

/-- Operations offer their records under ids of their own, of which none is in the queue yet. -/
structure Fresh (q : Queue) (ops : List QueueOp) : Prop where
  nodup : ((QueueOp.offers ops).map (·.id)).Nodup
  notMem : ∀ r ∈ QueueOp.offers ops, r.id ∉ q.ids

/-- The operations after the first are fresh for the queue that it leaves. -/
theorem Fresh.tail (h : q.Fresh (op :: ops)) : (q.perform op).2.Fresh ops := by
  obtain ⟨hnodup, hnotMem⟩ := h
  rw [offers_cons] at hnodup hnotMem
  rw [List.map_append, List.nodup_append] at hnodup
  refine ⟨hnodup.2.1, fun r hr hid => ?_⟩
  have hq : r.id ∉ q.ids := hnotMem r (List.mem_append_right _ hr)
  rcases q.ids_perform op with hsub | ⟨new, ids, ho, hsub, -, heq⟩
  · exact hq (hsub.subset hid)
  · rw [heq, List.mem_append, List.mem_singleton] at hid
    refine hid.elim (fun hold => hq (hsub.subset hold)) fun hnew => ?_
    refine hnodup.2.2 new.id ?_ r.id (List.mem_map_of_mem hr) hnew.symm
    exact List.mem_map_of_mem (by simp [ho])

/-- A fresh operation offers nothing under an id that is in the queue. -/
theorem Fresh.head (h : q.Fresh (op :: ops)) {r : Record} (hr : op.offered? = some r) :
    r.id ∉ q.ids :=
  h.notMem r (by simp [offers_cons, hr])

/-- An id that was in the queue before the first operation is not offered after it. -/
theorem Fresh.ne_of_mem (h : q.Fresh (op :: ops)) (hid : id ∈ q.ids) :
    ∀ r ∈ QueueOp.offers ops, r.id ≠ id := by
  rintro r hr rfl
  exact h.notMem r (by simp [offers_cons, hr]) hid

/-- The ids that one operation claims are different. -/
theorem nodup_claimed (hn : q.ids.Nodup) (op : QueueOp) : (q.exchange op).claimed.Nodup := by
  cases op with
  | claimDue now => exact nodup_ids_claimed hn now
  | insert r =>
      rw [(q.exchange_insert r).1]
      exact List.nodup_nil
  | _ => exact List.nodup_nil

/-- What one operation claims is neither claimed nor listed by a later one, and what it withdraws is
not claimed by a later one. -/
theorem Fresh.pairwise_history (hn : q.ids.Nodup) (h : q.Fresh ops) :
    (q.history ops).Pairwise fun x later =>
      x.claimed.Disjoint later.claimed ∧ x.claimed.Disjoint later.named ∧
        x.withdrawn.Disjoint later.claimed := by
  induction ops generalizing q with
  | nil => exact List.Pairwise.nil
  | cons op ops ih =>
      refine List.pairwise_cons.mpr ⟨fun x hx => ?_, ih (nodup_ids_perform hn op) h.tail⟩
      have hclaimed : ∀ id ∈ (q.exchange op).claimed, id ∉ x.claimed ∧ id ∉ x.named := by
        intro id hid
        obtain ⟨-, -, s, hs, -, hsid⟩ := exists_idle_of_mem_claimed hid
        exact (settled_of_mem_claimed hn hid).history
          (h.ne_of_mem (mem_ids.mpr ⟨s, hs, hsid⟩)) x hx
      have hwithdrawn : ∀ id ∈ (q.exchange op).withdrawn, id ∉ x.claimed := by
        intro id hid
        obtain ⟨s, hs, -, hsid⟩ := exists_idle_of_mem_named (mem_named_of_mem_withdrawn hid)
        have hout := notMem_ids_of_mem_withdrawn hn (fun r hr => h.head hr) hid
        exact ((settled_of_notMem hout).history
          (h.ne_of_mem (mem_ids.mpr ⟨s, hs, hsid⟩)) x hx).1
      exact ⟨fun id h₁ h₂ => (hclaimed id h₁).1 h₂, fun id h₁ h₂ => (hclaimed id h₁).2 h₂,
        fun id h₁ h₂ => hwithdrawn id h₁ h₂⟩

/-- Every exchange of a history is that of an operation on a queue with different ids. -/
theorem nodup_claimed_of_mem_history (hn : q.ids.Nodup) {x : Exchange}
    (hx : x ∈ q.history ops) : x.claimed.Nodup := by
  induction ops generalizing q with
  | nil => exact absurd hx List.not_mem_nil
  | cons op ops ih =>
      rcases hx with _ | ⟨_, hx⟩
      · exact nodup_claimed hn op
      · exact ih (nodup_ids_perform hn op) hx

/-- **A record runs at most once, and never if it was withdrawn.** Let any operations be done on a
queue that is empty at first, in any order, each record being offered under an id of its own. Then
the ids in the queue are different at any time, no id is claimed twice, an id that was claimed is
never listed later as cancelled or as that of a like record, and an id that was cancelled or
replaced is never claimed later. -/
theorem history_claims_once (name : String) (ops : List QueueOp)
    (h : ((QueueOp.offers ops).map (·.id)).Nodup) :
    (∀ before, before <+: ops → ((new name).run before).ids.Nodup) ∧
    (((new name).history ops).flatMap Exchange.claimed).Nodup ∧
    ((new name).history ops).Pairwise (fun x later =>
      x.claimed.Disjoint later.named ∧ x.withdrawn.Disjoint later.claimed) := by
  have hn : (new name).ids.Nodup := List.nodup_nil
  have hpair := Fresh.pairwise_history hn ⟨h, fun _ _ => List.not_mem_nil⟩
  refine ⟨fun before _ => nodup_ids_run hn before, ?_, hpair.imp fun hxy => hxy.2⟩
  rw [List.nodup_flatMap]
  exact ⟨fun x hx => nodup_claimed_of_mem_history hn hx, hpair.imp fun hxy => hxy.1⟩

/-- Three records of one activity. The first is due at once and claimed; while it runs, the third
takes the place of the second and is cancelled. -/
def claimedAmidCancels : List QueueOp :=
  let r (n : BitVec 128) (delay : Span) : Record :=
    .plain ⟨n⟩ (.submission "a" "s") .dispatch delay .epoch
  [
    .insert (r 1 .zero), .insert (r 2 (.ofSeconds 60)), .claimDue .epoch,
    .enqueue { r 3 (.ofSeconds 60) with onExisting := .replace },
    .cancelMatching (fun _ => true) false, .claimDue .epoch, .complete ⟨1⟩
  ]

/-- In that run one id is claimed and two are withdrawn. -/
theorem history_claims_once_amid_cancels :
    ((QueueOp.offers claimedAmidCancels).map (·.id)).Nodup ∧
    ((new "q").history claimedAmidCancels).map (fun x => (x.claimed, x.withdrawn)) =
      [([], []), ([], []), ([⟨1⟩], []), ([], [⟨2⟩]), ([], [⟨3⟩]), ([], []), ([], [])] ∧
    (((new "q").history claimedAmidCancels).flatMap Exchange.claimed).Nodup := by
  have h : ((QueueOp.offers claimedAmidCancels).map (·.id)).Nodup := by decide
  refine ⟨h, ?_, (history_claims_once "q" claimedAmidCancels h).2.1⟩
  simp only [claimedAmidCancels, history, perform, exchange, claimDue_eq_foldr]
  rfl

end Queue

end Deferral

import Deferral.Proofs.Action.Operations
import Deferral.Proofs.Queue.Step

/-!
# Conservation of records

A record comes into a queue by being queued, which is counted, and while nobody takes records out by
their ids or all at once it leaves only by being replaced or cancelled, which is counted too. What a
tick has claimed stays. Each such operation conserves records in this sense, whether it succeeds or
not, and so does each action, since it comes to some of these operations.

## Main results

* `conserves_perform` — one operation;
* `conserves_dispatch`, `conserves_cancel` — one action.
-/

namespace Deferral

/-- Whether the counters tell all that an operation does to the number of records. -/
def QueueOp.isCounted : QueueOp → Bool
  | insert _ | enqueue _ | cancelMatching .. | cancelSuperseded .. => true
  | claimDue _ | complete _ | remove _ | clear => false

namespace Queue

variable {p q s : Queue} {r : Record} {op : QueueOp}

/-- The number of records that a queue holds or has given up, by its counters. -/
def accounted (q : Queue) : Nat :=
  q.counters.replaced + q.counters.cancelled + q.records.length

/-- The second queue has come of the first without the loss of a record. -/
structure Conserves (p q : Queue) : Prop where
  nodup : p.ids.Nodup → q.ids.Nodup
  /-- What is processed stays, -/
  processed : ∀ r ∈ p.records, r.processing = true → r ∈ q.records
  /-- and as many records were queued as are now held or given up in addition. -/
  count : q.counters.enqueued + p.accounted = p.counters.enqueued + q.accounted

/-- Nothing is lost when nothing is done. -/
theorem Conserves.refl (q : Queue) : q.Conserves q := ⟨id, fun _ hr _ => hr, rfl⟩

/-- Nothing is lost in two steps if nothing is lost in either. -/
theorem Conserves.trans (h : p.Conserves q) (h' : q.Conserves s) : p.Conserves s := by
  refine ⟨fun hn => h'.nodup (h.nodup hn), fun r hr hp => ?_, ?_⟩
  · exact h'.processed r (h.processed r hr hp) hp
  · have := h.count
    have := h'.count
    omega

/-- A record that is put in under a new id is counted. -/
theorem conserves_push (hid : r.id ∉ q.ids) : q.Conserves (q.push r) := by
  refine ⟨fun hn => ?_, fun s hs _ => List.mem_append_left _ hs, ?_⟩
  · rw [ids_push, List.nodup_append]
    refine ⟨hn, List.nodup_singleton _, ?_⟩
    rintro a ha b hb rfl
    exact hid (List.mem_singleton.mp hb ▸ ha)
  · simp only [push, accounted, List.length_append, List.length_singleton]
    omega

/-- Idle records that are taken out are missing in the number of records. -/
theorem length_withoutIdle (q : Queue) (wanted : Record → Bool) :
    (q.records.filter fun r => r.isIdle && wanted r).length +
      (q.withoutIdle wanted).records.length = q.records.length :=
  (List.length_eq_length_filter_add _).symm

/-- Ids stay different when idle records are taken out. -/
theorem nodup_ids_withoutIdle (hn : q.ids.Nodup) (wanted : Record → Bool) :
    (q.withoutIdle wanted).ids.Nodup :=
  hn.sublist (List.filter_sublist.map _)

/-- A record in processing is not taken out with idle ones. -/
theorem processed_withoutIdle (wanted : Record → Bool) (hr : r ∈ q.records)
    (hp : r.processing = true) : r ∈ (q.withoutIdle wanted).records :=
  List.mem_filter.mpr ⟨hr, by simp [Record.isIdle, hp]⟩

/-- Making room takes out what it counts as replaced. -/
theorem conserves_madeRoom (q : Queue) (r : Record) : q.Conserves (q.madeRoom r) := by
  refine ⟨fun hn => ?_, fun s hs hp => processed_withoutIdle _ hs hp, ?_⟩
  · exact nodup_ids_withoutIdle hn (q.replaces r)
  · have hlength := q.length_withoutIdle (q.replaces r)
    simp only [madeRoom, accounted]
    omega

/-- A cancellation takes out what it counts as cancelled. -/
theorem conserves_cancelMatching (q : Queue) (wanted : Record → Bool) (dryRun : Bool) :
    q.Conserves (q.cancelMatching wanted dryRun).2 := by
  cases dryRun with
  | true => exact .refl q
  | false =>
      refine ⟨fun hn => ?_, fun s hs hp => ?_, ?_⟩
      · rw [ids, (q.cancelMatching_eq wanted false).2]
        exact nodup_ids_withoutIdle hn wanted
      · rw [(q.cancelMatching_eq wanted false).2]
        exact processed_withoutIdle wanted hs hp
      · have hlength := q.length_withoutIdle wanted
        simp only [cancelMatching, drain_eq, accounted, Bool.false_eq_true, if_false]
        omega

/-- **Offers.** No record is lost when one is offered, whatever becomes of it. -/
theorem conserves_enqueue (q : Queue) (r : Record) : q.Conserves (q.enqueue r).2 := by
  rcases q.enqueue_cases r with ⟨-, -, he⟩ | ⟨-, he⟩ | ⟨hid, -, he⟩
  · rw [he]
    exact ⟨id, fun _ hs _ => hs, rfl⟩
  · rw [he]
    exact q.conserves_madeRoom r
  · rw [he]
    exact (q.conserves_madeRoom r).trans (conserves_push hid)

/-- **One operation.** An operation that the counters tell of conserves records. -/
theorem conserves_perform (h : op.isCounted = true) (q : Queue) :
    q.Conserves (q.perform op).2 := by
  cases op with
  | insert r =>
      by_cases hid : r.id ∈ q.ids
      · simp only [perform, insert_of_mem hid]
        exact .refl q
      · simp only [perform, insert_of_notMem hid]
        exact conserves_push hid
  | enqueue r => exact q.conserves_enqueue r
  | cancelMatching wanted dryRun => exact q.conserves_cancelMatching wanted dryRun
  | cancelSuperseded activityId source =>
      simp only [perform, cancelSuperseded]
      split
      · exact .refl q
      · exact q.conserves_cancelMatching _ false
  | _ => exact absurd h Bool.false_ne_true

/-- Operations that the counters tell of conserve records, one after another. -/
theorem conserves_run {ops : List QueueOp} (h : ∀ op ∈ ops, op.isCounted = true) (q : Queue) :
    q.Conserves (q.run ops) := by
  induction ops generalizing q with
  | nil => exact .refl q
  | cons op ops ih =>
      have hfirst := conserves_perform (h op List.mem_cons_self) q
      exact hfirst.trans (ih (fun x hx => h x (List.mem_cons_of_mem _ hx)) _)

/-! ### Actions -/

/-- **A dispatch action.** Whatever it comes to, it conserves records. -/
theorem conserves_dispatch (a : DispatchAction) (fetcher : Fetcher) (now : Instant)
    (fresh : Nat → RecordId) (run : RunContext) (q : Queue) :
    q.Conserves (a.handle fetcher now fresh run q).queue := by
  obtain ⟨records, -, heq⟩ := a.exists_records_handle fetcher now fresh run q
  rw [heq]
  refine conserves_run (fun op hop => ?_) q
  obtain ⟨r, -, rfl⟩ := List.mem_map.mp hop
  rfl

/-- **A cancel action.** Whatever it comes to, it conserves records. -/
theorem conserves_cancel (a : CancelAction) (fetcher : Fetcher) (run : RunContext) (q : Queue) :
    q.Conserves (a.handle fetcher run q).queue := by
  obtain ⟨ops, hops, heq⟩ := a.exists_ops_handle fetcher run q
  rw [heq]
  refine conserves_run (fun op hop => ?_) q
  obtain ⟨wanted, dryRun, rfl⟩ := hops op hop
  rfl

end Queue

end Deferral

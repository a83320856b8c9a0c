import Deferral.Dispatch.Action
import Deferral.Dispatch.Queue

/-!
# Actions as operations

An action has no way of its own to change a queue: whatever it comes to, some operations of a client
would leave the same queue. A dispatch action offers records, one after another until one is
refused, and a cancel action cancels once or not at all. What every operation keeps is therefore
kept by actions.

## Main results

* `DispatchAction.exists_records_handle` — the records that a dispatch action offers;
* `CancelAction.exists_ops_handle` — the operations of a cancel action.
-/

namespace Deferral

namespace DispatchAction

/-- A record that an action makes for some activity. -/
def Makes (a : DispatchAction) (now : Instant) (dryRun : Option Bool) (r : Record) : Prop :=
  ∃ id activity, r = a.recordFor id now dryRun activity

/-- Queueing a record for each activity comes to offering some of these records. -/
theorem exists_records_queueAll (a : DispatchAction) (now : Instant) (dryRun : Option Bool)
    (fresh : Nat → RecordId) (done : Queued) (activities : List Activity) (q : Queue) :
    ∃ records : List Record, (∀ r ∈ records, a.Makes now dryRun r) ∧
      (a.queueAll now dryRun fresh done activities q).2 = q.run (records.map .enqueue) := by
  induction activities generalizing q fresh done with
  | nil => exact ⟨[], fun _ hr => absurd hr List.not_mem_nil, rfl⟩
  | cons activity activities ih =>
      let first := a.recordFor (fresh 0) now dryRun activity
      have hfirst : a.Makes now dryRun first := ⟨fresh 0, activity, rfl⟩
      have hrun : ∀ records : List Record,
          q.run ((first :: records).map .enqueue) =
            (q.enqueue first).2.run (records.map .enqueue) := fun _ => rfl
      rw [queueAll]
      split
      · rename_i e after he
        refine ⟨[first], by simpa using hfirst, ?_⟩
        rw [hrun, he]
        rfl
      · rename_i outcome after he
        obtain ⟨records, hmade, hrest⟩ := ih (fun n => fresh (n + 1))
          ⟨if outcome.isInserted then done.ids ++ [first.id] else done.ids,
            done.lines ++ [line a.type activity.id outcome]⟩ after
        refine ⟨first :: records, by simpa using ⟨hfirst, hmade⟩, ?_⟩
        rw [hrun, he]
        exact hrest

/-- **A dispatch action.** Whatever it comes to, it has offered some records to the queue. -/
theorem exists_records_handle (a : DispatchAction) (fetcher : Fetcher) (now : Instant)
    (fresh : Nat → RecordId) (context : RunContext) (q : Queue) :
    ∃ records : List Record, (∀ r ∈ records, a.Makes now (a.recordDryRun context) r) ∧
      (a.handle fetcher now fresh context q).queue = q.run (records.map .enqueue) := by
  have hnone : ∃ records : List Record,
      (∀ r ∈ records, a.Makes now (a.recordDryRun context) r) ∧
        q = q.run (records.map .enqueue) :=
    ⟨[], fun _ hr => absurd hr List.not_mem_nil, rfl⟩
  simp only [handle]
  split
  · exact hnone
  · rename_i targets _
    split
    · exact hnone
    · have hall := a.exists_records_queueAll now (a.recordDryRun context) fresh ⟨[], []⟩
        targets.activities q
      split
      · rename_i e after he
        rwa [he] at hall
      · rename_i done after he
        rwa [he] at hall

end DispatchAction

/-- **A cancel action.** It has cancelled idle records, or it has done nothing to the queue. -/
theorem CancelAction.exists_ops_handle (c : CancelAction) (fetcher : Fetcher)
    (context : RunContext) (q : Queue) :
    ∃ ops : List QueueOp, (∀ op ∈ ops, ∃ wanted dryRun, op = .cancelMatching wanted dryRun) ∧
      (c.handle fetcher context q).queue = q.run ops := by
  have hcancel : ∀ (wanted : Record → Bool) (dryRun : Bool),
      ∃ ops : List QueueOp, (∀ op ∈ ops, ∃ wanted dryRun, op = .cancelMatching wanted dryRun) ∧
        (q.cancelMatching wanted dryRun).2 = q.run ops :=
    fun wanted dryRun => ⟨[.cancelMatching wanted dryRun],
      fun _ hop => ⟨wanted, dryRun, List.mem_singleton.mp hop⟩, rfl⟩
  have hnone : ∃ ops : List QueueOp,
      (∀ op ∈ ops, ∃ wanted dryRun, op = .cancelMatching wanted dryRun) ∧ q = q.run ops :=
    ⟨[], fun _ hop => absurd hop List.not_mem_nil, rfl⟩
  simp only [handle]
  split
  · exact hcancel (c.wants none) _
  · split
    · exact hnone
    · split
      · exact hnone
      · exact hcancel (c.wants _) _

end Deferral

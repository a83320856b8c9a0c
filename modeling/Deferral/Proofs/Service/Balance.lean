import Deferral.Dispatch.Service
import Deferral.Proofs.Queue.Claim
import Deferral.Proofs.Queue.Conservation
import Deferral.Proofs.Round.Account
import Mathlib.Algebra.GroupWithZero.Nat
import Mathlib.Data.List.Perm.Basic

/-!
# The balance of a service

Every record that was queued is held by the queue, or it was replaced or cancelled, or it has
finished in a tick; the counters tell how many went each way. While ticks are under way, what they
have claimed and not finished is in the queue, each record once and marked, so that the end of a
turn takes out exactly the record that it counts. Ticks may overlap.

## Main results

* `Balanced.step` — every event keeps the balance;
* `enqueued_eq_of_ticks_eq_nil` — the equation between the counters whenever no tick is under way.
-/

namespace Deferral

/-- Whether the counters tell all that an event does to the number of records. -/
def ServiceEvent.isCounted : ServiceEvent → Bool
  | client op => op.isCounted
  | _ => true

/-- How many records have finished in a tick. -/
def Tick.finishedCount (t : Tick) : Nat := t.report.executed + t.report.failed

/-- A queue in balance with the records that ticks have claimed and not finished, and with the
number of those that have finished. -/
structure Queue.Balanced (q : Queue) (unfinished : List Execution) (finished : Nat) : Prop where
  nodup : q.ids.Nodup
  /-- No record is claimed twice, -/
  disjoint : (unfinished.map (·.record.id)).Nodup
  /-- and what is claimed is marked in the queue. -/
  marked : ∀ e ∈ unfinished, ∃ r ∈ q.records, r.id = e.record.id ∧ r.processing = true
  count : q.counters.enqueued = finished + q.accounted

namespace Queue

variable {q q' : Queue} {e e' : Execution} {unfinished unfinished' : List Execution}
  {finished : Nat}

/-- A new queue is in balance. -/
theorem balanced_new (name : String) : (new name).Balanced [] 0 :=
  ⟨List.nodup_nil, List.nodup_nil, fun _ he => absurd he List.not_mem_nil, rfl⟩

/-- The order of the claimed records does not matter. -/
theorem Balanced.perm (h : q.Balanced unfinished finished) (hp : unfinished.Perm unfinished') :
    q.Balanced unfinished' finished :=
  ⟨h.nodup, (hp.map _).nodup_iff.mp h.disjoint, fun e he => h.marked e (hp.mem_iff.mpr he),
    h.count⟩

/-- It stays in balance as long as no record is lost. -/
theorem Balanced.of_conserves (h : q.Balanced unfinished finished) (hc : q.Conserves q') :
    q'.Balanced unfinished finished := by
  refine ⟨hc.nodup h.nodup, h.disjoint, fun e he => ?_, ?_⟩
  · obtain ⟨r, hr, hid, hp⟩ := h.marked e he
    exact ⟨r, hc.processed r hr hp, hid, hp⟩
  · have hbefore := h.count
    have hcount := hc.count
    omega

/-- A claim adds the claimed records to those that have not finished. -/
theorem Balanced.claimDue (h : q.Balanced unfinished finished) (now : Instant)
    (tickInterval : Span) :
    (q.claimDue now).2.Balanced
      (unfinished ++ (q.claimDue now).1.map (Execution.new now tickInterval)) finished := by
  have hclaimed : ((q.claimDue now).1.map (Execution.new now tickInterval)).map (·.record.id) =
      (q.claimDue now).1.map (·.id) := by
    rw [List.map_map]
    rfl
  refine ⟨q.ids_claimDue now ▸ h.nodup, ?_, fun e he => ?_, ?_⟩
  · rw [List.map_append, hclaimed, List.nodup_append]
    refine ⟨h.disjoint, nodup_ids_claimed h.nodup now, ?_⟩
    rintro a ha b hb rfl
    -- A record claimed twice would have been idle and marked at once.
    obtain ⟨e, he, rfl⟩ := List.mem_map.mp ha
    obtain ⟨c, hc, hid⟩ := List.mem_map.mp hb
    obtain ⟨s, hs, hw, rfl⟩ := mem_claimDue.mp hc
    obtain ⟨r, hr, hrid, hp⟩ := h.marked e he
    obtain rfl : r = s := eq_of_id_eq h.nodup hr hs (hrid.trans hid.symm)
    simp [isWanted, Record.isIdle, hp] at hw
  · rcases List.mem_append.mp he with he | he
    · obtain ⟨r, hr, hid, hp⟩ := h.marked e he
      have hkept : Queue.marked now r = r := if_neg (by simp [isWanted, Record.isIdle, hp])
      exact ⟨r, List.mem_map.mpr ⟨r, hr, hkept⟩, hid, hp⟩
    · obtain ⟨c, hc, rfl⟩ := List.mem_map.mp he
      obtain ⟨s, hs, hw, rfl⟩ := mem_claimDue.mp hc
      exact ⟨_, List.mem_map.mpr ⟨s, hs, if_pos hw⟩, rfl, rfl⟩
  · have hlength : (q.claimDue now).2.records.length = q.records.length :=
      List.length_map _
    have hcount := h.count
    simp only [accounted, hlength] at hcount ⊢
    exact hcount

/-- A record that goes on is as unfinished as before. -/
theorem Balanced.goOn (h : q.Balanced (e :: unfinished) finished) (he : e'.record = e.record) :
    q.Balanced (e' :: unfinished) finished := by
  refine ⟨h.nodup, ?_, fun x hx => ?_, h.count⟩
  · rw [List.map_cons, he]
    exact h.disjoint
  · rcases List.mem_cons.mp hx with rfl | hx
    · exact he ▸ h.marked e List.mem_cons_self
    · exact h.marked x (List.mem_cons_of_mem _ hx)

/-- A record that finishes leaves the queue, and no other does. -/
theorem Balanced.complete (h : q.Balanced (e :: unfinished) finished) :
    (q.complete e.record.id).2.Balanced unfinished (finished + 1) := by
  obtain ⟨hnew, hdisjoint⟩ := List.nodup_cons.mp h.disjoint
  obtain ⟨r, hr, hid, -⟩ := h.marked e List.mem_cons_self
  refine ⟨?_, hdisjoint, fun x hx => ?_, ?_⟩
  · rw [ids_complete]
    exact h.nodup.erase _
  · obtain ⟨s, hs, hsid, hp⟩ := h.marked x (List.mem_cons_of_mem _ hx)
    have hne : s.id ≠ e.record.id := fun heq =>
      hnew (List.mem_map.mpr ⟨x, hx, hsid.symm.trans heq⟩)
    exact ⟨s, (List.mem_eraseP_of_neg (by simp [hne])).mpr hs, hsid, hp⟩
  · have hlength : (q.complete e.record.id).2.records.length = q.records.length - 1 :=
      List.length_eraseP_of_mem hr (beq_iff_eq.mpr hid)
    have hpos : 0 < q.records.length := List.length_pos_of_mem hr
    have hcount := h.count
    have hcounters : (q.complete e.record.id).2.counters = q.counters := rfl
    simp only [accounted, hcounters, hlength] at hcount ⊢
    omega

end Queue

namespace Service

variable {v : Service} {event : ServiceEvent} {events : List ServiceEvent} {t : Tick} {i : Nat}

/-- The records that ticks have claimed and not finished. -/
def unfinished (v : Service) : List Execution := v.ticks.flatMap Tick.unfinished

/-- How many records have finished, in ticks that have ended and in those that are under way. -/
def finishedCount (v : Service) : Nat :=
  v.scheduler.totals.executed + v.scheduler.totals.failed + (v.ticks.map Tick.finishedCount).sum

/-- A service whose queue is in balance with its ticks. -/
def Balanced (v : Service) : Prop := v.queue.Balanced v.unfinished v.finishedCount

/-- A new service is in balance. -/
theorem balanced_new (name : String) (settings : DispatchSettings) :
    (new name settings).Balanced := Queue.balanced_new name

/-- What the ticks of a service amount to, with one of them set apart. -/
theorem perm_ticks (h : v.ticks[i]? = some t) : v.ticks.Perm (t :: v.ticks.eraseIdx i) := by
  obtain ⟨hi, rfl⟩ := List.getElem?_eq_some_iff.mp h
  exact (List.getElem_cons_eraseIdx_perm hi).symm

/-- The unfinished records of a service are those of one tick and those of the others. -/
theorem unfinished_perm (h : v.ticks[i]? = some t) :
    v.unfinished.Perm (t.unfinished ++ (v.ticks.eraseIdx i).flatMap Tick.unfinished) :=
  (perm_ticks h).flatMap_right _

/-- So are those that have finished. -/
theorem finishedCount_eq (h : v.ticks[i]? = some t) :
    v.finishedCount = v.scheduler.totals.executed + v.scheduler.totals.failed +
      (t.finishedCount + ((v.ticks.eraseIdx i).map Tick.finishedCount).sum) := by
  rw [finishedCount, ((perm_ticks h).map _).sum_nat, List.map_cons, List.sum_cons]

/-! ### Ticks -/

/-- A tick begins with the records that it claims. -/
theorem Balanced.beginTick (h : v.Balanced) (now : Instant) :
    (v.step (.beginTick now)).Balanced := by
  have hclaim := Queue.Balanced.claimDue h now v.scheduler.tickInterval
  have hunfinished : (v.scheduler.beginTick now).1.unfinished =
      (v.queue.claimDue now).1.map (Execution.new now v.scheduler.tickInterval) :=
    Round.unfinished_begin now v.scheduler.tickInterval v.scheduler.maxConcurrent v.queue
  have hall : (v.step (.beginTick now)).unfinished =
      v.unfinished ++ (v.queue.claimDue now).1.map
        (Execution.new now v.scheduler.tickInterval) := by
    rw [← hunfinished]
    simp only [step, unfinished, List.flatMap_append, List.flatMap_singleton]
  have hcount : (v.step (.beginTick now)).finishedCount = v.finishedCount := by
    simp only [step, finishedCount, List.map_append, List.sum_append]
    rfl
  rw [Balanced, hall, hcount]
  exact hclaim

/-- What is left of a tick when the record in front has had its turn, and how many have finished. -/
theorem Balanced.endTurn {q : Queue} {e : Execution} {others others' : List Execution} {n : Nat}
    (h : q.Balanced (t.unfinished ++ others') (t.finishedCount + n))
    (hrunning : t.running = e :: others) (how : TurnEnd) :
    (t.endTurn how q).2.2.Balanced ((t.endTurn how q).2.1.unfinished ++ others')
      ((t.endTurn how q).2.1.finishedCount + n) := by
  have hleft := Tick.unfinished_endTurn hrunning how q
  have hreport := Tick.report_endTurn hrunning how q
  have hfront : q.Balanced (e :: (others ++ t.stalled ++ t.waiting ++ others'))
      (t.finishedCount + n) := by
    rw [Round.unfinished_of_running hrunning] at h
    exact h
  rw [Tick.queue_endTurn hrunning how q]
  cases hafter : e.after? how with
  | none =>
      have hfinal : how.isFinal = true := Execution.after?_eq_none_iff.mp hafter
      rw [hafter, Option.toList_none, List.nil_append] at hleft
      rw [if_pos hfinal] at hreport ⊢
      have hone : (t.endTurn how q).2.1.finishedCount = t.finishedCount + 1 := by
        rw [Tick.finishedCount, hreport, Tick.finishedCount, TickReport.add]
        cases how.isSuccess <;> simp only [Bool.toNat_true, Bool.toNat_false, Bool.not_true,
          Bool.not_false] <;> omega
      rw [hone, Nat.add_right_comm]
      exact hfront.complete.perm (hleft.append_right _).symm
  | some e' =>
      have hfinal : how.isFinal = false := by
        rw [← Bool.not_eq_true, ← Execution.after?_eq_none_iff, hafter]
        exact Option.some_ne_none _
      rw [hafter, Option.toList_some, List.singleton_append] at hleft
      rw [hfinal, if_neg Bool.false_ne_true] at hreport ⊢
      rw [Tick.finishedCount, hreport]
      refine Queue.Balanced.perm ?_ (hleft.append_right _).symm
      exact hfront.goOn (Execution.record_after? hafter).1

/-- **One turn.** However it ends, the balance is kept. -/
theorem Balanced.turn (h : v.Balanced) (i : Nat) (how : TurnEnd) :
    (v.step (.turn i how)).Balanced := by
  rw [step]
  cases ht : v.ticks[i]? with
  | none => exact h
  | some t =>
      obtain ⟨hi, -⟩ := List.getElem?_eq_some_iff.mp ht
      -- The tick is set apart, has its turn, and is put back among the others.
      have hset := List.set_perm_cons_eraseIdx hi (t.endTurn how v.queue).2.1
      have hbefore := Queue.Balanced.perm h (unfinished_perm ht)
      rw [finishedCount_eq ht, Nat.add_left_comm] at hbefore
      have hafter : (t.endTurn how v.queue).2.2.Balanced
          ((t.endTurn how v.queue).2.1.unfinished ++
            (v.ticks.eraseIdx i).flatMap Tick.unfinished)
          ((t.endTurn how v.queue).2.1.finishedCount + (v.scheduler.totals.executed +
            v.scheduler.totals.failed + ((v.ticks.eraseIdx i).map Tick.finishedCount).sum)) := by
        cases hrunning : t.running with
        | nil =>
            simp only [Tick.endTurn, hrunning]
            exact hbefore
        | cons e others => exact Balanced.endTurn hbefore hrunning how
      have hcount := (hset.map Tick.finishedCount).sum_nat
      rw [List.map_cons, List.sum_cons] at hcount
      rw [Nat.add_left_comm, ← hcount] at hafter
      exact hafter.perm (hset.flatMap_right _).symm

/-- **The end of a tick.** What it counted is counted by the scheduler. -/
theorem Balanced.endTick (h : v.Balanced) (i : Nat) : (v.step (.endTick i)).Balanced := by
  rw [step]
  cases ht : v.ticks[i]? with
  | none => exact h
  | some t =>
      simp only
      split
      · rename_i hover
        have hnone : t.unfinished = [] := List.isEmpty_iff.mp hover
        have hbefore := Queue.Balanced.perm h (unfinished_perm ht)
        rw [hnone, List.nil_append] at hbefore
        have hcount : v.finishedCount =
            finishedCount ⟨v.scheduler.endTick t, v.ticks.eraseIdx i⟩ := by
          rw [finishedCount_eq ht]
          simp only [finishedCount, Scheduler.endTick, TickTotals.add, Tick.finishedCount]
          omega
        rw [hcount] at hbefore
        exact hbefore
      · exact h

/-! ### Whole runs -/

/-- A service stays in balance as long as its queue loses no record. -/
theorem Balanced.of_conserves {q : Queue} (h : v.Balanced) (hc : v.queue.Conserves q) :
    (v.withQueue q).Balanced :=
  Queue.Balanced.of_conserves h hc

/-- **One event.** Whatever happens, the balance is kept. -/
theorem Balanced.step (h : v.Balanced) (he : event.isCounted = true) : (v.step event).Balanced := by
  cases event with
  | client op => exact h.of_conserves (Queue.conserves_perform he _)
  | dispatch a fetcher now fresh run =>
      exact h.of_conserves (Queue.conserves_dispatch a fetcher now fresh run _)
  | cancel a fetcher run => exact h.of_conserves (Queue.conserves_cancel a fetcher run _)
  | beginTick now => exact h.beginTick now
  | turn i how => exact h.turn i how
  | endTick i => exact h.endTick i

/-- **Runs.** A service stays in balance as long as nothing happens to it but what is counted. -/
theorem Balanced.run (h : v.Balanced) (he : ∀ event ∈ events, event.isCounted = true) :
    (v.run events).Balanced := by
  induction events generalizing v with
  | nil => exact h
  | cons event events ih =>
      exact ih (h.step (he event List.mem_cons_self))
        fun e hmem => he e (List.mem_cons_of_mem _ hmem)

/-- **Nothing is lost or counted twice.** Let clients offer and cancel records, let actions be
handled, and let ticks run, in any order and also side by side, with any mixture of records that
succeed and fail. Whenever no tick is under way, every record that was queued has been executed,
failed, replaced or cancelled or is in the queue, each in one of these ways, and the idle ones among
those in the queue are counted as pending. -/
theorem enqueued_eq_of_ticks_eq_nil (name : String) (settings : DispatchSettings)
    (events : List ServiceEvent) (he : ∀ event ∈ events, event.isCounted = true)
    (hidle : ((new name settings).run events).ticks = []) :
    let m := ((new name settings).run events).scheduler.tally
    let records := ((new name settings).run events).queue.records
    m.enqueued = m.executed + m.failed + m.replaced + m.cancelled + records.length ∧
      m.pending = (records.filter fun r => !r.processing).length := by
  have hbalanced := (balanced_new name settings).run he
  have hcount := hbalanced.count
  rw [finishedCount, hidle, List.map_nil, List.sum_nil, Queue.accounted] at hcount
  refine ⟨?_, List.countP_eq_length_filter⟩
  simp only [Scheduler.tally]
  rw [← Nat.add_assoc, ← Nat.add_assoc] at hcount
  exact hcount

/-- A run in which two ticks overlap. While the first runs two records, a record comes in that the
second claims, one is refused, and an action queues a record and then replaces it. -/
def overlappingTicks : List ServiceEvent :=
  let r (n : BitVec 128) : Record :=
    .plain ⟨n⟩ (.submission "a" "s") .dispatch .zero .epoch
  let action : DispatchAction :=
    ⟨"later", .dispatch, { DispatchConfig.plain (.text "1m") with onExisting := .replace },
      .ofSeconds 60⟩
  let dispatch (n : Nat) : ServiceEvent :=
    .dispatch action (.constant (.error ⟨["no answer"]⟩)) .epoch
      (fun k => ⟨BitVec.ofNat 128 (n + k)⟩) ⟨.submission "b" "s", .poll, false⟩
  [
    .client (.insert (r 1)), .client (.insert (r 2)), .beginTick .epoch,
    .client (.insert (r 3)), .client (.enqueue (r 1)), .beginTick .epoch, .turn 0 .succeeded,
    dispatch 4, dispatch 5, .turn 1 (.failed ⟨["no answer"]⟩), .endTick 1, .turn 0 .succeeded,
    .cancel ⟨"stop", .plain [.any] .any⟩ (.constant (.error ⟨[]⟩))
      ⟨.submission "b" "s", .poll, true⟩,
    .client (.insert (r 6)), .client (.cancelMatching (fun s => s.activity.id == "a") false),
    .endTick 0
  ]

/-- Of six records that were queued in that run two have been executed, one has failed, one was
replaced and one cancelled. -/
theorem enqueued_eq_of_ticks_eq_nil_overlapping :
    (∀ event ∈ overlappingTicks, event.isCounted = true) ∧
    ((new "q" .standard).run overlappingTicks).ticks = [] ∧
    ((new "q" .standard).run overlappingTicks).scheduler.tally =
      ⟨6, 0, 1, 1, 2, 1, 0, 2, some .epoch, 1⟩ ∧
    (6 = 2 + 1 + 1 + 1 + ((new "q" .standard).run overlappingTicks).queue.records.length) := by
  have he : ∀ event ∈ overlappingTicks, event.isCounted = true := by
    simp [overlappingTicks, ServiceEvent.isCounted, QueueOp.isCounted]
  obtain ⟨hidle, htally⟩ : ((new "q" .standard).run overlappingTicks).ticks = [] ∧
      ((new "q" .standard).run overlappingTicks).scheduler.tally =
        ⟨6, 0, 1, 1, 2, 1, 0, 2, some .epoch, 1⟩ := by
    simp only [overlappingTicks, run, List.foldl_cons, List.foldl_nil, step, Scheduler.beginTick,
      Tick.begin, Queue.claimDue_eq_foldr]
    exact ⟨rfl, rfl⟩
  have hequation := (enqueued_eq_of_ticks_eq_nil "q" .standard overlappingTicks he hidle).1
  rw [htally] at hequation
  exact ⟨he, hidle, htally, hequation⟩

end Service

end Deferral

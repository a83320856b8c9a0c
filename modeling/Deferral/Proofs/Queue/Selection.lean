import Deferral.Proofs.Queue.Claim
import Mathlib.Data.List.Forall2

/-!
# First in, first out

A claim hands out copies of the records that it takes and marks the records where they stand. The
copies come in the order of their times, the records stay in the order of the queue. Nothing that a
claim leaves idle is due, and what is not due at a time was not due before. So a later claim that
goes by that time or an earlier one finds nothing, whatever was done to the queue meanwhile, unless
a record was put in, which the queue counts.

## Main results

* `enqueued_perform` — an operation puts a record in and counts it, or it makes nothing idle;
* `Rested.run` — a queue in which nothing is due stays so until a record is put in;
* `claimDue_firstInFirstOut` — what a claim hands out, what it leaves, and what it leaves to others.
-/

namespace Deferral

/-- The record is idle and its delay has passed. -/
def Record.Awaits (r : Record) (now : Instant) : Prop :=
  r.processing = false ∧ r.queuedAt.nanos + r.delay.nanos ≤ now.nanos

instance (r : Record) (now : Instant) : Decidable (r.Awaits now) :=
  inferInstanceAs (Decidable (_ ∧ _))

/-- The record as it is when it has been claimed. -/
def Record.taken (r : Record) : Record := { r with processing := true }

/-- A record that was taken is taken already. -/
@[simp] theorem Record.taken_taken (r : Record) : r.taken.taken = r.taken := rfl

namespace Queue

variable {q : Queue} {r : Record} {op : QueueOp} {ops : List QueueOp} {now time : Instant}

/-- The test of a claim is the relation. -/
theorem isWanted_iff_awaits : isWanted now r = true ↔ r.Awaits now := isWanted_iff

/-- What a claim wants is what awaits it, each marked as taken. -/
theorem wanted_eq (q : Queue) (now : Instant) :
    q.wanted now = (q.records.filter fun r => r.Awaits now).map Record.taken := by
  have hfilter : q.records.filter (isWanted now) = q.records.filter fun r => r.Awaits now := by
    refine List.filter_congr fun r _ => ?_
    rw [Bool.eq_iff_iff, isWanted_iff_awaits, decide_eq_true_iff]
  rw [wanted, hfilter]
  rfl

/-! ### Queues in which nothing is due -/

/-- No record that waits is due at a time. -/
def Rested (q : Queue) (time : Instant) : Prop := ∀ r ∈ q.records, ¬ r.Awaits time

/-- A claim hands out nothing exactly if nothing is due. -/
theorem claimDue_eq_nil_iff : (q.claimDue time).1 = [] ↔ q.Rested time := by
  constructor
  · intro hnone r hr hawaits
    have hclaimed : r.taken ∈ (q.claimDue time).1 :=
      mem_claimDue.mpr ⟨r, hr, isWanted_iff_awaits.mpr hawaits, rfl⟩
    rw [hnone] at hclaimed
    exact absurd hclaimed List.not_mem_nil
  · intro hrested
    refine List.eq_nil_iff_forall_not_mem.mpr fun r hr => ?_
    obtain ⟨s, hs, hwanted, -⟩ := mem_claimDue.mp hr
    exact hrested s hs (isWanted_iff_awaits.mp hwanted)

/-- A claim leaves nothing that is due. -/
theorem rested_claimDue (q : Queue) (now : Instant) : (q.claimDue now).2.Rested now := by
  intro r hr hawaits
  obtain ⟨hidle, hdue⟩ := hawaits
  refine not_isDue_of_idle_claimDue hr ?_ (Record.isDue_iff.mpr hdue)
  rw [Record.isIdle, hidle]
  rfl

/-- What is not due at a time was not due before. -/
theorem Rested.of_le (h : q.Rested now) (hle : time ≤ now) : q.Rested time := by
  intro r hr hawaits
  obtain ⟨hidle, hdue⟩ := hawaits
  replace hle : time.nanos ≤ now.nanos := hle
  exact h r hr ⟨hidle, by omega⟩

/-! ### What an operation makes idle -/

/-- A record that is idle after an operation was offered by it or was there before. -/
theorem offered_or_mem_of_idle (hr : r ∈ (q.perform op).2.records) (hidle : r.processing = false) :
    op.offered? = some r ∨ r ∈ q.records := by
  rcases mem_records_perform hr with hoffered | ⟨s, hs, rfl | rfl⟩
  · exact .inl hoffered
  · exact .inr hs
  · exact absurd hidle (by simp)

/-- An operation that offers nothing puts nothing in. -/
theorem enqueued_perform_of_offered?_eq_none (q : Queue) (ho : op.offered? = none) :
    (q.perform op).2.counters.enqueued = q.counters.enqueued := by
  have hcancel (wanted : Record → Bool) (dryRun : Bool) :
      (q.cancelMatching wanted dryRun).2.counters.enqueued = q.counters.enqueued := by
    cases dryRun <;> rfl
  cases op with
  | insert r => exact absurd ho (Option.some_ne_none r)
  | enqueue r => exact absurd ho (Option.some_ne_none r)
  | cancelMatching wanted dryRun => exact hcancel wanted dryRun
  | cancelSuperseded activityId source =>
      simp only [perform, cancelSuperseded]
      split
      · rfl
      · exact hcancel _ false
  | _ => rfl

/-- **One operation.** An operation puts a record in, which is counted, or nothing is idle after it
that was not there before. -/
theorem enqueued_perform (q : Queue) (op : QueueOp) :
    (q.perform op).2.counters.enqueued = q.counters.enqueued + 1 ∨
    ((q.perform op).2.counters.enqueued = q.counters.enqueued ∧
      ∀ r ∈ (q.perform op).2.records, r.processing = false → r ∈ q.records) := by
  cases ho : op.offered? with
  | none =>
      refine .inr ⟨q.enqueued_perform_of_offered?_eq_none ho, fun r hr hidle => ?_⟩
      refine (offered_or_mem_of_idle hr hidle).resolve_left fun hoffered => ?_
      rw [ho] at hoffered
      exact absurd hoffered.symm (Option.some_ne_none r)
  | some new =>
      cases op with
      | insert new =>
          by_cases hid : new.id ∈ q.ids
          · have hsame : (q.perform (.insert new)).2 = q := by
              simp only [perform, insert_of_mem hid]
            rw [hsame]
            exact .inr ⟨rfl, fun r hr _ => hr⟩
          · simp only [perform, insert_of_notMem hid]
            exact .inl rfl
      | enqueue new =>
          simp only [perform]
          rcases q.enqueue_cases new with ⟨-, -, he⟩ | ⟨-, he⟩ | ⟨-, -, he⟩
          · rw [he]
            exact .inr ⟨rfl, fun r hr _ => hr⟩
          · rw [he]
            exact .inr ⟨rfl, fun r hr _ => List.mem_of_mem_filter hr⟩
          · rw [he]
            exact .inl rfl
      | _ => exact absurd ho.symm (Option.some_ne_none new)

/-- The number of records that were put in never falls. -/
theorem enqueued_le_run (q : Queue) (ops : List QueueOp) :
    q.counters.enqueued ≤ (q.run ops).counters.enqueued := by
  induction ops generalizing q with
  | nil => exact Nat.le_refl _
  | cons op ops ih =>
      have hrest := ih (q.perform op).2
      have hfirst := q.enqueued_perform op
      replace hrest : (q.perform op).2.counters.enqueued ≤ (q.run (op :: ops)).counters.enqueued :=
        hrest
      omega

/-- **A run.** A queue in which nothing is due stays so until a record is put in. -/
theorem Rested.run (h : q.Rested time)
    (hcount : (q.run ops).counters.enqueued = q.counters.enqueued) : (q.run ops).Rested time := by
  induction ops generalizing q with
  | nil => exact h
  | cons op ops ih =>
      replace hcount : ((q.perform op).2.run ops).counters.enqueued = q.counters.enqueued := hcount
      have hrest := (q.perform op).2.enqueued_le_run ops
      rcases q.enqueued_perform op with hmore | ⟨hsame, hidle⟩
      · omega
      · have hfirst : (q.perform op).2.Rested time := fun r hr hawaits =>
          h r (hidle r hr hawaits.1) hawaits
        exact ih hfirst (hcount.trans hsame.symm)

/-! ### A claim -/

/-- What a claim hands out, and the queue that it leaves. -/
structure FirstInFirstOut (q : Queue) (now : Instant) (claimed : List Record) (after : Queue) :
    Prop where
  /-- Claimed are the records that are idle and whose delay has passed, each of them once and as
  taken, -/
  perm : claimed.Perm ((q.records.filter fun r => r.Awaits now).map Record.taken)
  /-- by the time at which they were queued, -/
  sorted : claimed.Pairwise fun a b => a.queuedAt ≤ b.queuedAt
  /-- and those queued at one time in the order of the queue. -/
  ties : ∀ time, claimed.filter (·.queuedAt = time) =
    (q.records.filter fun r => r.Awaits now ∧ r.queuedAt = time).map Record.taken
  /-- The queue has the same records in the same order, but for the marks of the claimed ones. -/
  records : List.Forall₂ (fun old new => new = if old.Awaits now then old.taken else old)
    q.records after.records
  counters : after.counters = q.counters
  name : after.name = q.name

/-- What a claim marks, record by record. -/
theorem marked_eq (now : Instant) (r : Record) :
    marked now r = if r.Awaits now then r.taken else r := by
  by_cases hawaits : r.Awaits now
  · rw [marked, if_pos (isWanted_iff_awaits.mpr hawaits), if_pos hawaits]
    rfl
  · rw [marked, if_neg (mt isWanted_iff_awaits.mp hawaits), if_neg hawaits]

/-- What was queued at one time is handed out as it stands in the queue. -/
theorem filter_claimDue_eq (q : Queue) (now time : Instant) :
    (q.claimDue now).1.filter (·.queuedAt = time) =
      (q.records.filter fun r => r.Awaits now ∧ r.queuedAt = time).map Record.taken := by
  rw [filter_claimDue, wanted_eq, List.filter_map, List.filter_filter]
  refine congrArg (List.map Record.taken) (List.filter_congr fun r _ => ?_)
  rw [Bool.decide_and, Bool.and_comm]
  rfl

/-- **First in, first out.** In any state of a queue and at any time a claim hands out the records
that are idle and due, each once and by the time at which it was queued, ties in the order of the
queue. Of the queue it changes nothing but their marks. A further claim at that time or an earlier
one hands out nothing, after any operations that have put in no record. -/
theorem claimDue_firstInFirstOut (q : Queue) (now : Instant) :
    FirstInFirstOut q now (q.claimDue now).1 (q.claimDue now).2 ∧
    ∀ (ops : List QueueOp) (earlier : Instant), earlier ≤ now →
      ((q.claimDue now).2.run ops).counters.enqueued = q.counters.enqueued →
        (((q.claimDue now).2.run ops).claimDue earlier).1 = [] := by
  refine ⟨?_, fun ops earlier hle hcount => ?_⟩
  · exact {
      perm := q.wanted_eq now ▸ q.claimDue_perm now
      sorted := q.pairwise_claimDue now
      ties := q.filter_claimDue_eq now
      records := by
        rw [records_claimDue, List.forall₂_map_right_iff, List.forall₂_same]
        exact fun r _ => marked_eq now r
      counters := rfl
      name := rfl
    }
  · have hrested : ((q.claimDue now).2.run ops).Rested now :=
      (q.rested_claimDue now).run hcount
    exact claimDue_eq_nil_iff.mpr (hrested.of_le hle)

/-- Records that were put in with the latest time first. Two are of one time, one is not due for an
hour, and one is processing. -/
def latestFirst : Queue :=
  let r (n : BitVec 128) (queuedAt : Instant) (delay : Span) : Record :=
    .plain ⟨n⟩ (.submission "a" "s") .dispatch delay queuedAt
  (new "q").run [
    .insert (r 1 ⟨7 * nanosPerSecond, by decide, by decide⟩ .zero),
    .insert (r 2 ⟨5 * nanosPerSecond, by decide, by decide⟩ .zero),
    .insert (r 3 .epoch (.ofSeconds 3600)),
    .insert { r 4 .epoch .zero with processing := true },
    .insert (r 5 ⟨5 * nanosPerSecond, by decide, by decide⟩ (.ofSeconds 7)),
    .insert (r 6 .epoch (.ofSeconds 12))]

/-- Twelve seconds after 1970 began. -/
def twelveSeconds : Instant := ⟨12 * nanosPerSecond, by decide, by decide⟩

/-- A record leaves the queue, and one that is offered is skipped. -/
def noInsertion : List QueueOp :=
  [
    .complete ⟨6⟩,
    .enqueue { Record.plain ⟨7⟩ (.submission "a" "s") .dispatch .zero .epoch with
      onExisting := .skip }
  ]

/-- All four that are due are claimed, the last of the queue first, and then nothing is. -/
theorem claimDue_firstInFirstOut_latestFirst :
    FirstInFirstOut latestFirst twelveSeconds (latestFirst.claimDue twelveSeconds).1
      (latestFirst.claimDue twelveSeconds).2 ∧
    (latestFirst.claimDue twelveSeconds).1.map (·.id) = [⟨6⟩, ⟨2⟩, ⟨5⟩, ⟨1⟩] ∧
    (latestFirst.claimDue twelveSeconds).2.ids = [⟨1⟩, ⟨2⟩, ⟨3⟩, ⟨4⟩, ⟨5⟩, ⟨6⟩] ∧
    ((latestFirst.claimDue twelveSeconds).2.run noInsertion).counters.skipped = 1 ∧
    (((latestFirst.claimDue twelveSeconds).2.run noInsertion).claimDue twelveSeconds).1 = [] := by
  obtain ⟨hclaim, hagain⟩ := claimDue_firstInFirstOut latestFirst twelveSeconds
  have hcount : ((latestFirst.claimDue twelveSeconds).2.run noInsertion).counters.enqueued =
      latestFirst.counters.enqueued := by decide +kernel
  have hclaimed : (latestFirst.claimDue twelveSeconds).1.map (·.id) = [⟨6⟩, ⟨2⟩, ⟨5⟩, ⟨1⟩] := by
    rw [claimDue_eq_foldr]
    rfl
  refine ⟨hclaim, hclaimed, by decide +kernel, by decide +kernel, ?_⟩
  exact hagain noInsertion twelveSeconds (Int.le_refl _) hcount

end Queue

end Deferral

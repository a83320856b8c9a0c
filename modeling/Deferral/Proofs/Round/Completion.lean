import Deferral.Proofs.Queue.Frame
import Deferral.Proofs.Round.Account

/-!
# Completed rounds

A round whose tick is over has run what was due when it began, each record once and in order, and it
has taken exactly these records out of the queue. The other clients of the queue have not noticed:
the queue is the one that they would have left if the claimed records had gone at once.

## Main results

* `Released.step` — no finished record is in the queue, and no claimed one is idle;
* `completed_of_isOver` — what a round has done when its tick is over.
-/

namespace Deferral

namespace Round

variable {scripts : RecordId → Script} {now : Instant} {tickInterval : Span} {maxConcurrent : Nat}
  {claimed : List Record} {r : Round} {q : Queue} {event : RoundEvent} {events : List RoundEvent}

/-- Other clients offer nothing under the id of a claimed record. -/
def Apart (claimed : List Record) (events : List RoundEvent) : Prop :=
  ∀ s ∈ QueueOp.offers (events.filterMap RoundEvent.op?), s.id ∉ claimed.map (·.id)

/-! ### The queue of a round -/

/-- No claimed record is idle in the queue of a round, and none that has finished is in it. -/
structure Released (claimed : List Record) (r : Round) : Prop where
  nodup : r.queue.ids.Nodup
  settled : ∀ id ∈ claimed.map (·.id), r.queue.Settled id
  gone : ∀ s ∈ r.finished, s.id ∉ r.queue.ids

/-- When a tick begins, its records are in processing. -/
theorem released_begin (now : Instant) (tickInterval : Span) (maxConcurrent : Nat)
    (hn : q.ids.Nodup) :
    Released (q.claimDue now).1 (begin now tickInterval maxConcurrent q) :=
  ⟨(q.ids_claimDue now).symm ▸ hn, fun _ hid => Queue.settled_of_mem_claimDue hn hid,
    fun _ hs => nomatch hs⟩

/-- A turn leaves the queue alone, or a record that had not finished leaves it. -/
theorem queue_turn (scripts : RecordId → Script) (r : Round) (pace : Pace) :
    ((r.turn scripts pace).queue = r.queue ∧ (r.turn scripts pace).finished = r.finished) ∨
    ∃ e ∈ r.tick.unfinished, (r.turn scripts pace).queue = (r.queue.complete e.record.id).2 ∧
      (r.turn scripts pace).finished = r.finished ++ [e.record] := by
  cases hrunning : r.tick.running with
  | nil => exact .inl (by rw [turn_of_nil hrunning]; exact ⟨rfl, rfl⟩)
  | cons e others =>
      have hmem : e ∈ r.tick.unfinished := unfinished_of_running hrunning ▸ List.mem_cons_self
      have hqueue := Tick.queue_endTurn hrunning
        (e.turn (scripts e.record.id) pace).ending r.queue
      rw [turn_eq hrunning]
      cases hfinal : (e.turn (scripts e.record.id) pace).ending.isFinal with
      | true =>
          rw [if_pos hfinal] at hqueue
          exact .inr ⟨e, hmem, hqueue, if_pos hfinal⟩
      | false =>
          rw [hfinal, if_neg Bool.false_ne_true] at hqueue
          exact .inl ⟨hqueue, if_neg (Bool.not_eq_true _ ▸ hfinal)⟩

/-- Whoever has not finished was claimed. -/
theorem Account.mem_claimed (h : Account scripts now tickInterval claimed r) {e : Execution}
    (he : e ∈ r.tick.unfinished) : e.record.id ∈ claimed.map (·.id) :=
  List.mem_map_of_mem (h.all.subset (List.mem_append_right _ (List.mem_map_of_mem he)))

/-- Whoever has finished was claimed. -/
theorem Account.mem_claimed_of_finished (h : Account scripts now tickInterval claimed r)
    {s : Record} (hs : s ∈ r.finished) : s.id ∈ claimed.map (·.id) :=
  List.mem_map_of_mem (h.all.subset (List.mem_append_left _ hs))

/-- After a turn, no claimed record is idle and none that has finished is left. -/
theorem Released.turn (h : Released claimed r) (pace : Pace) :
    Released claimed (r.turn scripts pace) := by
  rcases queue_turn scripts r pace with ⟨hqueue, hfinished⟩ | ⟨e, -, hqueue, hfinished⟩
  · exact ⟨hqueue ▸ h.nodup, hqueue ▸ h.settled, hqueue ▸ hfinished ▸ h.gone⟩
  · have hsub : ((r.queue.complete e.record.id).2.ids).Sublist r.queue.ids :=
      Queue.ids_complete r.queue _ ▸ List.erase_sublist
    refine ⟨hqueue ▸ h.nodup.sublist hsub, fun id hid => ?_, fun s hs => ?_⟩
    · rw [hqueue]
      exact (h.settled id hid).complete e.record.id
    · rw [hfinished, List.mem_append, List.mem_singleton] at hs
      rw [hqueue]
      rcases hs with hs | rfl
      · exact fun hid => h.gone s hs (hsub.subset hid)
      · exact Queue.notMem_ids_complete h.nodup _

/-- The same is true after an operation of a client that offers nothing under their ids. -/
theorem Released.client (h : Released claimed r)
    (ha : Account scripts now tickInterval claimed r) {op : QueueOp}
    (hop : ∀ s, op.offered? = some s → s.id ∉ claimed.map (·.id)) :
    Released claimed (r.step scripts (.client op)) := by
  refine ⟨Queue.nodup_ids_perform h.nodup op, fun id hid => ?_, fun s hs hid => ?_⟩
  · exact (h.settled id hid).perform fun s hs heq => hop s hs (heq ▸ hid)
  · rcases r.queue.ids_perform op with hsub | ⟨new, kept, ho, hsub, -, heq⟩
    · exact h.gone s hs (hsub.subset hid)
    · replace hid : s.id ∈ kept ++ [new.id] := heq ▸ hid
      rw [List.mem_append, List.mem_singleton] at hid
      rcases hid with hid | hid
      · exact h.gone s hs (hsub.subset hid)
      · exact hop new ho (hid ▸ ha.mem_claimed_of_finished hs)

/-- **One event.** Claimed records stay out of the way, and those that have finished stay out of the
queue. -/
theorem Released.step (h : Released claimed r) (ha : Account scripts now tickInterval claimed r)
    (hapart : Apart claimed [event]) : Released claimed (r.step scripts event) := by
  cases event with
  | client op =>
      exact h.client ha fun s hs =>
        hapart s (List.mem_filterMap.mpr ⟨op, List.mem_singleton_self _, hs⟩)
  | turn pace => exact h.turn pace

/-- The other records are what the other clients make of them. -/
theorem without_step (h : Released claimed r) (ha : Account scripts now tickInterval claimed r)
    (hapart : Apart claimed [event]) :
    (r.step scripts event).queue.without (claimed.map (·.id)) =
      (r.queue.without (claimed.map (·.id))).run event.op?.toList := by
  cases event with
  | client op =>
      exact Queue.without_perform h.settled fun s hs =>
        hapart s (List.mem_filterMap.mpr ⟨op, List.mem_singleton_self _, hs⟩)
  | turn pace =>
      rcases queue_turn scripts r pace with ⟨hqueue, -⟩ | ⟨e, he, hqueue, -⟩
      · exact congrArg (Queue.without · _) hqueue
      · exact (congrArg (Queue.without · _) hqueue).trans
          (Queue.without_complete (ha.mem_claimed he) r.queue)

/-- Events are apart from a claim if the first is and the others are. -/
theorem apart_cons :
    Apart claimed (event :: events) ↔ Apart claimed [event] ∧ Apart claimed events := by
  have hsplit : QueueOp.offers ((event :: events).filterMap RoundEvent.op?) =
      QueueOp.offers ([event].filterMap RoundEvent.op?) ++
        QueueOp.offers (events.filterMap RoundEvent.op?) := by
    rw [QueueOp.offers, QueueOp.offers, QueueOp.offers, ← List.filterMap_append,
      ← List.filterMap_append, List.singleton_append]
  rw [Apart, hsplit, List.forall_mem_append]
  rfl

/-- A whole round keeps the claimed records out of the way, and the other records are what the other
clients make of them. -/
theorem Released.run (h : Released claimed r) (ha : Account scripts now tickInterval claimed r)
    (hapart : Apart claimed events) :
    Released claimed (r.run scripts events) ∧
      (r.run scripts events).queue.without (claimed.map (·.id)) =
        (r.queue.without (claimed.map (·.id))).run (events.filterMap RoundEvent.op?) := by
  induction events generalizing r with
  | nil => exact ⟨h, rfl⟩
  | cons event events ih =>
      obtain ⟨hfirst, hrest⟩ := apart_cons.mp hapart
      obtain ⟨hreleased, hqueue⟩ := ih (h.step ha hfirst) (ha.step event) hrest
      refine ⟨hreleased, hqueue.trans ?_⟩
      rw [without_step h ha hfirst]
      cases event <;> rfl

/-! ### The end -/

/-- What a round has done when its tick is over, told from the queue with which it began, how the
calls for its records ended, and what the other clients did meanwhile. -/
structure Completed (scripts : RecordId → Script) (now : Instant) (tickInterval : Span) (q : Queue)
    (ops : List QueueOp) (final : Round) : Prop where
  /-- The claimed records are those that were idle and whose delay had passed, -/
  claimed : ∀ r, r ∈ (q.claimDue now).1 ↔
    ∃ s ∈ q.records, s.processing = false ∧ s.queuedAt.nanos + s.delay.nanos ≤ now.nanos ∧
      r = { s with processing := true }
  /-- each of them once, -/
  nodup : ((q.claimDue now).1.map (·.id)).Nodup
  /-- by the time at which they were queued, -/
  sorted : (q.claimDue now).1.Pairwise fun a b => a.queuedAt ≤ b.queuedAt
  /-- and those queued at one time in the order of the queue. -/
  ties : ∀ time, (q.claimDue now).1.filter (·.queuedAt = time) =
    (q.wanted now).filter (·.queuedAt = time)
  /-- They were started in this order. -/
  started : final.started = (q.claimDue now).1.map (·.id)
  /-- Of the calls of the checks there was one for each claimed record that leads to one, -/
  checks : final.checks.Perm ((q.claimDue now).1.filterMap fun s =>
    (Execution.new now tickInterval s).check? (scripts s.id))
  /-- which are those with an activity. -/
  checked : ∀ s ∈ (q.claimDue now).1,
    ((Execution.new now tickInterval s).check? (scripts s.id)).isSome = true ↔
      s.dryRun = some true ∨ ∃ a, (scripts s.id).fetch = .returned a
  /-- The report counts the claimed records, those that succeeded and failed, and the tardy ones; -/
  report : final.tick.report =
    ⟨(q.claimDue now).1.length, (q.claimDue now).1.countP (succeedsOf scripts now tickInterval),
      (q.claimDue now).1.countP (fun s => !succeedsOf scripts now tickInterval s),
      (q.claimDue now).1.countP (·.isTardy now tickInterval)⟩
  /-- whoever did not succeed failed. -/
  accounted : final.tick.report.executed + final.tick.report.failed = final.tick.report.due
  /-- No claimed record is left in the queue, -/
  gone : ∀ s ∈ (q.claimDue now).1, s.id ∉ final.queue.ids
  /-- in which everything else is where the other clients left it, -/
  left : final.queue = ((q.claimDue now).2.run ops).without ((q.claimDue now).1.map (·.id))
  /-- as it would be if only the records that were not claimed had been there. -/
  others : final.queue = (q.without ((q.claimDue now).1.map (·.id))).run ops

/-- When a tick is over, its records have all finished. -/
theorem Account.finished_perm (h : Account scripts now tickInterval claimed r)
    (hover : r.tick.isOver = true) : r.finished.Perm claimed := by
  have hnone : r.tick.unfinished = [] := List.isEmpty_iff.mp hover
  have hall := h.all
  rwa [hnone, List.map_nil, List.append_nil] at hall

/-- When a tick is over, each of its records has had its first turn. -/
theorem Account.started_eq (h : Account scripts now tickInterval claimed r)
    (hover : r.tick.isOver = true) : r.started = claimed.map (·.id) := by
  have hnone : r.tick.unfinished = [] := List.isEmpty_iff.mp hover
  rw [Tick.unfinished, List.append_eq_nil_iff, List.append_eq_nil_iff] at hnone
  have horder := h.order
  rwa [Tick.unstarted, hnone.1.1, hnone.2, List.filter_nil, List.append_nil, List.map_nil,
    List.append_nil] at horder

/-- When a tick is over, all calls for its records have been made. -/
theorem Account.checks_perm (h : Account scripts now tickInterval claimed r)
    (hover : r.tick.isOver = true) :
    r.checks.Perm (claimed.filterMap fun s =>
      (Execution.new now tickInterval s).check? (scripts s.id)) := by
  have hnone : r.tick.unfinished = [] := List.isEmpty_iff.mp hover
  have hchecks := h.checks
  rw [hnone, List.flatMap_nil, List.append_nil] at hchecks
  rw [List.filterMap_eq_flatMap_toList]
  exact hchecks.trans ((h.finished_perm hover).flatMap_right _)

/-- When a tick is over, its report counts its records by what became of them. -/
theorem Account.report_eq (h : Account scripts now tickInterval claimed r)
    (hover : r.tick.isOver = true) :
    r.tick.report =
      ⟨claimed.length, claimed.countP (succeedsOf scripts now tickInterval),
        claimed.countP (fun s => !succeedsOf scripts now tickInterval s),
        claimed.countP (·.isTardy now tickInterval)⟩ := by
  have hperm := h.finished_perm hover
  rw [h.report, hperm.countP_eq, hperm.countP_eq, hperm.countP_eq]

/-- When a tick is over, each of its records has succeeded or failed. -/
theorem Account.accounted (h : Account scripts now tickInterval claimed r)
    (hover : r.tick.isOver = true) :
    r.tick.report.executed + r.tick.report.failed = r.tick.report.due := by
  have hcount : claimed.length = _ :=
    List.length_eq_countP_add_countP (succeedsOf scripts now tickInterval)
  simp only [Bool.not_eq_true, Bool.decide_eq_false] at hcount
  rw [h.report_eq hover]
  exact hcount.symm

/-- **A completed round.** Let the ids in a queue be different, and let a tick on it be over, after
any turns of its records and any operations of other clients that offer nothing under a claimed id.
Then the tick has run exactly what was due, once and in order, however the calls ended, and has
taken that and nothing else out of the queue. -/
theorem completed_of_isOver (scripts : RecordId → Script) (now : Instant) (tickInterval : Span)
    (maxConcurrent : Nat) (q : Queue) (events : List RoundEvent) (hids : q.ids.Nodup)
    (hapart : Apart (q.claimDue now).1 events)
    (hover : ((begin now tickInterval maxConcurrent q).run scripts events).tick.isOver = true) :
    Completed scripts now tickInterval q (events.filterMap RoundEvent.op?)
      ((begin now tickInterval maxConcurrent q).run scripts events) := by
  have hbegin := account_begin scripts now tickInterval maxConcurrent q
  have haccount := account_run scripts now tickInterval maxConcurrent q events
  obtain ⟨hreleased, hqueue⟩ :=
    (released_begin now tickInterval maxConcurrent hids).run hbegin hapart
  have hgone : ∀ s ∈ (q.claimDue now).1,
      s.id ∉ ((begin now tickInterval maxConcurrent q).run scripts events).queue.ids :=
    fun s hs => hreleased.gone s ((haccount.finished_perm hover).symm.subset hs)
  have hleft := Queue.without_eq_self fun id hid => by
    obtain ⟨s, hs, rfl⟩ := List.mem_map.mp hid
    exact hgone s hs
  have hsettled : ∀ id ∈ (q.claimDue now).1.map (·.id), (q.claimDue now).2.Settled id :=
    fun id hid => Queue.settled_of_mem_claimDue hids hid
  rw [hleft] at hqueue
  exact {
    claimed := fun r => Queue.mem_claimDue_iff
    nodup := Queue.nodup_ids_claimed hids now
    sorted := q.pairwise_claimDue now
    ties := q.filter_claimDue now
    started := haccount.started_eq hover
    checks := haccount.checks_perm hover
    checked := fun s _ => Execution.isSome_check?
    report := haccount.report_eq hover
    accounted := haccount.accounted hover
    gone := hgone
    left := hqueue.trans (Queue.without_run hsettled hapart).symm
    others := by
      rw [← Queue.without_claimed]
      exact hqueue
  }

/-- Three records that are due after ten seconds, of which the first was queued last, and one that
is not. -/
def threeDue : Queue :=
  let r (n : BitVec 128) (seconds : Instant) (delay : Span) : Record :=
    .plain ⟨n⟩ (.submission "a" "s") .dispatch delay seconds
  (Queue.new "q").run [
    .insert (r 1 ⟨2 * nanosPerSecond, by decide, by decide⟩ .zero), .insert (r 2 .epoch .zero),
    .insert { r 3 .epoch .zero with tolerance := .tolerant, dryRun := some true },
    .insert (r 4 .epoch (.ofSeconds 3600))]

/-- The platform fails for the second record, and the checks panic on the third. -/
def mixedCalls (id : RecordId) : Script :=
  if id = ⟨2⟩ then ⟨.failed ⟨["no answer"]⟩, .returned ()⟩
  else if id = ⟨3⟩ then ⟨.returned (.submission "a" "s"), .panicked none⟩
  else ⟨.returned (.submission "a" "s"), .returned ()⟩

/-- The three records run, two at a time, while one of them is removed, the fourth is cancelled and
a fifth comes in. -/
def mixedEvents : List RoundEvent :=
  [
    .turn .asks,
    .client (.insert (.plain ⟨5⟩ (.submission "b" "s") .dispatch .zero .epoch)),
    .turn .givesWay, .turn .finishes, .client (.remove ⟨1⟩), .turn .finishes,
    .client (.cancelMatching (fun r => r.activity.id == "a") false), .turn .finishes
  ]

/-- Ten seconds after the records were queued. -/
def mixedNow : Instant := ⟨10 * nanosPerSecond, by decide, by decide⟩

/-- The round of the three records. -/
def mixedRound : Round := (begin mixedNow (.ofSeconds 1) 2 threeDue).run mixedCalls mixedEvents

/-- One of the three records succeeds, and the fifth is left. -/
theorem completed_of_isOver_mixed :
    Completed mixedCalls mixedNow (.ofSeconds 1) threeDue (mixedEvents.filterMap RoundEvent.op?)
      mixedRound ∧
    mixedRound.started = [⟨2⟩, ⟨3⟩, ⟨1⟩] ∧ mixedRound.checks.map (·.record) = [⟨3⟩, ⟨1⟩] ∧
    mixedRound.tick.report = ⟨3, 1, 2, 2⟩ ∧ mixedRound.queue.ids = [⟨5⟩] := by
  have hids : threeDue.ids.Nodup := by decide
  have hclaimed : (threeDue.claimDue mixedNow).1.map (·.id) = [⟨2⟩, ⟨3⟩, ⟨1⟩] := by
    rw [Queue.claimDue_eq_foldr]
    rfl
  have hapart : Apart (threeDue.claimDue mixedNow).1 mixedEvents := by
    rw [Apart, hclaimed]
    decide
  obtain ⟨hover, hrest⟩ : mixedRound.tick.isOver = true ∧
      mixedRound.started = [⟨2⟩, ⟨3⟩, ⟨1⟩] ∧ mixedRound.checks.map (·.record) = [⟨3⟩, ⟨1⟩] ∧
      mixedRound.tick.report = ⟨3, 1, 2, 2⟩ ∧ mixedRound.queue.ids = [⟨5⟩] := by
    simp only [mixedRound, begin, Tick.begin, Queue.claimDue_eq_foldr]
    exact ⟨rfl, rfl, rfl, rfl, rfl⟩
  exact ⟨completed_of_isOver mixedCalls mixedNow _ 2 threeDue mixedEvents hids hapart hover, hrest⟩

end Round

end Deferral

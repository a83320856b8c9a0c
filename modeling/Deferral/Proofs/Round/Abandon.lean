import Deferral.Proofs.Round.Completion

/-!
# Abandoned rounds

A tick may be given up between any two turns: some of its records have finished by then, some run or
have stalled, and the rest wait for their first turn. Those that finished have left the queue, and
giving the tick up takes out all others that it claimed. So it does not matter how the claimed
records were divided: none of them is left, and every other record is what the other clients of the
queue have made of it.

## Main results

* `abandon_eq_without` — giving up a tick hides its unfinished records from the queue;
* `queue_abandon` — what is left of the queue of an abandoned round;
* `abandoned_run` — a round that is given up at any point leaves nothing stuck, and no later round
  runs what it claimed.
-/

namespace Deferral

namespace Queue

variable {q : Queue} {id : RecordId} {op : QueueOp} {ops : List QueueOp}

/-! ### Taking records out by their ids -/

/-- Among records with different ids there is one to be taken out at most. -/
theorem eraseP_id_eq_filter {records : List Record} (hn : (records.map (·.id)).Nodup)
    (id : RecordId) :
    records.eraseP (·.id == id) = records.filter fun r => r.id ∉ [id] := by
  induction records with
  | nil => rfl
  | cons r records ih =>
      obtain ⟨hnew, hrest⟩ := List.nodup_cons.mp hn
      by_cases hr : r.id = id
      · have hothers : (records.filter fun r => r.id ∉ [id]) = records := by
          refine List.filter_eq_self.mpr fun s hs => decide_eq_true fun hmem => ?_
          exact hnew (List.mem_map.mpr ⟨s, hs, (List.mem_singleton.mp hmem).trans hr.symm⟩)
        rw [List.filter_cons_of_neg (by simp [hr]), hothers]
        exact List.eraseP_cons_of_pos (beq_iff_eq.mpr hr)
      · rw [List.filter_cons_of_pos (by simp [hr]), ← ih hrest]
        exact List.eraseP_cons_of_neg (by simp [hr])

/-- Where ids are different, completing a record hides its id. -/
theorem complete_eq_without (hn : q.ids.Nodup) (id : RecordId) :
    (q.complete id).2 = q.without [id] := by
  simp only [complete, remove, without, eraseP_id_eq_filter hn id]

/-- Hiding in two steps hides both. -/
theorem without_without (q : Queue) (first second : List RecordId) :
    (q.without first).without second = q.without (first ++ second) := by
  simp only [without, List.filter_filter]
  congr 1
  refine List.filter_congr fun r _ => ?_
  rw [Bool.eq_iff_iff]
  simp [and_comm]

/-- Ids that are seen stay different. -/
theorem nodup_ids_without (hn : q.ids.Nodup) (hidden : List RecordId) :
    (q.without hidden).ids.Nodup :=
  hn.sublist (List.filter_sublist.map _)

/-- What is hidden does not matter but for the ids in the queue. -/
theorem without_congr {first second : List RecordId}
    (h : ∀ id ∈ q.ids, id ∈ first ↔ id ∈ second) : q.without first = q.without second := by
  have hrecords : (q.records.filter fun r => r.id ∉ first) =
      q.records.filter fun r => r.id ∉ second := by
    refine List.filter_congr fun r hr => ?_
    rw [decide_eq_decide, h r.id (mem_ids.mpr ⟨r, hr, rfl⟩)]
  rw [without, hrecords]
  rfl

/-! ### Idle queues -/

/-- No record of the queue is processing. -/
def AllIdle (q : Queue) : Prop := ∀ r ∈ q.records, r.processing = false

/-- Operations that claim nothing and offer idle records leave all records idle. -/
theorem AllIdle.run (h : q.AllIdle) (hoffers : ∀ r ∈ QueueOp.offers ops, r.processing = false)
    (hclaims : ∀ op ∈ ops, ∀ now, op ≠ .claimDue now) : (q.run ops).AllIdle := by
  induction ops generalizing q with
  | nil => exact h
  | cons op ops ih =>
      rw [offers_cons] at hoffers
      have hfirst : (q.perform op).2.AllIdle := by
        intro r hr
        rcases offered_or_mem_of_not_claim (hclaims op List.mem_cons_self) hr with ho | hold
        · exact hoffers r (List.mem_append_left _ (by simp [ho]))
        · exact h r hold
      exact ih hfirst (fun r hr => hoffers r (List.mem_append_right _ hr))
        fun o ho => hclaims o (List.mem_cons_of_mem _ ho)

/-- An id that no operation offers stays settled. -/
theorem Settled.run (h : q.Settled id) (hops : ∀ r ∈ QueueOp.offers ops, r.id ≠ id) :
    (q.run ops).Settled id := by
  induction ops generalizing q with
  | nil => exact h
  | cons op ops ih =>
      rw [offers_cons] at hops
      have hfirst : (q.perform op).2.Settled id := by
        refine h.perform fun r hr => hops r (List.mem_append_left _ ?_)
        exact Option.mem_toList.mpr hr
      exact ih hfirst fun r hr => hops r (List.mem_append_right _ hr)

end Queue

/-! ### Giving up a tick -/

/-- Giving up a tick completes its unfinished records, one after another. -/
theorem Tick.abandon_eq_foldl (t : Tick) (q : Queue) :
    (t.abandon q).2 = t.unfinished.foldl (fun q e => (q.complete e.record.id).2) q :=
  (List.foldl_hom Prod.snd fun _ _ => rfl).symm

/-- A tick that is given up takes out all records that it has not finished, and nothing else. -/
theorem Tick.abandon_eq_without (t : Tick) {q : Queue} (hn : q.ids.Nodup) :
    (t.abandon q).2 = q.without (t.unfinished.map (·.record.id)) := by
  rw [abandon_eq_foldl]
  generalize t.unfinished = es
  induction es generalizing q with
  | nil => exact (Queue.without_eq_self fun _ hid => absurd hid List.not_mem_nil).symm
  | cons e es ih =>
      have hrest := ih (Queue.nodup_ids_without hn [e.record.id])
      rw [List.foldl_cons, Queue.complete_eq_without hn, hrest, Queue.without_without]
      rfl

namespace Round

variable {scripts : RecordId → Script} {now : Instant} {tickInterval : Span} {maxConcurrent : Nat}
  {claimed : List Record} {r : Round} {q : Queue} {events : List RoundEvent}

/-- What has finished is gone, and what has not is taken out: together that is the whole claim. -/
theorem queue_abandon (h : Released claimed r) (ha : Account scripts now tickInterval claimed r) :
    (r.tick.abandon r.queue).2 = r.queue.without (claimed.map (·.id)) := by
  rw [r.tick.abandon_eq_without h.nodup]
  refine Queue.without_congr fun id hid => ?_
  have hall := (ha.all.map (·.id)).mem_iff (a := id)
  rw [List.map_append, List.map_map, List.mem_append] at hall
  constructor
  · exact fun hunfinished => hall.mp (.inr hunfinished)
  · intro hclaimed
    refine (hall.mpr hclaimed).resolve_left fun hfinished => ?_
    obtain ⟨s, hs, rfl⟩ := List.mem_map.mp hfinished
    exact h.gone s hs hid

/-- A round starts only records that its tick has claimed. -/
theorem mem_claimed_of_mem_started (scripts : RecordId → Script) (now : Instant)
    (tickInterval : Span) (maxConcurrent : Nat) (q : Queue) (events : List RoundEvent)
    {id : RecordId}
    (h : id ∈ ((begin now tickInterval maxConcurrent q).run scripts events).started) :
    id ∈ (q.claimDue now).1.map (·.id) := by
  rw [← (account_run scripts now tickInterval maxConcurrent q events).order]
  exact List.mem_append_left _ h

/-- A round never starts a record under an id that is settled when its tick claims. -/
theorem notMem_started_of_settled {id : RecordId} (h : q.Settled id) :
    id ∉ ((begin now tickInterval maxConcurrent q).run scripts events).started := by
  intro hmem
  have hclaimed : id ∈ (q.exchange (.claimDue now)).claimed :=
    mem_claimed_of_mem_started scripts now tickInterval maxConcurrent q events hmem
  exact h.notMem_claimed hclaimed

/-- The other clients claim nothing meanwhile, and what they offer is idle and under ids that were
not claimed. -/
structure Beside (claimed : List Record) (events : List RoundEvent) : Prop where
  apart : Apart claimed events
  idle : ∀ s ∈ QueueOp.offers (events.filterMap RoundEvent.op?), s.processing = false
  claims : ∀ op ∈ events.filterMap RoundEvent.op?, ∀ now, op ≠ .claimDue now

/-- What is left of the queue when a round has been given up, told from the queue with which it
began and from what the other clients did meanwhile. -/
structure Abandoned (q : Queue) (now : Instant) (ops : List QueueOp) (left : Queue) : Prop where
  /-- No record is processing. -/
  idle : ∀ s ∈ left.records, s.processing = false
  /-- No claimed record is left, whether it was started or not. -/
  gone : ∀ s ∈ (q.claimDue now).1, s.id ∉ left.ids
  /-- The queue is what the other clients would have made of the records that were not claimed. -/
  others : left = (q.without ((q.claimDue now).1.map (·.id))).run ops
  /-- No later round runs a claimed record, whatever is done before it, unless a record has been
  offered again under its id. -/
  later : ∀ (ops' : List QueueOp) (scripts' : RecordId → Script) (now' : Instant)
    (tickInterval' : Span) (maxConcurrent' : Nat) (events' : List RoundEvent),
    ∀ id ∈ ((begin now' tickInterval' maxConcurrent' (left.run ops')).run scripts' events').started,
      id ∈ (q.claimDue now).1.map (·.id) → ∃ o ∈ QueueOp.offers ops', o.id = id

/-- **An abandoned round.** Let the ids in a queue be different and no record be processing, and let
a tick on it be given up at any point. Then no record is stuck: those that it claimed are gone,
however far they had come, nothing else was touched, and no later tick runs what it claimed. -/
theorem abandoned_run (scripts : RecordId → Script) (now : Instant) (tickInterval : Span)
    (maxConcurrent : Nat) (q : Queue) (events : List RoundEvent) (hids : q.ids.Nodup)
    (hidle : q.AllIdle) (hbeside : Beside (q.claimDue now).1 events) :
    let r := (begin now tickInterval maxConcurrent q).run scripts events
    Abandoned q now (events.filterMap RoundEvent.op?) (r.tick.abandon r.queue).2 := by
  intro r
  have haccount : Account scripts now tickInterval (q.claimDue now).1 r :=
    account_run scripts now tickInterval maxConcurrent q events
  have hbegin := account_begin scripts now tickInterval maxConcurrent q
  obtain ⟨hreleased, hqueue⟩ :=
    (released_begin now tickInterval maxConcurrent hids).run hbegin hbeside.apart
  have hwithout : (begin now tickInterval maxConcurrent q).queue.without
      ((q.claimDue now).1.map (·.id)) = q.without ((q.claimDue now).1.map (·.id)) :=
    q.without_claimed now
  rw [hwithout] at hqueue
  have hleft : (r.tick.abandon r.queue).2 = r.queue.without ((q.claimDue now).1.map (·.id)) :=
    queue_abandon hreleased haccount
  have hgone : ∀ id ∈ (q.claimDue now).1.map (·.id), id ∉ (r.tick.abandon r.queue).2.ids := by
    intro id hid hmem
    rw [hleft] at hmem
    exact (Queue.mem_ids_without.mp hmem).2 hid
  refine ⟨?_, ?_, hleft.trans hqueue, ?_⟩
  · rw [hleft, hqueue]
    have hrest : (q.without ((q.claimDue now).1.map (·.id))).AllIdle := fun s hs =>
      hidle s (List.mem_of_mem_filter hs)
    exact hrest.run hbeside.idle hbeside.claims
  · exact fun s hs => hgone s.id (List.mem_map_of_mem hs)
  · intro ops' scripts' now' tickInterval' maxConcurrent' events' id hstarted hclaimed
    by_contra hoffered
    have hsettled : (r.tick.abandon r.queue).2.Settled id :=
      Queue.settled_of_notMem (hgone id hclaimed)
    have hstill : ((r.tick.abandon r.queue).2.run ops').Settled id :=
      hsettled.run fun o ho heq => hoffered ⟨o, ho, heq⟩
    exact notMem_started_of_settled hstill hstarted

/-- Four records that are due and one that is not. -/
def fourDue : Queue :=
  let r (n : BitVec 128) (delay : Span) : Record :=
    .plain ⟨n⟩ (.submission "a" "s") .dispatch delay .epoch
  (Queue.new "q").run [
    .insert (r 1 .zero), .insert (r 2 .zero), .insert (r 3 .zero), .insert (r 4 .zero),
    .insert (r 5 (.ofSeconds 3600))]

/-- The platform answers for every record. -/
def allAnswered (_ : RecordId) : Script := ⟨.returned (.submission "a" "s"), .returned ()⟩

/-- Two at a time, the first of the four finishes, the second stalls and the third asks for its
activity, while another record comes in. -/
def firstTurns : List RoundEvent :=
  [
    .turn .finishes, .turn .stalls,
    .client (.insert (.plain ⟨6⟩ (.submission "b" "s") .dispatch .zero .epoch)), .turn .asks
  ]

/-- The round of the four records, up to the point at which it is given up. -/
def cutRound : Round := (begin .epoch (.ofSeconds 1) 2 fourDue).run allAnswered firstTurns

/-- When it is given up one record has finished, one runs, one has stalled and one waits. The two
that were not claimed are left. -/
theorem abandoned_run_divided :
    Abandoned fourDue .epoch (firstTurns.filterMap RoundEvent.op?)
      (cutRound.tick.abandon cutRound.queue).2 ∧
    cutRound.finished.map (·.id) = [⟨1⟩] ∧ cutRound.tick.running.map (·.record.id) = [⟨3⟩] ∧
    cutRound.tick.stalled.map (·.record.id) = [⟨2⟩] ∧
    cutRound.tick.waiting.map (·.record.id) = [⟨4⟩] ∧
    (cutRound.tick.abandon cutRound.queue).2.ids = [⟨5⟩, ⟨6⟩] := by
  have hids : fourDue.ids.Nodup := by decide
  have hidle : fourDue.AllIdle := by
    rw [Queue.AllIdle]
    decide
  have hclaimed : (fourDue.claimDue .epoch).1.map (·.id) = [⟨1⟩, ⟨2⟩, ⟨3⟩, ⟨4⟩] := by
    rw [Queue.claimDue_eq_foldr]
    rfl
  have hbeside : Beside (fourDue.claimDue .epoch).1 firstTurns := by
    refine ⟨?_, by decide, ?_⟩
    · rw [Apart, hclaimed]
      decide
    · simp [firstTurns, RoundEvent.op?]
  refine ⟨abandoned_run allAnswered .epoch (.ofSeconds 1) 2 fourDue firstTurns hids hidle hbeside,
    ?_⟩
  simp only [cutRound, begin, Tick.begin, Queue.claimDue_eq_foldr]
  exact ⟨rfl, rfl, rfl, rfl, rfl⟩

end Round

end Deferral

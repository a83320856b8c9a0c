import Deferral.Proofs.Queue.Offers
import Deferral.Proofs.Queue.Selection
import Deferral.Proofs.Round.Abandon

/-!
# What a round takes out

A tick knows the records that it has claimed by their ids. When one of them finishes, the record
that is queued under its id is taken out. While a record runs, other clients may remove it from the
queue, and then its id is free: a record that they put in under it is taken out in its place, though
no tick has claimed it. This is the only way in which a tick takes out what is not its own, and in
which a record that waits is lost without a client having taken it.

## Main results

* `mem_perform_of_not_takes` — what an operation of a client leaves alone;
* `queue_turn_eq` — what a turn takes out;
* `taken_or_offered` — how another record comes to stand under the id of a claimed one;
* `sparesOthers_iff` — exactly when a tick takes out nothing but its own.
-/

namespace Deferral

/-- An operation claims a record, cancels it, replaces it or removes it. -/
def QueueOp.Takes (op : QueueOp) (s : Record) : Prop :=
  match op with
  | .insert _ => False
  | .enqueue new => new.Displaces s
  | .claimDue now => s.Awaits now
  | .complete id | .remove id => s.id = id
  | .cancelMatching wanted dryRun => dryRun = false ∧ s.processing = false ∧ wanted s = true
  | .cancelSuperseded activityId source =>
      source.isDispatch = false ∧ s.processing = false ∧ s.activity.id = activityId ∧
        s.cancelRule.applies source = true
  | .clear => True

namespace Queue

variable {q : Queue} {s : Record} {op : QueueOp} {id : RecordId}

/-- Nothing but the record itself is queued under its id. -/
def Sole (q : Queue) (c : Record) : Prop := ∀ s ∈ q.records, s.id = c.id → s = c

/-- Completing a record takes it out and no other. -/
theorem mem_complete_iff (hn : q.ids.Nodup) :
    s ∈ (q.complete id).2.records ↔ s ∈ q.records ∧ s.id ≠ id := by
  rw [complete_eq_without hn, without, List.mem_filter, decide_eq_true_iff, List.mem_singleton]

/-- Idle records that are not wanted stay. -/
theorem mem_withoutIdle {wanted : Record → Bool} (hs : s ∈ q.records)
    (hw : s.processing = false → ¬ wanted s = true) : s ∈ (q.withoutIdle wanted).records := by
  refine List.mem_filter.mpr ⟨hs, ?_⟩
  rw [Bool.not_eq_true', Record.isIdle]
  cases hp : s.processing with
  | true => rfl
  | false => exact Bool.not_eq_true _ ▸ hw hp

/-- Room for a new record is made by taking out what it displaces. -/
theorem mem_madeRoom (hn : q.ids.Nodup) {new : Record} (hs : s ∈ q.records)
    (h : ¬ new.Displaces s) : s ∈ (q.madeRoom new).records := by
  refine mem_withoutIdle hs fun hidle hreplaces => h ?_
  have hpolicy : new.onExisting = .replace := by
    rw [replaces, Bool.and_eq_true, beq_iff_eq] at hreplaces
    exact hreplaces.1
  have htaken : (s.isIdle && q.replaces new s) = true := by
    rw [Record.isIdle, hidle, hreplaces]
    rfl
  exact ⟨hpolicy, (mem_like_iff hn hs).mp ((replaces_iff hn hpolicy hs).mp htaken)⟩

/-- **One operation of a client.** What it does not take stays as it is. -/
theorem mem_perform_of_not_takes (hn : q.ids.Nodup) (hs : s ∈ q.records) (h : ¬ op.Takes s) :
    s ∈ (q.perform op).2.records := by
  have hcancel (wanted : Record → Bool)
      (hw : s.processing = false → ¬ wanted s = true) :
      s ∈ (q.cancelMatching wanted false).2.records := by
    rw [(q.cancelMatching_eq wanted false).2]
    exact mem_withoutIdle hs hw
  cases op with
  | insert new =>
      by_cases hid : new.id ∈ q.ids
      · simp only [perform, insert_of_mem hid]
        exact hs
      · simp only [perform, insert_of_notMem hid]
        exact List.mem_append_left _ hs
  | enqueue new =>
      simp only [perform]
      rcases q.enqueue_cases new with ⟨-, -, he⟩ | ⟨-, he⟩ | ⟨-, -, he⟩
      · rw [he]
        exact hs
      · rw [he]
        exact mem_madeRoom hn hs h
      · rw [he]
        exact List.mem_append_left _ (mem_madeRoom hn hs h)
  | claimDue now =>
      have hkept : marked now s = s := (marked_eq now s).trans (if_neg h)
      exact List.mem_map.mpr ⟨s, hs, hkept⟩
  | complete id => exact (mem_complete_iff hn).mpr ⟨hs, h⟩
  | remove id => exact (mem_complete_iff hn).mpr ⟨hs, h⟩
  | cancelMatching wanted dryRun =>
      cases dryRun with
      | true => exact hs
      | false => exact hcancel wanted fun hidle hw => h ⟨rfl, hidle, hw⟩
  | cancelSuperseded activityId source =>
      simp only [perform, cancelSuperseded]
      split
      · exact hs
      · rename_i hsource
        refine hcancel _ fun hidle hw => h ?_
        obtain ⟨hactivity, hrule⟩ := Bool.and_eq_true_iff.mp hw
        exact ⟨Bool.not_eq_true _ ▸ hsource, hidle, beq_iff_eq.mp hactivity, hrule⟩
  | clear => exact absurd trivial h

end Queue

namespace Round

variable {scripts : RecordId → Script} {now : Instant} {tickInterval : Span} {maxConcurrent : Nat}
  {claimed : List Record} {r : Round} {q : Queue} {e : Execution} {s : Record} {pace : Pace}
  {event : RoundEvent} {events before after : List RoundEvent}

/-- The claimed record that finishes in a turn. -/
def release? (scripts : RecordId → Script) (r : Round) (pace : Pace) : Option Execution :=
  r.tick.turn?.filter fun e => (e.turn (scripts e.record.id) pace).ending.isFinal

/-- Only a record that has not finished has a turn. -/
theorem mem_unfinished_of_turn? (h : e ∈ r.tick.turn?) : e ∈ r.tick.unfinished := by
  obtain ⟨others, hrunning⟩ := List.head?_eq_some_iff.mp h
  exact unfinished_of_running hrunning ▸ List.mem_cons_self

/-- Only a record that has a turn is released. -/
theorem mem_turn?_of_release? (h : e ∈ r.release? scripts pace) : e ∈ r.tick.turn? :=
  (Option.filter_eq_some_iff.mp h).1

/-- **One turn.** It takes out what is queued under the id of the record that finishes in it. -/
theorem queue_turn_eq (scripts : RecordId → Script) (r : Round) (pace : Pace) :
    (r.turn scripts pace).queue =
      match r.release? scripts pace with
      | none => r.queue
      | some e => (r.queue.complete e.record.id).2 := by
  cases hrunning : r.tick.running with
  | nil =>
      rw [turn_of_nil hrunning, release?, Tick.turn?, hrunning]
      rfl
  | cons e others =>
      have hqueue := Tick.queue_endTurn hrunning
        (e.turn (scripts e.record.id) pace).ending r.queue
      rw [turn_eq hrunning, release?, Tick.turn?, hrunning, List.head?_cons, Option.filter_some]
      cases hfinal : (e.turn (scripts e.record.id) pace).ending.isFinal with
      | true =>
          rw [if_pos hfinal] at hqueue
          exact hqueue
      | false =>
          rw [hfinal, if_neg Bool.false_ne_true] at hqueue
          exact hqueue

/-- A run that goes on for one event. -/
theorem run_concat (scripts : RecordId → Script) (r : Round) (before : List RoundEvent)
    (event : RoundEvent) :
    r.run scripts (before ++ [event]) = (r.run scripts before).step scripts event := by
  simp only [run, List.foldl_append, List.foldl_cons, List.foldl_nil]

/-! ### What holds at any time -/

/-- No event makes two ids alike. -/
theorem nodup_ids_step (h : r.queue.ids.Nodup) (event : RoundEvent) :
    (r.step scripts event).queue.ids.Nodup := by
  cases event with
  | client op => exact Queue.nodup_ids_perform h op
  | turn pace =>
      show (r.turn scripts pace).queue.ids.Nodup
      rw [queue_turn_eq]
      split
      · exact h
      · exact Queue.nodup_ids_perform h (.complete _)

/-- No run makes two ids alike. -/
theorem nodup_ids_run (h : r.queue.ids.Nodup) (events : List RoundEvent) :
    (r.run scripts events).queue.ids.Nodup := by
  induction events generalizing r with
  | nil => exact h
  | cons event events ih => exact ih (nodup_ids_step h event)

/-- Whoever has not finished was claimed as it is. -/
theorem record_mem_claimed (ha : Account scripts now tickInterval claimed r)
    (he : e ∈ r.tick.unfinished) : e.record ∈ claimed :=
  ha.all.subset (List.mem_append_right _ (List.mem_map_of_mem he))

/-- Whoever has not finished is marked. -/
theorem processing_of_mem_unfinished
    (ha : Account scripts now tickInterval (q.claimDue now).1 r) (he : e ∈ r.tick.unfinished) :
    e.record.processing = true := by
  obtain ⟨s, -, -, hs⟩ := Queue.mem_claimDue.mp (record_mem_claimed ha he)
  rw [← hs]

/-- What an event finds in the queue or puts into it. -/
theorem mem_records_step (h : s ∈ (r.step scripts event).queue.records) :
    (∃ op, event = .client op ∧ op.offered? = some s) ∨
      ∃ t ∈ r.queue.records, s = t ∨ s = t.taken := by
  cases event with
  | client op =>
      rcases Queue.mem_records_perform h with hoffered | hold
      · exact .inl ⟨op, rfl, hoffered⟩
      · exact .inr hold
  | turn pace =>
      replace h : s ∈ (r.turn scripts pace).queue.records := h
      rw [queue_turn_eq] at h
      split at h
      · exact .inr ⟨s, h, .inl rfl⟩
      · exact .inr ⟨s, List.mem_of_mem_eraseP h, .inl rfl⟩

/-- A record in the queue of a round was there when it began or was offered since, and perhaps it
has been claimed since. -/
theorem mem_records_run (h : s ∈ (r.run scripts events).queue.records) :
    ∃ t, (t ∈ r.queue.records ∨ t ∈ QueueOp.offers (events.filterMap RoundEvent.op?)) ∧
      (s = t ∨ s = t.taken) := by
  induction events generalizing r with
  | nil => exact ⟨s, .inl h, .inl rfl⟩
  | cons event events ih =>
      have hoffers : QueueOp.offers ((event :: events).filterMap RoundEvent.op?) =
          QueueOp.offers ([event].filterMap RoundEvent.op?) ++
            QueueOp.offers (events.filterMap RoundEvent.op?) := by
        rw [← List.singleton_append, List.filterMap_append, QueueOp.offers, List.filterMap_append]
        rfl
      obtain ⟨t, ht | ht, hst⟩ := ih h
      · rcases mem_records_step ht with ⟨op, rfl, hoffered⟩ | ⟨u, hu, rfl | rfl⟩
        · refine ⟨t, .inr (hoffers ▸ List.mem_append_left _ ?_), hst⟩
          exact List.mem_filterMap.mpr ⟨op, List.mem_singleton_self _, hoffered⟩
        · exact ⟨t, .inl hu, hst⟩
        · refine ⟨u, .inl hu, .inr ?_⟩
          rcases hst with rfl | rfl
          · rfl
          · exact u.taken_taken
      · exact ⟨t, .inr (hoffers ▸ List.mem_append_right _ ht), hst⟩

/-- **How a stranger gets in.** What is queued under the id of a claimed record is that record
itself, or it was offered since the claim. -/
theorem taken_or_offered {c : Record} (hids : q.ids.Nodup) (hc : c ∈ (q.claimDue now).1)
    (hid : s.id = c.id)
    (h : s ∈ ((begin now tickInterval maxConcurrent q).run scripts events).queue.records) :
    s = c ∨ ∃ o ∈ QueueOp.offers (events.filterMap RoundEvent.op?), s = o ∨ s = o.taken := by
  obtain ⟨t, ht | ht, hst⟩ := mem_records_run h
  · obtain ⟨u, hu, hwanted, rfl⟩ := Queue.mem_claimDue.mp hc
    -- The claim has left the record in the queue as taken, and its id belongs to no other.
    obtain ⟨v, hv, rfl⟩ := List.mem_map.mp (show t ∈ q.records.map (Queue.marked now) from ht)
    have hmarked : Queue.marked now u = u.taken := if_pos hwanted
    have hvu : v.id = u.id := by
      rw [← Queue.id_marked now v]
      rcases hst with rfl | rfl <;> exact hid
    obtain rfl : v = u := Queue.eq_of_id_eq hids hv hu hvu
    rw [hmarked] at hst
    refine .inl ?_
    rcases hst with rfl | rfl
    · rfl
    · rfl
  · exact .inr ⟨t, ht, hst⟩

/-! ### Whether others are spared -/

/-- A round in which the tick takes out nothing but its own, and what waits stays. -/
structure SparesOthers (scripts : RecordId → Script) (r : Round) (events : List RoundEvent) :
    Prop where
  /-- What a turn takes out is the claimed record that has it. -/
  own : ∀ before pace after, events = before ++ .turn pace :: after →
    ∀ s ∈ (r.run scripts before).queue.records,
      s ∉ (r.run scripts (before ++ [.turn pace])).queue.records →
        ∃ e ∈ (r.run scripts before).tick.turn?, s = e.record
  /-- An idle record stays until a client claims, cancels, replaces or removes it. -/
  waiting : ∀ before during after, events = before ++ during ++ after →
    ∀ s ∈ (r.run scripts before).queue.records, s.processing = false →
      s ∈ (r.run scripts (before ++ during)).queue.records ∨
        ∃ op, .client op ∈ during ∧ op.Takes s

/-- Whenever a record of the tick finishes, nothing but itself is queued under its id. -/
def Undisturbed (scripts : RecordId → Script) (r : Round) (events : List RoundEvent) : Prop :=
  ∀ before pace after, events = before ++ .turn pace :: after →
    ∀ e ∈ (r.run scripts before).release? scripts pace, (r.run scripts before).queue.Sole e.record

/-- What a turn takes out of the queue. -/
theorem mem_turn_iff (hn : r.queue.ids.Nodup) :
    s ∈ (r.turn scripts pace).queue.records ↔
      s ∈ r.queue.records ∧ ∀ e ∈ r.release? scripts pace, s.id ≠ e.record.id := by
  rw [queue_turn_eq]
  cases hrelease : r.release? scripts pace with
  | none => simp
  | some e => simp [Queue.mem_complete_iff hn]

/-- **One event.** If a turn takes out only its own, an idle record stays in any event but that of a
client that takes it. -/
theorem mem_step_of_idle (hn : r.queue.ids.Nodup)
    (hmarked : ∀ e ∈ r.tick.unfinished, e.record.processing = true)
    (hown : ∀ pace, event = .turn pace → ∀ e ∈ r.release? scripts pace, r.queue.Sole e.record)
    (hs : s ∈ r.queue.records) (hidle : s.processing = false) :
    s ∈ (r.step scripts event).queue.records ∨ ∃ op, event = .client op ∧ op.Takes s := by
  cases event with
  | client op =>
      by_cases htakes : op.Takes s
      · exact .inr ⟨op, rfl, htakes⟩
      · exact .inl (Queue.mem_perform_of_not_takes hn hs htakes)
  | turn pace =>
      refine .inl ((mem_turn_iff hn).mpr ⟨hs, fun e he hid => ?_⟩)
      have hself : s = e.record := hown pace rfl e he s hs hid
      have hprocessing := hmarked e (mem_unfinished_of_turn? (mem_turn?_of_release? he))
      rw [← hself, hidle] at hprocessing
      exact absurd hprocessing Bool.false_ne_true

/-- What waits stays as long as no turn takes out what is not its own. -/
theorem Undisturbed.waiting
    (h : Undisturbed scripts (begin now tickInterval maxConcurrent q) events)
    (hids : q.ids.Nodup) {during : List RoundEvent} (hevents : events = before ++ during ++ after)
    (hs : s ∈ ((begin now tickInterval maxConcurrent q).run scripts before).queue.records)
    (hidle : s.processing = false) :
    s ∈ ((begin now tickInterval maxConcurrent q).run scripts (before ++ during)).queue.records ∨
      ∃ op, .client op ∈ during ∧ op.Takes s := by
  induction during generalizing before with
  | nil => exact .inl (by rwa [List.append_nil])
  | cons event during ih =>
      have hbegin : (begin now tickInterval maxConcurrent q).queue.ids.Nodup :=
        (q.ids_claimDue now).symm ▸ hids
      have haccount := account_run scripts now tickInterval maxConcurrent q before
      have hown : ∀ pace, event = .turn pace →
          ∀ e ∈ ((begin now tickInterval maxConcurrent q).run scripts before).release? scripts pace,
            ((begin now tickInterval maxConcurrent q).run scripts before).queue.Sole e.record := by
        rintro pace rfl
        exact h before pace (during ++ after) (by rw [hevents]; simp)
      have hstep := mem_step_of_idle (nodup_ids_run hbegin before)
        (fun e he => processing_of_mem_unfinished haccount he) hown hs hidle
      rcases hstep with hstays | ⟨op, rfl, htakes⟩
      · rw [← run_concat] at hstays
        have hafter : events = before ++ [event] ++ during ++ after := by
          rw [hevents]
          simp
        have hrest := ih hafter hstays
        rw [List.append_assoc, List.singleton_append] at hrest
        exact hrest.imp_right fun ⟨op, hop, htakes⟩ => ⟨op, List.mem_cons_of_mem _ hop, htakes⟩
      · exact .inr ⟨op, List.mem_cons_self, htakes⟩

/-- A tick takes out nothing but its own exactly if its records are undisturbed when they
finish. -/
theorem sparesOthers_iff_undisturbed (hids : q.ids.Nodup) :
    (begin now tickInterval maxConcurrent q).SparesOthers scripts events ↔
      (begin now tickInterval maxConcurrent q).Undisturbed scripts events := by
  have hbegin : (begin now tickInterval maxConcurrent q).queue.ids.Nodup :=
    (q.ids_claimDue now).symm ▸ hids
  have hturn (before : List RoundEvent) (pace : Pace) (s : Record) :
      s ∈ ((begin now tickInterval maxConcurrent q).run scripts
        (before ++ [.turn pace])).queue.records ↔
      s ∈ ((begin now tickInterval maxConcurrent q).run scripts before).queue.records ∧
        ∀ e ∈ ((begin now tickInterval maxConcurrent q).run scripts before).release? scripts pace,
          s.id ≠ e.record.id := by
    rw [run_concat]
    exact mem_turn_iff (nodup_ids_run hbegin before)
  constructor
  · intro h before pace after hevents e he s hs hid
    have hout : s ∉ ((begin now tickInterval maxConcurrent q).run scripts
        (before ++ [.turn pace])).queue.records := fun hmem =>
      ((hturn before pace s).mp hmem).2 e he hid
    obtain ⟨e', he', rfl⟩ := h.own before pace after hevents s hs hout
    rw [Option.mem_unique he' (mem_turn?_of_release? he)]
  · intro h
    refine ⟨fun before pace after hevents s hs hout => ?_, fun before during after hevents s hs
      hidle => h.waiting hids hevents hs hidle⟩
    rw [hturn, not_and] at hout
    have hreleased := hout hs
    push Not at hreleased
    obtain ⟨e, he, hid⟩ := hreleased
    exact ⟨e, mem_turn?_of_release? he, h before pace after hevents e he s hs hid⟩

/-- Giving up a tick takes out nothing but its own exactly if its unfinished records are
undisturbed. -/
theorem abandon_spares_iff (hn : r.queue.ids.Nodup) (hclaimed : (claimed.map (·.id)).Nodup)
    (ha : Account scripts now tickInterval claimed r) :
    (∀ s ∈ r.queue.records, s ∉ (r.tick.abandon r.queue).2.records →
      ∃ e ∈ r.tick.unfinished, s = e.record) ↔
    ∀ e ∈ r.tick.unfinished, r.queue.Sole e.record := by
  have hmem (s : Record) : s ∈ (r.tick.abandon r.queue).2.records ↔
      s ∈ r.queue.records ∧ s.id ∉ r.tick.unfinished.map (·.record.id) := by
    rw [r.tick.abandon_eq_without hn, Queue.without, List.mem_filter, decide_eq_true_iff]
  constructor
  · intro h e he s hs hid
    have hout : s ∉ (r.tick.abandon r.queue).2.records := fun hleft =>
      ((hmem s).mp hleft).2 (hid ▸ List.mem_map_of_mem he)
    obtain ⟨e', he', rfl⟩ := h s hs hout
    exact List.inj_on_of_nodup_map hclaimed (record_mem_claimed ha he')
      (record_mem_claimed ha he) hid
  · intro h s hs hout
    rw [hmem, not_and, not_not] at hout
    obtain ⟨e, he, hid⟩ := List.mem_map.mp (hout hs)
    exact ⟨e, he, h e he s hs hid.symm⟩

/-- While the other clients offer nothing under a claimed id, no record is disturbed. -/
theorem undisturbed_of_apart (hids : q.ids.Nodup) (hapart : Apart (q.claimDue now).1 events) :
    (begin now tickInterval maxConcurrent q).Undisturbed scripts events := by
  intro before pace after hevents e he s hs hid
  have haccount := account_run scripts now tickInterval maxConcurrent q before
  have hc := record_mem_claimed haccount (mem_unfinished_of_turn? (mem_turn?_of_release? he))
  refine (taken_or_offered hids hc hid hs).resolve_right ?_
  rintro ⟨o, ho, hso⟩
  have hoid : o.id = e.record.id := by
    rcases hso with rfl | rfl <;> exact hid
  have hoffered : o ∈ QueueOp.offers (events.filterMap RoundEvent.op?) := by
    rw [hevents, List.filterMap_append, QueueOp.offers, List.filterMap_append]
    exact List.mem_append_left _ ho
  exact hapart o hoffered (hoid ▸ List.mem_map_of_mem hc)

/-- **What a tick takes out.** Let the ids in a queue be different, and let a tick on it and other
clients do anything. What the tick takes out is its own, and what waits stays until a client takes
it, exactly if nothing else is queued under the id of a record when it finishes. The same goes for
giving the tick up. If something else is queued under the id of a claimed record, then a client has
offered it since the claim. -/
theorem sparesOthers_iff (scripts : RecordId → Script) (now : Instant) (tickInterval : Span)
    (maxConcurrent : Nat) (q : Queue) (events : List RoundEvent) (hids : q.ids.Nodup) :
    let start := begin now tickInterval maxConcurrent q
    let final := start.run scripts events
    (start.SparesOthers scripts events ↔ start.Undisturbed scripts events) ∧
    ((∀ s ∈ final.queue.records, s ∉ (final.tick.abandon final.queue).2.records →
        ∃ e ∈ final.tick.unfinished, s = e.record) ↔
      ∀ e ∈ final.tick.unfinished, final.queue.Sole e.record) ∧
    ∀ e ∈ final.tick.unfinished, ¬ final.queue.Sole e.record →
      ∃ o ∈ QueueOp.offers (events.filterMap RoundEvent.op?), o.id = e.record.id := by
  intro start final
  have hbegin : start.queue.ids.Nodup := (q.ids_claimDue now).symm ▸ hids
  have haccount : Account scripts now tickInterval (q.claimDue now).1 final :=
    account_run scripts now tickInterval maxConcurrent q events
  refine ⟨sparesOthers_iff_undisturbed hids, ?_, fun e he hother => ?_⟩
  · exact abandon_spares_iff (nodup_ids_run hbegin events) (Queue.nodup_ids_claimed hids now)
      haccount
  · rw [Queue.Sole] at hother
    push Not at hother
    obtain ⟨s, hs, hid, hne⟩ := hother
    obtain ⟨o, ho, hso⟩ :=
      (taken_or_offered hids (record_mem_claimed haccount he) hid hs).resolve_left hne
    refine ⟨o, ho, ?_⟩
    rcases hso with rfl | rfl <;> exact hid

/-- A record that is due and one that waits for an hour. -/
def oneDue : Queue :=
  (Queue.new "q").run [
    .insert (.plain ⟨1⟩ (.submission "a" "s") .dispatch .zero .epoch),
    .insert (.plain ⟨2⟩ (.submission "b" "s") .dispatch (.ofSeconds 3600) .epoch)]

/-- Another record under the id of the first. -/
def comeback : Record := .plain ⟨1⟩ (.submission "a" "s") .dispatch (.ofSeconds 3600) .epoch

/-- While the first record runs a client removes it, and then it finishes. -/
def removedMeanwhile : List RoundEvent :=
  [
    .turn .asks, .client (.remove ⟨1⟩), .client (.insert { comeback with id := ⟨3⟩ }),
    .turn .finishes
  ]

/-- What waits stays then. -/
theorem sparesOthers_iff_removedMeanwhile :
    oneDue.ids.Nodup ∧
    (begin .epoch (.ofSeconds 1) 1 oneDue).SparesOthers allAnswered removedMeanwhile ∧
    ((begin .epoch (.ofSeconds 1) 1 oneDue).run allAnswered removedMeanwhile).queue.ids =
      [⟨2⟩, ⟨3⟩] := by
  have hids : oneDue.ids.Nodup := by decide
  have hclaimed : (oneDue.claimDue .epoch).1.map (·.id) = [⟨1⟩] := by
    rw [Queue.claimDue_eq_foldr]
    rfl
  have hapart : Apart (oneDue.claimDue .epoch).1 removedMeanwhile := by
    rw [Apart, hclaimed]
    decide
  have hiff := (sparesOthers_iff allAnswered .epoch (.ofSeconds 1) 1 oneDue removedMeanwhile hids).1
  refine ⟨hids, hiff.mpr (undisturbed_of_apart hids hapart), ?_⟩
  simp only [begin, Tick.begin, Queue.claimDue_eq_foldr]
  rfl

/-- While the first record runs a client removes it and puts another one in under its id. -/
def replacedMeanwhile : List RoundEvent :=
  [.turn .asks, .client (.remove ⟨1⟩), .client (.insert comeback)]

/-- The other one waits, has never been claimed, and is gone when the first one finishes. -/
theorem not_sparesOthers_comeback :
    comeback ∈ ((begin .epoch (.ofSeconds 1) 1 oneDue).run allAnswered
      replacedMeanwhile).queue.records ∧
    comeback.processing = false ∧
    ((begin .epoch (.ofSeconds 1) 1 oneDue).run allAnswered
      (replacedMeanwhile ++ [.turn .finishes])).queue.ids = [⟨2⟩] ∧
    ¬ (begin .epoch (.ofSeconds 1) 1 oneDue).SparesOthers allAnswered
      (replacedMeanwhile ++ [.turn .finishes]) := by
  have hrecords : ((begin .epoch (.ofSeconds 1) 1 oneDue).run allAnswered
      replacedMeanwhile).queue.records =
      [.plain ⟨2⟩ (.submission "b" "s") .dispatch (.ofSeconds 3600) .epoch, comeback] := by
    simp only [begin, Tick.begin, Queue.claimDue_eq_foldr]
    rfl
  have hthere : comeback ∈ ((begin .epoch (.ofSeconds 1) 1 oneDue).run allAnswered
      replacedMeanwhile).queue.records := by
    rw [hrecords]
    exact List.mem_cons_of_mem _ List.mem_cons_self
  have hids : ((begin .epoch (.ofSeconds 1) 1 oneDue).run allAnswered
      (replacedMeanwhile ++ [.turn .finishes])).queue.ids = [⟨2⟩] := by
    simp only [begin, Tick.begin, Queue.claimDue_eq_foldr]
    rfl
  refine ⟨hthere, rfl, hids, fun h => ?_⟩
  have hgone : comeback ∉ ((begin .epoch (.ofSeconds 1) 1 oneDue).run allAnswered
      (replacedMeanwhile ++ [.turn .finishes])).queue.records := fun hmem => by
    have hid := Queue.mem_ids.mpr ⟨comeback, hmem, rfl⟩
    rw [hids] at hid
    exact absurd hid (by decide)
  obtain ⟨e, he, hself⟩ := h.own replacedMeanwhile .finishes [] rfl comeback hthere hgone
  have haccount := account_run allAnswered .epoch (.ofSeconds 1) 1 oneDue replacedMeanwhile
  have hprocessing := processing_of_mem_unfinished haccount (mem_unfinished_of_turn? he)
  rw [← hself] at hprocessing
  exact absurd hprocessing Bool.false_ne_true

end Round

end Deferral

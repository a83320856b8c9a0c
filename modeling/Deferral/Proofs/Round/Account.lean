import Deferral.Proofs.Queue.Claim
import Deferral.Proofs.Round.Turn

/-!
# The account of a round

At any time in a round each claimed record either has finished or has not, those that have had no
turn are the last ones of the claim, and the calls and the report agree with how far the others have
come. This is the invariant of a round. It holds when the round begins, and whatever the other
clients do and however a turn ends, it holds afterwards.

## Main results

* `Account.turn` — a turn keeps the account;
* `account_run` — a round keeps it from its begin on.
-/

namespace Deferral

namespace Round

variable {scripts : RecordId → Script} {now : Instant} {tickInterval : Span}
  {claimed : List Record} {r : Round} {e : Execution} {others : List Execution} {pace : Pace}

/-- The calls of the checks that a claimed record leads to. -/
def callsOf (scripts : RecordId → Script) (now : Instant) (tickInterval : Span) (s : Record) :
    List CheckCall :=
  (Execution.new now tickInterval s).calls (scripts s.id)

/-- Whether a claimed record succeeds. -/
def succeedsOf (scripts : RecordId → Script) (now : Instant) (tickInterval : Span) (s : Record) :
    Bool :=
  (Execution.new now tickInterval s).succeeds (scripts s.id)

/-- What has been called for a record that has not finished. -/
def madeFor (scripts : RecordId → Script) (e : Execution) : List CheckCall :=
  e.made (scripts e.record.id)

/-- The account of a round whose tick claimed some records. -/
structure Account (scripts : RecordId → Script) (now : Instant) (tickInterval : Span)
    (claimed : List Record) (r : Round) : Prop where
  sound : ∀ e ∈ r.tick.unfinished, e.Sound now tickInterval (scripts e.record.id)
  fresh : ∀ e ∈ r.tick.waiting, e.isFresh = true
  /-- Every claimed record has finished or has not. -/
  all : (r.finished ++ r.tick.unfinished.map (·.record)).Perm claimed
  /-- First turns are had in the order of the claim. -/
  order : r.started ++ r.tick.unstarted.map (·.record.id) = claimed.map (·.id)
  checks : r.checks.Perm
    (r.finished.flatMap (callsOf scripts now tickInterval) ++
      r.tick.unfinished.flatMap (madeFor scripts))
  report : r.tick.report =
    ⟨claimed.length, r.finished.countP (succeedsOf scripts now tickInterval),
      r.finished.countP (fun s => !succeedsOf scripts now tickInterval s),
      r.finished.countP (·.isTardy now tickInterval)⟩

/-! ### The begin -/

/-- A tick begins with all records of its claim. -/
theorem unfinished_begin (now : Instant) (tickInterval : Span) (maxConcurrent : Nat) (q : Queue) :
    (begin now tickInterval maxConcurrent q).tick.unfinished =
      (q.claimDue now).1.map (Execution.new now tickInterval) := by
  simp only [begin, Tick.begin, Tick.unfinished, List.append_nil]
  exact List.take_append_drop ..

/-- None of them has had a turn. -/
theorem isFresh_of_mem_claimed {q : Queue}
    (h : e ∈ (q.claimDue now).1.map (Execution.new now tickInterval)) : e.isFresh = true := by
  obtain ⟨s, -, rfl⟩ := List.mem_map.mp h
  rfl

/-- No record has had a turn when the round begins. -/
theorem unstarted_begin (now : Instant) (tickInterval : Span) (maxConcurrent : Nat) (q : Queue) :
    (begin now tickInterval maxConcurrent q).tick.unstarted =
      (q.claimDue now).1.map (Execution.new now tickInterval) := by
  have hfront : ∀ e ∈ ((q.claimDue now).1.map (Execution.new now tickInterval)).take maxConcurrent,
      e.isFresh = true := fun e he => isFresh_of_mem_claimed (List.mem_of_mem_take he)
  rw [Tick.unstarted]
  refine Eq.trans ?_ (List.take_append_drop maxConcurrent _)
  exact congrArg (· ++ _) (List.filter_eq_self.mpr hfront)

/-- Nothing has happened yet, so the account holds. -/
theorem account_begin (scripts : RecordId → Script) (now : Instant) (tickInterval : Span)
    (maxConcurrent : Nat) (q : Queue) :
    Account scripts now tickInterval (q.claimDue now).1
      (begin now tickInterval maxConcurrent q) := by
  have hunfinished := unfinished_begin now tickInterval maxConcurrent q
  refine ⟨?_, ?_, ?_, ?_, ?_, rfl⟩
  · rw [hunfinished]
    intro e he
    obtain ⟨s, -, rfl⟩ := List.mem_map.mp he
    exact Execution.sound_new s
  · exact fun e he => isFresh_of_mem_claimed (List.mem_of_mem_drop he)
  · rw [hunfinished, List.map_map]
    exact .of_eq (List.map_id _)
  · rw [unstarted_begin, List.map_map]
    rfl
  · rw [hunfinished, List.flatMap_map]
    have hnone : ((q.claimDue now).1.flatMap fun s =>
        madeFor scripts (Execution.new now tickInterval s)) = [] :=
      List.flatMap_eq_nil_iff.mpr fun s _ => rfl
    rw [hnone]
    exact .refl _

/-! ### A turn -/

/-- One more finished record is counted if the test is true of it. -/
theorem countP_concat (p : Record → Bool) (finished : List Record) (s : Record) :
    (finished ++ [s]).countP p = finished.countP p + (p s).toNat := by
  rw [List.countP_append, List.countP_singleton]
  cases p s <;> rfl

/-- A round after the turn of the record in front. -/
theorem turn_eq (h : r.tick.running = e :: others) :
    r.turn scripts pace =
      let turn := e.turn (scripts e.record.id) pace
      let ended := r.tick.endTurn turn.ending r.queue
      { tick := ended.2.1
        queue := ended.2.2
        started := if e.isFresh then r.started ++ [e.record.id] else r.started
        fetches := r.fetches ++ turn.fetches
        checks := r.checks ++ turn.check.toList
        finished := if turn.ending.isFinal then r.finished ++ [e.record] else r.finished
        notices := r.notices ++ turn.notices ++ ended.1 } := by
  rw [Round.turn, Tick.turn?, h]
  rfl

/-- Without a record in front a turn does nothing. -/
theorem turn_of_nil (h : r.tick.running = []) : r.turn scripts pace = r := by
  rw [Round.turn, Tick.turn?, h]
  rfl

/-- The record in front of a tick is one that has not finished. -/
theorem unfinished_of_running {t : Tick} (h : t.running = e :: others) :
    t.unfinished = e :: (others ++ t.stalled ++ t.waiting) := by
  rw [Tick.unfinished, h]
  rfl

/-- First turns keep their order. -/
theorem Account.order_turn (h : Account scripts now tickInterval claimed r)
    (hrunning : r.tick.running = e :: others) (pace : Pace) :
    (r.turn scripts pace).started ++ (r.turn scripts pace).tick.unstarted.map (·.record.id) =
      claimed.map (·.id) := by
  rw [turn_eq hrunning]
  simp only [Tick.unstarted_endTurn hrunning h.fresh]
  rw [← h.order, Tick.unstarted, hrunning, List.filter_cons]
  cases e.isFresh <;> simp

/-- Those that wait have had no turn. -/
theorem Account.fresh_turn (h : Account scripts now tickInterval claimed r)
    (hrunning : r.tick.running = e :: others) (pace : Pace) :
    ∀ x ∈ (r.turn scripts pace).tick.waiting, x.isFresh = true := by
  rw [turn_eq hrunning]
  exact fun x hx => h.fresh x ((r.tick.waiting_endTurn _ _).subset hx)

/-- The calls made so far, when the record in front has had its turn. -/
theorem Account.checks_turn (h : Account scripts now tickInterval claimed r)
    (hrunning : r.tick.running = e :: others) (pace : Pace) :
    (r.turn scripts pace).checks.Perm
      (r.finished.flatMap (callsOf scripts now tickInterval) ++
        ((e.made (scripts e.record.id) ++ (e.turn (scripts e.record.id) pace).check.toList) ++
          (others ++ r.tick.stalled ++ r.tick.waiting).flatMap (madeFor scripts))) := by
  have hbefore := h.checks
  rw [unfinished_of_running hrunning, List.flatMap_cons] at hbefore
  rw [turn_eq hrunning]
  refine (hbefore.append_right _).trans ?_
  rw [List.append_assoc, List.append_assoc (madeFor scripts e), List.append_assoc (e.made _)]
  exact (List.perm_append_comm.append_left _).append_left _

/-- What is known of the record in front and of the others that have not finished. -/
theorem Account.front (h : Account scripts now tickInterval claimed r)
    (hrunning : r.tick.running = e :: others) :
    e.Sound now tickInterval (scripts e.record.id) ∧
    (∀ x ∈ others ++ r.tick.stalled ++ r.tick.waiting,
      x.Sound now tickInterval (scripts x.record.id)) ∧
    (r.finished ++ e.record :: (others ++ r.tick.stalled ++ r.tick.waiting).map (·.record)).Perm
      claimed := by
  have hunfinished := unfinished_of_running hrunning
  have hall := h.all
  rw [hunfinished, List.map_cons] at hall
  exact ⟨h.sound e (hunfinished ▸ List.mem_cons_self),
    fun x hx => h.sound x (hunfinished ▸ List.mem_cons_of_mem _ hx), hall⟩

/-- The account holds when the record in front finishes. -/
theorem Account.finish (h : Account scripts now tickInterval claimed r)
    (hrunning : r.tick.running = e :: others)
    (hfinal : (e.turn (scripts e.record.id) pace).ending.isFinal = true) :
    Account scripts now tickInterval claimed (r.turn scripts pace) := by
  obtain ⟨hsound, hrest, hall⟩ := h.front hrunning
  have hunfinished := Tick.unfinished_endTurn hrunning
    (e.turn (scripts e.record.id) pace).ending r.queue
  rw [Execution.after?_eq_none_iff.mpr hfinal, Option.toList_none, List.nil_append] at hunfinished
  have hchecks := h.checks_turn hrunning pace
  rw [hsound.calls_turn hfinal, hsound.calls_eq] at hchecks
  have hreport := Tick.report_endTurn hrunning
    (e.turn (scripts e.record.id) pace).ending r.queue
  rw [if_pos hfinal, hsound.isSuccess_turn hfinal, hsound.succeeds_eq, hsound.tardy,
    h.report] at hreport
  have horder := h.order_turn hrunning pace
  have hfresh := h.fresh_turn hrunning pace
  rw [turn_eq hrunning] at horder hchecks hfresh ⊢
  simp only [hfinal, if_true] at horder hchecks hfresh ⊢
  refine ⟨fun x hx => hrest x (hunfinished.mem_iff.mp hx), hfresh, ?_, horder, ?_, ?_⟩
  · rw [List.append_assoc]
    exact (((hunfinished.map _).cons _).append_left _).trans hall
  · rw [List.flatMap_append, List.flatMap_singleton, List.append_assoc (r.finished.flatMap _)]
    exact hchecks.trans (((hunfinished.flatMap_right _).symm.append_left _).append_left _)
  · rw [hreport]
    simp only [TickReport.add, countP_concat]
    rfl

/-- The account holds when the record in front goes on. -/
theorem Account.goOn {e' : Execution} (h : Account scripts now tickInterval claimed r)
    (hrunning : r.tick.running = e :: others)
    (hafter : e.after? (e.turn (scripts e.record.id) pace).ending = some e') :
    Account scripts now tickInterval claimed (r.turn scripts pace) := by
  obtain ⟨hsound, hrest, hall⟩ := h.front hrunning
  obtain ⟨hrecord, -⟩ := Execution.record_after? hafter
  have hfinal : (e.turn (scripts e.record.id) pace).ending.isFinal = false := by
    rw [← Bool.not_eq_true, ← Execution.after?_eq_none_iff, hafter]
    exact Option.some_ne_none _
  have hunfinished := Tick.unfinished_endTurn hrunning
    (e.turn (scripts e.record.id) pace).ending r.queue
  rw [hafter, Option.toList_some, List.singleton_append] at hunfinished
  have hchecks := h.checks_turn hrunning pace
  rw [hsound.made_turn hafter] at hchecks
  have hreport := Tick.report_endTurn hrunning
    (e.turn (scripts e.record.id) pace).ending r.queue
  rw [hfinal, if_neg Bool.false_ne_true, h.report] at hreport
  have horder := h.order_turn hrunning pace
  have hfresh := h.fresh_turn hrunning pace
  rw [turn_eq hrunning] at horder hchecks hfresh ⊢
  simp only [hfinal, Bool.false_eq_true, if_false] at horder hchecks hfresh ⊢
  refine ⟨fun x hx => ?_, hfresh, ?_, horder, ?_, hreport⟩
  · rcases List.mem_cons.mp (hunfinished.mem_iff.mp hx) with rfl | hx
    · exact hrecord ▸ hsound.after? hafter
    · exact hrest x hx
  · refine ((hunfinished.map _).append_left _).trans ?_
    rw [List.map_cons, hrecord]
    exact hall
  · have hmade := hunfinished.flatMap_right (madeFor scripts)
    rw [List.flatMap_cons, madeFor, hrecord] at hmade
    exact hchecks.trans (hmade.symm.append_left _)

/-- **One turn.** However a turn ends, the account holds afterwards. -/
theorem Account.turn (h : Account scripts now tickInterval claimed r) (pace : Pace) :
    Account scripts now tickInterval claimed (r.turn scripts pace) := by
  cases hrunning : r.tick.running with
  | nil => rwa [turn_of_nil hrunning]
  | cons e others =>
      cases hafter : e.after? (e.turn (scripts e.record.id) pace).ending with
      | none => exact h.finish hrunning (Execution.after?_eq_none_iff.mp hafter)
      | some e' => exact h.goOn hrunning hafter

/-! ### A whole round -/

/-- Other clients have no part in the account. -/
theorem Account.step (h : Account scripts now tickInterval claimed r) (event : RoundEvent) :
    Account scripts now tickInterval claimed (r.step scripts event) := by
  cases event with
  | client op => exact ⟨h.sound, h.fresh, h.all, h.order, h.checks, h.report⟩
  | turn pace => exact h.turn pace

/-- **Runs.** The account stays true whatever happens in a round. -/
theorem Account.run (h : Account scripts now tickInterval claimed r) (events : List RoundEvent) :
    Account scripts now tickInterval claimed (r.run scripts events) := by
  induction events generalizing r with
  | nil => exact h
  | cons event events ih => exact ih (h.step event)

/-- **The account of a round.** It holds at any time. -/
theorem account_run (scripts : RecordId → Script) (now : Instant) (tickInterval : Span)
    (maxConcurrent : Nat) (q : Queue) (events : List RoundEvent) :
    Account scripts now tickInterval (q.claimDue now).1
      ((begin now tickInterval maxConcurrent q).run scripts events) :=
  (account_begin scripts now tickInterval maxConcurrent q).run events

end Round

end Deferral

import Deferral.Proofs.Round.Turn
import Deferral.Proofs.Round.Account

/-!
# Progress of rounds

As long as one record may run at a time, a tick whose checks do not stall can always be brought to
its end: what waits moves up whenever a record finishes, so that something runs until nothing is
left.

## Main results

* `isFilled_turn` — nothing waits while nothing runs and nothing has stalled;
* `isOver_run_finishes` — a round in which nothing has stalled is over after as many turns as it
  has records left, if they all finish.
-/

namespace Deferral

namespace Execution

/-- A record whose checks end in a turn finishes in it, whether its activity was to be had or
not. -/
theorem isFinal_turn_finishes (e : Execution) (s : Script) :
    (e.turn s .finishes).ending.isFinal = true := by
  have hproceed : ∀ a, (s.proceed a .finishes).isFinal = true := by
    intro a
    simp only [Script.proceed]
    cases s.checks.result <;> rfl
  have hopening : (e.openingTurn s .finishes).ending.isFinal = true := by
    simp only [openingTurn, reduceCtorEq, false_and, if_false]
    cases (e.opening s.fetcher).answer with
    | error f => rfl
    | ok a => exact hproceed a
  rw [turn]
  split
  · rename_i a _
    exact hproceed a
  · exact hopening

end Execution

namespace Round

variable {scripts : RecordId → Script} {now : Instant} {tickInterval : Span} {maxConcurrent : Nat}
  {q : Queue} {r : Round}

/-- Nothing waits while nothing runs and nothing has stalled. -/
def IsFilled (r : Round) : Prop :=
  r.tick.running = [] → r.tick.stalled = [] → r.tick.waiting = []

/-- A tick that may run records begins filled. -/
theorem isFilled_begin (h : 0 < maxConcurrent) :
    (begin now tickInterval maxConcurrent q).IsFilled := by
  intro hrunning _
  replace hrunning : ((q.claimDue now).1.map (Execution.new now tickInterval)).take
      maxConcurrent = [] := hrunning
  rcases List.take_eq_nil_iff.mp hrunning with hzero | hnil
  · omega
  · show ((q.claimDue now).1.map (Execution.new now tickInterval)).drop maxConcurrent = []
    rw [hnil, List.drop_nil]

/-- A filled tick is filled after a turn. -/
theorem isFilled_turn (h : r.IsFilled) (pace : Pace) : (r.turn scripts pace).IsFilled := by
  cases hrunning : r.tick.running with
  | nil => rwa [turn_of_nil hrunning]
  | cons e others =>
      rw [turn_eq hrunning]
      simp only [IsFilled, Tick.endTurn, hrunning]
      have hnext : others ++ r.tick.waiting.take 1 = [] → r.tick.waiting.drop 1 = [] := by
        intro hnil
        cases hwaiting : r.tick.waiting with
        | nil => rfl
        | cons w ws => simp [hwaiting] at hnil
      have hback (es : List Execution) (e' : Execution) : es ++ [e'] ≠ [] :=
        List.append_ne_nil_of_right_ne_nil _ (List.cons_ne_nil _ _)
      cases (e.turn (scripts e.record.id) pace).ending with
      | succeeded => exact fun hnil _ => hnext hnil
      | failed f => exact fun hnil _ => hnext hnil
      | stalled a => exact fun _ hnil => absurd hnil (hback _ _)
      | _ => exact fun hnil => absurd hnil (hback _ _)

/-- **Runs.** A filled tick is filled at any time. -/
theorem isFilled_run (h : r.IsFilled) (events : List RoundEvent) :
    (r.run scripts events).IsFilled := by
  induction events generalizing r with
  | nil => exact h
  | cons event events ih =>
      cases event with
      | client op => exact ih h
      | turn pace => exact ih (isFilled_turn h pace)

/-- A turn in which a record finishes leaves one less to be finished and stalls none. -/
theorem turn_finishes (scripts : RecordId → Script) {e : Execution} {others : List Execution}
    (hrunning : r.tick.running = e :: others) :
    (r.turn scripts .finishes).tick.unfinished.length + 1 = r.tick.unfinished.length ∧
      (r.turn scripts .finishes).tick.stalled = r.tick.stalled := by
  have hfinal := e.isFinal_turn_finishes (scripts e.record.id)
  have hunfinished := (Tick.unfinished_endTurn hrunning
    (e.turn (scripts e.record.id) .finishes).ending r.queue).length_eq
  rw [Execution.after?_eq_none_iff.mpr hfinal, Option.toList_none, List.nil_append] at hunfinished
  rw [turn_eq hrunning, unfinished_of_running hrunning, List.length_cons]
  refine ⟨congrArg (· + 1) hunfinished, ?_⟩
  simp only [Tick.endTurn, hrunning]
  cases hending : (e.turn (scripts e.record.id) .finishes).ending with
  | stalled a =>
      rw [hending] at hfinal
      exact absurd hfinal Bool.false_ne_true
  | _ => rfl

/-- A filled tick without stalled records is over after one last turn for each record that is left.
-/
theorem isOver_of_filled {n : Nat} (h : r.IsFilled) (hstalled : r.tick.stalled = [])
    (hn : r.tick.unfinished.length = n) :
    (r.run scripts (List.replicate n (.turn .finishes))).tick.isOver = true := by
  induction n generalizing r with
  | zero => exact List.isEmpty_iff.mpr (List.length_eq_zero_iff.mp hn)
  | succ n ih =>
      cases hrunning : r.tick.running with
      | nil =>
          have hnone : r.tick.unfinished = [] := by
            rw [Tick.unfinished, hrunning, hstalled, h hrunning hstalled]
            rfl
          rw [hnone] at hn
          exact absurd hn (Nat.succ_ne_zero n).symm
      | cons e others =>
          obtain ⟨hlength, hstays⟩ := turn_finishes scripts hrunning
          have hleft : (r.turn scripts .finishes).tick.unfinished.length = n := by omega
          exact ih (isFilled_turn h .finishes) (hstays.trans hstalled) hleft

/-- **A tick can be brought to its end.** Whatever has happened in a round in which at least one
record may run at a time, if nothing has stalled then the tick is over once the records that are
left have finished. -/
theorem isOver_run_finishes (scripts : RecordId → Script) (now : Instant) (tickInterval : Span)
    (maxConcurrent : Nat) (q : Queue) (events : List RoundEvent) (h : 0 < maxConcurrent)
    (hstalled : ((begin now tickInterval maxConcurrent q).run scripts events).tick.stalled = []) :
    ∃ n, (((begin now tickInterval maxConcurrent q).run scripts events).run scripts
      (List.replicate n (.turn .finishes))).tick.isOver = true :=
  ⟨_, isOver_of_filled (isFilled_run (isFilled_begin h) events) hstalled rfl⟩

end Round

end Deferral

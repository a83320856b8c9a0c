import Deferral.Proofs.Round.Account

/-!
# What a round asks the platform for

A claimed record has its activity asked for in its first turn, unless it is for a dry run. It may
wait for the answer through any number of turns, but it does not ask again. So at any time the calls
that have been made, and after them those for the records that have had no turn, are the calls for
the claim in its order.

## Main results

* `Execution.fetches_turn` — what one turn asks for;
* `fetches_run` — what a round has asked for at any time.
-/

namespace Deferral

/-- What the platform is asked for when a record is run: its activity, unless the run is dry. -/
def Record.fetches (r : Record) : List FetchCall :=
  if r.dryRun = some true then [] else [.activity r.activity.id]

/-- Only records of dry runs ask for nothing. -/
theorem Record.fetches_eq_nil_iff {r : Record} : r.fetches = [] ↔ r.dryRun = some true := by
  simp [fetches]

/-- **One turn.** A record asks for its activity in its first turn and in no other. -/
theorem Execution.fetches_turn (e : Execution) (s : Script) (pace : Pace) :
    (e.turn s pace).fetches = if e.isFresh then e.record.fetches else [] := by
  have hopening : (e.openingTurn s pace).fetches = (e.opening s.fetcher).calls := by
    simp only [openingTurn]
    split
    · rfl
    · split <;> rfl
  have hcalls : (e.opening s.fetcher).calls = if e.isFresh then e.record.fetches else [] := by
    by_cases hdry : e.record.dryRun = some true
    · simp [opening, Record.fetches, hdry]
    · simp [opening, Record.fetches, hdry]
  cases hstage : e.stage with
  | underWay a =>
      have hfresh : e.isFresh = false := by
        rw [isFresh, hstage]
        rfl
      rw [turn, hstage, hfresh]
      rfl
  | _ =>
      rw [turn, hstage, ← hcalls]
      exact hopening

namespace Round

variable {scripts : RecordId → Script} {now : Instant} {tickInterval : Span}
  {claimed : List Record} {r : Round}

/-- What a round has asked for, and then what it will ask for on behalf of the records that have had
no turn. -/
def fetchesInAll (r : Round) : List FetchCall :=
  r.fetches ++ r.tick.unstarted.flatMap (·.record.fetches)

/-- In all, a tick asks for the activities of the records that it claims. -/
theorem fetchesInAll_begin (now : Instant) (tickInterval : Span) (maxConcurrent : Nat)
    (q : Queue) :
    (begin now tickInterval maxConcurrent q).fetchesInAll =
      (q.claimDue now).1.flatMap Record.fetches := by
  rw [fetchesInAll, unstarted_begin, List.flatMap_map]
  rfl

/-- A turn makes the calls that were still to be made for its record. -/
theorem Account.fetchesInAll_turn (h : Account scripts now tickInterval claimed r) (pace : Pace) :
    (r.turn scripts pace).fetchesInAll = r.fetchesInAll := by
  cases hrunning : r.tick.running with
  | nil => rw [turn_of_nil hrunning]
  | cons e others =>
      rw [turn_eq hrunning]
      simp only [fetchesInAll, Tick.unstarted_endTurn hrunning h.fresh, Execution.fetches_turn]
      rw [Tick.unstarted, hrunning, List.filter_cons]
      cases e.isFresh with
      | true => simp
      | false => simp

/-- **Runs.** What a tick asks for in all is settled when it begins. -/
theorem Account.fetchesInAll_run (h : Account scripts now tickInterval claimed r)
    (events : List RoundEvent) : (r.run scripts events).fetchesInAll = r.fetchesInAll := by
  induction events generalizing r with
  | nil => rfl
  | cons event events ih =>
      have hrest := ih (h.step event)
      cases event with
      | client op => exact hrest
      | turn pace => exact hrest.trans (h.fetchesInAll_turn pace)

/-- **The calls of a round.** At any time the calls that have been made and those for the records
that have had no turn are the calls for the claim. None of them is for a record that is run dry. -/
theorem fetches_run (scripts : RecordId → Script) (now : Instant) (tickInterval : Span)
    (maxConcurrent : Nat) (q : Queue) (events : List RoundEvent) :
    ((begin now tickInterval maxConcurrent q).run scripts events).fetchesInAll =
      (q.claimDue now).1.flatMap Record.fetches :=
  ((account_begin scripts now tickInterval maxConcurrent q).fetchesInAll_run events).trans
    (fetchesInAll_begin now tickInterval maxConcurrent q)

end Round

end Deferral

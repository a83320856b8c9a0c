import Deferral.Dispatch.Round
import Deferral.Dispatch.Service
import Deferral.Proofs.Queue.Claim
import Deferral.Proofs.Record.Due
import Deferral.Proofs.Round.Account
import Mathlib.Data.List.Chain

/-!
# Punctual services

A service keeps pace if its clock never goes back, records are queued with the time that the clock
shows, and each tick follows the one before within the interval of the scheduler. A record that a
tick claims was not due at the tick before, or it came in after it; so it is late by one interval at
most, which strict records tolerate.

What carries this is a floor under the due times: no idle record in the queue is due before the time
that the last tick has read. A tick raises the floor to its own time, because it leaves no due
record idle, and records that come in later are queued above it. Only what is idle matters, so that
nothing needs to be known of the operations and actions that put records in and take them out.
A tick that is given up is one that has no further turn and whose records clients take out.

## Main results

* `Punctual.beginTick` — what a tick claims is late by one interval at most;
* `Punctual.step`, `Punctual.run` — the floor holds under any event, and in a whole run;
* `not_tardy_of_keepsPace` — a service that keeps pace never runs a strict record as tardy.
-/

namespace Deferral

/-- Something that happens to a service, with the time that the clock shows then. -/
structure TimedEvent where
  clock : Instant
  event : ServiceEvent

namespace TimedEvent

/-- The time that a tick goes by, if the event is the begin of one. -/
def reading? (x : TimedEvent) : Option Instant :=
  match x.event with
  | .beginTick now => some now
  | _ => none

/-- Only the begin of a tick goes by a time. -/
theorem reading?_eq_some_iff {x : TimedEvent} {now : Instant} :
    x.reading? = some now ↔ x.event = .beginTick now := by
  obtain ⟨clock, event⟩ := x
  cases event <;> simp [reading?]

/-- The times that the ticks of events go by. -/
def readings (events : List TimedEvent) : List Instant := events.filterMap reading?

end TimedEvent

/-! ### Records in ticks -/

/-- A claimed record is late by an interval at most, and it was called tardy or not by its own
tolerance. -/
structure Execution.OnTime (now : Instant) (tickInterval : Span) (e : Execution) : Prop where
  overdue : e.record.overdue now ≤ tickInterval
  tardy : e.tardy = e.record.isTardy now tickInterval

/-- A record that is not tardy is not announced as such, and its checks are not told so. -/
theorem Execution.turn_of_not_tardy {e : Execution} (h : e.tardy = false) (s : Script)
    (pace : Pace) :
    (e.turn s pace).notices = [] ∧ ∀ c ∈ (e.turn s pace).check, c.options.tardy = false := by
  have hopening : (e.openingTurn s pace).notices = [] ∧
      ∀ c ∈ (e.openingTurn s pace).check, c.options.tardy = false := by
    have hnotices : (e.opening s.fetcher).notices = [] := by
      rw [opening, h, Bool.and_false]
      rfl
    simp only [openingTurn]
    split
    · exact ⟨hnotices, fun c hc => absurd hc (Option.not_mem_none c)⟩
    · split
      · refine ⟨hnotices, fun c hc => ?_⟩
        obtain rfl := Option.some.inj hc
        exact h
      · exact ⟨hnotices, fun c hc => absurd hc (Option.not_mem_none c)⟩
  rw [turn]
  split
  · exact ⟨rfl, fun c hc => absurd hc (Option.not_mem_none c)⟩
  · exact hopening

/-- The records of a tick that have not finished after a turn are some of those from before. -/
theorem Tick.onTime_endTurn {t : Tick} {tickInterval : Span}
    (h : ∀ e ∈ t.unfinished, e.OnTime t.now tickInterval) (how : TurnEnd) (q : Queue) :
    ∀ e ∈ (t.endTurn how q).2.1.unfinished, e.OnTime (t.endTurn how q).2.1.now tickInterval := by
  cases hrunning : t.running with
  | nil =>
      simp only [endTurn, hrunning]
      exact h
  | cons e others =>
      have hnow : (t.endTurn how q).2.1.now = t.now := by
        rw [endTurn, hrunning]
        cases how <;> rfl
      have hbefore := Round.unfinished_of_running hrunning
      intro x hx
      rw [hnow]
      rcases List.mem_append.mp ((unfinished_endTurn hrunning how q).mem_iff.mp hx) with hx | hx
      · have hfront := h e (hbefore ▸ List.mem_cons_self)
        obtain ⟨hrecord, htardy⟩ := Execution.record_after? (Option.mem_toList.mp hx)
        exact ⟨hrecord ▸ hfront.overdue, by rw [htardy, hrecord, hfront.tardy]⟩
      · exact h x (hbefore ▸ List.mem_cons_of_mem _ hx)

namespace Service

variable {v : Service} {x : TimedEvent} {events before after : List TimedEvent}
  {floor now : Instant}

/-- The idle records that an event puts into the queue. -/
def admitted (v : Service) (event : ServiceEvent) : List Record :=
  (v.step event).queue.records.filter fun r => r.isIdle && decide (r ∉ v.queue.records)

/-- The idle records that events put into the queue, each with the time that the clock shows
then. -/
def admissions (v : Service) : List TimedEvent → List (Instant × Record)
  | [] => []
  | x :: events => (v.admitted x.event).map (x.clock, ·) ++ (v.step x.event).admissions events

/-- The service after timed events. -/
def runTimed (v : Service) (events : List TimedEvent) : Service := v.run (events.map (·.event))

/-- A run whose records and ticks go by a clock. -/
structure Clocked (v : Service) (events : List TimedEvent) : Prop where
  /-- The clock never goes back. -/
  forward : (events.map (·.clock)).Pairwise (· ≤ ·)
  /-- A record is queued with the time that the clock shows. -/
  stamped : ∀ a ∈ v.admissions events, a.2.queuedAt = a.1
  /-- A tick goes by a time that the clock has shown by the time of its claim. -/
  read : ∀ x ∈ events, ∀ now, x.reading? = some now → now ≤ x.clock

/-- The time of a tick comes after that of another, and within an interval. -/
def Follows (tickInterval : Span) (a b : Instant) : Prop :=
  a ≤ b ∧ b.nanos ≤ a.nanos + tickInterval.nanos

/-- A run that keeps pace with its clock. -/
structure KeepsPace (v : Service) (events : List TimedEvent) : Prop extends v.Clocked events where
  /-- No record is queued before the time of the first tick, -/
  opened : ∀ first ∈ (TimedEvent.readings events).head?, ∀ a ∈ v.admissions events,
    first ≤ a.2.queuedAt
  /-- and each tick follows the one before within the interval of the scheduler. -/
  regular : (TimedEvent.readings events).IsChain (Follows v.scheduler.tickInterval)

/-- The rest of a run that keeps pace, when the last tick went by a time. -/
structure PacedFrom (floor : Instant) (v : Service) (events : List TimedEvent) : Prop
    extends v.Clocked events where
  opened : ∀ a ∈ v.admissions events, floor ≤ a.2.queuedAt
  regular : (floor :: TimedEvent.readings events).IsChain (Follows v.scheduler.tickInterval)

/-! ### Parts of a run -/

/-- No event changes the interval of the ticks. -/
theorem tickInterval_step (v : Service) (event : ServiceEvent) :
    (v.step event).scheduler.tickInterval = v.scheduler.tickInterval := by
  cases event with
  | turn i how =>
      rw [step]
      split <;> rfl
  | endTick i =>
      rw [step]
      split
      · rfl
      · split <;> rfl
  | _ => rfl

/-- What comes in during a run comes in at the time of one of its events. -/
theorem clock_of_mem_admissions {a : Instant × Record} (h : a ∈ v.admissions events) :
    ∃ x ∈ events, x.clock = a.1 := by
  induction events generalizing v with
  | nil => exact absurd h List.not_mem_nil
  | cons x events ih =>
      rcases List.mem_append.mp h with hfirst | hrest
      · obtain ⟨r, -, rfl⟩ := List.mem_map.mp hfirst
        exact ⟨x, List.mem_cons_self, rfl⟩
      · obtain ⟨y, hy, hclock⟩ := ih hrest
        exact ⟨y, List.mem_cons_of_mem _ hy, hclock⟩

/-- What is admitted in the first part of a run is admitted in the run. -/
theorem admissions_subset_append (v : Service) (before after : List TimedEvent) :
    v.admissions before ⊆ v.admissions (before ++ after) := by
  induction before generalizing v with
  | nil => exact List.nil_subset _
  | cons x before ih =>
      rw [List.cons_append, admissions, admissions]
      exact List.append_subset.mpr ⟨List.subset_append_left _ _,
        List.Subset.trans (ih _) (List.subset_append_right _ _)⟩

/-- The rest of a run goes by the clock if the run does. -/
theorem Clocked.tail (h : v.Clocked (x :: events)) : (v.step x.event).Clocked events where
  forward := (List.pairwise_cons.mp h.forward).2
  stamped a ha := h.stamped a (List.mem_append_right _ ha)
  read y hy := h.read y (List.mem_cons_of_mem _ hy)

/-- The time of a tick is no later than anything that comes in after it. -/
theorem Clocked.le_of_reading? (h : v.Clocked (x :: events)) (hx : x.reading? = some now)
    {a : Instant × Record} (ha : a ∈ (v.step x.event).admissions events) :
    now ≤ a.2.queuedAt := by
  obtain ⟨y, hy, hclock⟩ := clock_of_mem_admissions ha
  have hread : now.nanos ≤ x.clock.nanos := h.read x List.mem_cons_self now hx
  have hforward : x.clock.nanos ≤ y.clock.nanos :=
    (List.pairwise_cons.mp h.forward).1 y.clock (List.mem_map_of_mem hy)
  rw [h.stamped a (List.mem_append_right _ ha), ← hclock]
  exact Int.le_trans hread hforward

/-- The first part of a run keeps pace if the run does. -/
theorem PacedFrom.of_append (h : PacedFrom floor v (before ++ after)) :
    PacedFrom floor v before := by
  have hsub := v.admissions_subset_append before after
  have hforward := h.forward
  have hregular := h.regular
  rw [List.map_append, List.pairwise_append] at hforward
  rw [TimedEvent.readings, List.filterMap_append, ← List.cons_append] at hregular
  exact {
    forward := hforward.1
    stamped := fun a ha => h.stamped a (hsub ha)
    read := fun y hy => h.read y (List.mem_append_left _ hy)
    opened := fun a ha => h.opened a (hsub ha)
    regular := hregular.left_of_append
  }

/-- The time of the last tick stays until the next one. -/
theorem PacedFrom.tail (h : PacedFrom floor v (x :: events)) (hx : x.reading? = none) :
    PacedFrom floor (v.step x.event) events where
  toClocked := h.toClocked.tail
  opened a ha := h.opened a (List.mem_append_right _ ha)
  regular := by
    have hregular := h.regular
    rw [TimedEvent.readings, List.filterMap_cons_none hx] at hregular
    rwa [tickInterval_step]

/-- The next tick comes within an interval, and then it is the last one. -/
theorem PacedFrom.tail_of_reading? (h : PacedFrom floor v (x :: events))
    (hx : x.reading? = some now) :
    Follows v.scheduler.tickInterval floor now ∧ PacedFrom now (v.step x.event) events := by
  have hregular := h.regular
  rw [TimedEvent.readings, List.filterMap_cons_some hx, List.isChain_cons_cons] at hregular
  refine ⟨hregular.1, { toClocked := h.toClocked.tail, opened := ?_, regular := ?_ }⟩
  · exact fun a ha => h.toClocked.le_of_reading? hx ha
  · rw [tickInterval_step]
    exact hregular.2

/-- A run that keeps pace does so from some time on: that of its first tick. -/
theorem KeepsPace.exists_pacedFrom (h : v.KeepsPace events) :
    ∃ floor, PacedFrom floor v events := by
  cases hreadings : TimedEvent.readings events with
  | nil =>
      refine ⟨⟨calendarFirst, Int.le_refl _, by decide⟩, h.toClocked, fun a _ => ?_, ?_⟩
      · exact a.2.queuedAt.first_le
      · rw [hreadings]
        exact List.isChain_singleton _
  | cons first rest =>
      have hregular := h.regular
      rw [hreadings] at hregular
      refine ⟨first, h.toClocked, h.opened first (by rw [hreadings]; rfl), ?_⟩
      rw [hreadings, List.isChain_cons_cons]
      refine ⟨⟨Int.le_refl _, ?_⟩, hregular⟩
      omega

/-! ### The floor -/

/-- A tick that is under way after an event was so before, it has had a turn, or it has begun. -/
theorem mem_ticks_step {event : ServiceEvent} {t : Tick} (ht : t ∈ (v.step event).ticks) :
    t ∈ v.ticks ∨ (∃ how, ∃ u ∈ v.ticks, t = (u.endTurn how v.queue).2.1) ∨
      ∃ now, event = .beginTick now ∧ t = (v.scheduler.beginTick now).1 := by
  cases event with
  | beginTick now =>
      rcases List.mem_append.mp ht with ht | ht
      · exact .inl ht
      · exact .inr (.inr ⟨now, rfl, List.mem_singleton.mp ht⟩)
  | turn i how =>
      rw [Service.step] at ht
      cases hi : v.ticks[i]? with
      | none =>
          rw [hi] at ht
          exact .inl ht
      | some u =>
          rw [hi] at ht
          rcases List.mem_or_eq_of_mem_set ht with ht | ht
          · exact .inl ht
          · exact .inr (.inl ⟨how, u, List.mem_of_getElem? hi, ht⟩)
  | endTick i =>
      rw [Service.step] at ht
      cases hi : v.ticks[i]? with
      | none =>
          rw [hi] at ht
          exact .inl ht
      | some u =>
          rw [hi] at ht
          simp only at ht
          split at ht
          · exact .inl (List.mem_of_mem_eraseIdx ht)
          · exact .inl ht
  | _ => exact .inl ht

/-- No idle record in the queue is due before a floor, and the records in ticks are on time. -/
structure Punctual (floor : Instant) (v : Service) : Prop where
  idle : ∀ r ∈ v.queue.records, r.isIdle = true →
    floor.nanos ≤ r.queuedAt.nanos + r.delay.nanos
  onTime : ∀ t ∈ v.ticks, ∀ e ∈ t.unfinished, e.OnTime t.now v.scheduler.tickInterval

/-- Nothing is late in a new service. -/
theorem punctual_new (name : String) (settings : DispatchSettings) (floor : Instant) :
    (new name settings).Punctual floor :=
  ⟨fun _ hr => absurd hr List.not_mem_nil, fun _ ht => absurd ht List.not_mem_nil⟩

/-- A tick claims records that are late by an interval at most, and leaves none idle that is due. -/
theorem Punctual.beginTick (h : v.Punctual floor)
    (hnow : Follows v.scheduler.tickInterval floor now) :
    (v.step (.beginTick now)).Punctual now where
  idle r hr hidle := by
    have hnot := Queue.not_isDue_of_idle_claimDue (q := v.queue) hr hidle
    rw [Record.isDue_iff] at hnot
    omega
  onTime t ht e he := by
    rcases List.mem_append.mp ht with hold | hnew
    · exact h.onTime t hold e he
    · obtain rfl := List.mem_singleton.mp hnew
      have hunfinished := Round.unfinished_begin now v.scheduler.tickInterval
        v.scheduler.maxConcurrent v.queue
      obtain ⟨c, hc, rfl⟩ := List.mem_map.mp (hunfinished ▸ he)
      obtain ⟨s, hs, hidle, -, rfl⟩ := Queue.mem_claimDue_iff.mp hc
      have hfloor := h.idle s hs (by rw [Record.isIdle, hidle]; rfl)
      obtain ⟨-, hpace⟩ := hnow
      refine ⟨?_, rfl⟩
      show (Record.overdue _ now).nanos ≤ v.scheduler.tickInterval.nanos
      rw [Record.nanos_overdue]
      simp only [Execution.new]
      omega

/-- Any other event leaves the floor where it is, if nothing comes in under it. -/
theorem Punctual.step (h : v.Punctual floor) (hx : x.reading? = none)
    (hin : ∀ r ∈ v.admitted x.event, floor ≤ r.queuedAt) :
    (v.step x.event).Punctual floor := by
  refine ⟨fun r hr hidle => ?_, fun t ht e he => ?_⟩
  · by_cases hold : r ∈ v.queue.records
    · exact h.idle r hold hidle
    · have hnew : r ∈ v.admitted x.event :=
        List.mem_filter.mpr ⟨hr, by rw [hidle, decide_eq_true hold]; rfl⟩
      have hstamp : floor.nanos ≤ r.queuedAt.nanos := hin r hnew
      omega
  · rw [tickInterval_step]
    rcases mem_ticks_step ht with hold | ⟨how, u, hu, rfl⟩ | ⟨now, hevent, -⟩
    · exact h.onTime t hold e he
    · exact Tick.onTime_endTurn (h.onTime u hu) how v.queue e he
    · rw [TimedEvent.reading?_eq_some_iff.mpr hevent] at hx
      exact nomatch hx

/-- A run that keeps pace keeps its ticks on time. -/
theorem Punctual.run (h : v.Punctual floor) (hpaced : PacedFrom floor v events) :
    ∃ last, (v.runTimed events).Punctual last := by
  induction events generalizing v floor with
  | nil => exact ⟨floor, h⟩
  | cons x events ih =>
      cases hx : x.reading? with
      | none =>
          have hin : ∀ r ∈ v.admitted x.event, floor ≤ r.queuedAt := fun r hr =>
            hpaced.opened (x.clock, r)
              (List.mem_append_left _ (List.mem_map.mpr ⟨r, hr, rfl⟩))
          exact ih (h.step hx hin) (hpaced.tail hx)
      | some now =>
          obtain ⟨hnow, hrest⟩ := hpaced.tail_of_reading? hx
          have hevent : x.event = .beginTick now := TimedEvent.reading?_eq_some_iff.mp hx
          have hnext : (v.step x.event).Punctual now := hevent ▸ h.beginTick hnow
          exact ih hnext hrest

/-- A run does not change the interval of the ticks. -/
theorem tickInterval_runTimed (v : Service) (events : List TimedEvent) :
    (v.runTimed events).scheduler.tickInterval = v.scheduler.tickInterval := by
  induction events generalizing v with
  | nil => rfl
  | cons x events ih => exact (ih _).trans (tickInterval_step v x.event)

/-- **Strict records are on time.** Let records be queued and taken out in any way and ticks run and
overlap in any way, as long as the service keeps pace. At any time in the run, whatever a tick has
claimed is late by one interval of the scheduler at most; so no strict record among it is tardy,
none is announced as such, and no checks are told so in any of its turns. -/
theorem not_tardy_of_keepsPace (name : String) (settings : DispatchSettings)
    (before after : List TimedEvent) (h : (new name settings).KeepsPace (before ++ after)) :
    ∀ t ∈ ((new name settings).runTimed before).ticks, ∀ e ∈ t.unfinished,
      e.record.overdue t.now ≤ settings.tickInterval ∧
      (e.record.tolerance = .strict → e.tardy = false ∧
        ∀ s pace, (e.turn s pace).notices = [] ∧
          ∀ c ∈ (e.turn s pace).check, c.options.tardy = false) := by
  intro t ht e he
  obtain ⟨floor, hpaced⟩ := h.exists_pacedFrom
  obtain ⟨last, hlast⟩ := (punctual_new name settings floor).run hpaced.of_append
  have honTime := hlast.onTime t ht e he
  rw [tickInterval_runTimed] at honTime
  replace honTime : e.OnTime t.now settings.tickInterval := honTime
  refine ⟨honTime.overdue, fun hstrict => ?_⟩
  have htardy : e.tardy = false := by
    rw [honTime.tardy, Record.isTardy, hstrict, Tolerance.isTardy, decide_eq_false_iff_not]
    exact Nat.not_lt.mpr honTime.overdue
  exact ⟨htardy, e.turn_of_not_tardy htardy⟩

/-- Half a second after the start of 1970. -/
def halfSecond : Instant := ⟨500000000, by decide, by decide⟩

/-- A second after the start of 1970. -/
def oneSecond : Instant := ⟨1000000000, by decide, by decide⟩

/-- A service that ticks at `.epoch` and a second later. In between an action queues a record
without a delay at the very time of the first tick, and a client one that is due at the second. -/
def secondApart : List TimedEvent :=
  let action : DispatchAction := ⟨"now", .dispatch, .plain (.text "0 seconds"), .zero⟩
  [
    ⟨.epoch, .beginTick .epoch⟩,
    ⟨.epoch, .dispatch action (.constant (.error ⟨["no answer"]⟩)) .epoch (fun _ => ⟨1⟩)
      ⟨.submission "a" "s", .poll, false⟩⟩,
    ⟨halfSecond, .client (.enqueue
      (.plain ⟨2⟩ (.submission "b" "s") .dispatch (.ofMillis 500) halfSecond))⟩,
    ⟨oneSecond, .beginTick oneSecond⟩
  ]

/-- The second tick of that run claims both records, the first as late as a whole interval. Neither
is tardy. -/
theorem not_tardy_of_keepsPace_secondApart :
    (new "q" .standard).KeepsPace (secondApart ++ []) ∧
    (((new "q" .standard).runTimed secondApart).ticks.map fun t =>
      t.unfinished.map fun e => (e.record.id.bits, (e.record.overdue t.now).nanos, e.tardy)) =
        [[], [(1, 1000000000, false), (2, 0, false)]] ∧
    (∀ t ∈ ((new "q" .standard).runTimed secondApart).ticks, ∀ e ∈ t.unfinished,
      e.record.tolerance = .strict → e.tardy = false) := by
  have hstamps : ∀ a ∈ (new "q" .standard).admissions (secondApart ++ []),
      a.2.queuedAt = a.1 ∧ .epoch ≤ a.2.queuedAt := by
    have hall : ((new "q" .standard).admissions (secondApart ++ [])).all
        (fun a => decide (a.2.queuedAt = a.1 ∧ .epoch ≤ a.2.queuedAt)) = true := by decide +kernel
    exact fun a ha => of_decide_eq_true (List.all_eq_true.mp hall a ha)
  have hreadings : TimedEvent.readings (secondApart ++ []) = [.epoch, oneSecond] := rfl
  have hpace : (new "q" .standard).KeepsPace (secondApart ++ []) := {
    forward := by decide
    stamped := fun a ha => (hstamps a ha).1
    read := by
      have hrefl : ∀ t : Instant, t ≤ t := fun t => Int.le_refl t.nanos
      simp [secondApart, TimedEvent.reading?, hrefl]
    opened := by
      intro first hfirst a ha
      obtain rfl : .epoch = first := by
        rw [hreadings] at hfirst
        exact Option.some.inj hfirst
      exact (hstamps a ha).2
    regular := by
      rw [hreadings, List.isChain_pair]
      exact ⟨by decide, by decide⟩
  }
  refine ⟨hpace, ?_, fun t ht e he hstrict => ?_⟩
  · simp only [secondApart, runTimed, run, List.map_cons, List.map_nil, List.foldl_cons,
      List.foldl_nil, step, Scheduler.beginTick, Tick.begin, Queue.claimDue_eq_foldr]
    rfl
  · exact ((not_tardy_of_keepsPace "q" .standard secondApart [] hpace t ht e he).2 hstrict).1

end Service

end Deferral

import Deferral.Dispatch.Record

/-!
# The due time of a record

Whether a record is due and by how much it is late are worked out from the time that has passed
since it was queued. The due time is worked out the other way round, by adding the delay to that
time, and need not lie within the calendar. All three tell the same story: a due time beyond the
calendar is one that no clock reaches.

## Main results

* `nanos_overdue` — by how much a record is late, as a difference of instants;
* `dueAt?_eq_none_iff` — when there is no due time;
* `isDue_iff_dueAt?` — a record is due from its due time on, and late by what has passed since.
-/

namespace Deferral

namespace Record

variable {r : Record} {now t : Instant}

/-- A record is late by what has passed since its delay was over, and not at all before. -/
theorem nanos_overdue (r : Record) (now : Instant) :
    (r.overdue now).nanos = (now.nanos - (r.queuedAt.nanos + r.delay.nanos)).toNat := by
  rw [overdue]
  cases h : r.queuedAt.elapsed? now with
  | none =>
      rw [Instant.elapsed?_eq_none_iff] at h
      show 0 = _
      omega
  | some elapsed =>
      rw [Instant.elapsed?_eq_some_iff] at h
      show elapsed.nanos - r.delay.nanos = _
      omega

/-- A record that is not due is not late. -/
theorem overdue_eq_zero_of_not_isDue (h : ¬ r.isDue now = true) : r.overdue now = .zero := by
  rw [isDue_iff] at h
  ext
  rw [nanos_overdue]
  show _ = 0
  omega

/-- The due time is the time at which the record was queued with its delay added. -/
theorem nanos_of_dueAt? (h : r.dueAt? = some t) :
    t.nanos = r.queuedAt.nanos + r.delay.nanos :=
  (Instant.after?_eq_some_iff.mp h).2

/-- There is no due time exactly if the delay is longer than can be added to an instant or ends past
the calendar. -/
theorem dueAt?_eq_none_iff :
    r.dueAt? = none ↔
      longestStep < r.delay.nanos ∨ calendarLast < r.queuedAt.nanos + r.delay.nanos :=
  Instant.after?_eq_none_iff

/-- A record without a due time is never due: the calendar is shorter than the longest span that can
be added to an instant. -/
theorem not_isDue_of_dueAt?_eq_none (h : r.dueAt? = none) (now : Instant) :
    ¬ r.isDue now = true := by
  rw [isDue_iff]
  have hfirst := r.queuedAt.first_le
  have hlast := now.le_last
  rcases dueAt?_eq_none_iff.mp h with hstep | hpast
  · simp only [longestStep, calendarFirst, calendarLast] at *
    omega
  · omega

/-- **The due time.** A record that has a due time is due exactly from then on, and it is late by
what has passed since then, before then by nothing. A record has none if its delay is longer than
can be added to an instant or ends past the calendar, and then it is due at no time and never
late. -/
theorem isDue_iff_dueAt? (r : Record) (now : Instant) :
    (∀ t, r.dueAt? = some t →
      (r.isDue now = true ↔ t ≤ now) ∧
      (t ≤ now → ((r.overdue now).nanos : Int) = now.nanos - t.nanos) ∧
      (¬ t ≤ now → r.overdue now = .zero)) ∧
    (r.dueAt? = none → r.isDue now = false ∧ r.overdue now = .zero) ∧
    (r.dueAt? = none ↔
      longestStep < r.delay.nanos ∨ calendarLast < r.queuedAt.nanos + r.delay.nanos) := by
  refine ⟨fun t ht => ?_, fun h => ?_, dueAt?_eq_none_iff⟩
  · have hsum := nanos_of_dueAt? ht
    have hdue : r.isDue now = true ↔ t ≤ now := by
      rw [isDue_iff, ← hsum]
      rfl
    refine ⟨hdue, fun hle => ?_, fun hlt => ?_⟩
    · replace hle : t.nanos ≤ now.nanos := hle
      rw [nanos_overdue]
      omega
    · exact overdue_eq_zero_of_not_isDue (mt hdue.mp hlt)
  · have hnot := not_isDue_of_dueAt?_eq_none h now
    exact ⟨Bool.not_eq_true _ ▸ hnot, overdue_eq_zero_of_not_isDue hnot⟩

/-- The first instant of the calendar. -/
def dawn : Instant := ⟨calendarFirst, by decide, by decide⟩

/-- The last instant of the calendar. -/
def dusk : Instant := ⟨calendarLast, by decide, by decide⟩

/-- A record that is queued at the first instant with a delay. -/
def atDawn (delay : Span) : Record :=
  .plain ⟨1⟩ (.submission "a" "s") .dispatch delay dawn

/-- A delay as long as the calendar. -/
def wholeCalendar : Span := ⟨(calendarLast - calendarFirst).toNat, by decide⟩

/-- With a delay as long as the calendar a record is due at the last instant and not late then. With
one nanosecond more it is never due. -/
theorem isDue_iff_dueAt?_wholeCalendar :
    ((atDawn wholeCalendar).dueAt? = some dusk ∧ (atDawn wholeCalendar).isDue dusk = true ∧
      ((atDawn wholeCalendar).overdue dusk).nanos = 0) ∧
    (atDawn ⟨wholeCalendar.nanos + 1, by decide⟩).dueAt? = none ∧
    (atDawn ⟨wholeCalendar.nanos + 1, by decide⟩).isDue dusk = false := by
  have hdue : (atDawn wholeCalendar).dueAt? = some dusk := by decide
  have hnone : (atDawn ⟨wholeCalendar.nanos + 1, by decide⟩).dueAt? = none := by decide
  obtain ⟨hiff, hlate, -⟩ := (isDue_iff_dueAt? (atDawn wholeCalendar) dusk).1 dusk hdue
  refine ⟨⟨hdue, hiff.mpr (by decide), ?_⟩, hnone, ((isDue_iff_dueAt? _ dusk).2.1 hnone).1⟩
  have hzero := hlate (by decide)
  rw [Int.sub_self] at hzero
  exact Int.ofNat_inj.mp hzero

end Record

end Deferral

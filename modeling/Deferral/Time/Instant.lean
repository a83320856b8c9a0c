import Deferral.Time.Span

/-!
# Instants

An instant is a point on the time line of a calendar.

## Main results

* `elapsed?_eq_some_iff`, `elapsed?_eq_none_iff` — the span from one instant to another exists
  exactly when the second is not earlier, and is their difference;
* `after?_eq_some_iff`, `after?_eq_none_iff` — adding a span succeeds exactly when the span has at
  most 2⁶³ - 1 milliseconds and the sum lies within the calendar.
-/

namespace Deferral

/-! ### The calendar

Days counted from the first of January 1970, and the dates of the proleptic Gregorian calendar. The
year is taken to start in March, so that the leap day is its last; 400 years have 146097 days. -/

/-- A calendar date; years before the first are zero and below. -/
structure Date where
  year : Int
  month : Nat
  day : Nat
deriving DecidableEq, Repr

namespace Date

/-- Whether the year has a leap day. -/
def isLeapYear (year : Int) : Bool :=
  year % 4 == 0 && (year % 100 != 0 || year % 400 == 0)

/-- The number of days of a month; none for a number that is no month. -/
def daysInMonth (year : Int) (month : Nat) : Nat :=
  match month with
  | 2 => if isLeapYear year then 29 else 28
  | 4 | 6 | 9 | 11 => 30
  | 1 | 3 | 5 | 7 | 8 | 10 | 12 => 31
  | _ => 0

/-- Whether the date names a day. -/
def isValid (d : Date) : Bool := 1 ≤ d.day && d.day ≤ daysInMonth d.year d.month

/-- The number of days from the first of January 1970 to the date. -/
def toDays (d : Date) : Int :=
  let year : Int := if d.month ≤ 2 then d.year - 1 else d.year
  let month : Int := if d.month ≤ 2 then d.month + 9 else d.month - 3
  let era := year / 400
  let yearOfEra := year % 400
  let dayOfYear := (153 * month + 2) / 5 + d.day - 1
  let dayOfEra := yearOfEra * 365 + yearOfEra / 4 - yearOfEra / 100 + dayOfYear
  era * 146097 + dayOfEra - 719468

/-- The date that many days after the first of January 1970. -/
def ofDays (days : Int) : Date :=
  let shifted := days + 719468
  let era := shifted / 146097
  let dayOfEra := shifted % 146097
  let yearOfEra :=
    (dayOfEra - dayOfEra / 1460 + dayOfEra / 36524 - dayOfEra / 146096) / 365
  let dayOfYear := dayOfEra - (365 * yearOfEra + yearOfEra / 4 - yearOfEra / 100)
  let month := (5 * dayOfYear + 2) / 153
  let day := dayOfYear - (153 * month + 2) / 5 + 1
  let month := if month < 10 then month + 3 else month - 9
  let year := yearOfEra + era * 400
  ⟨if month ≤ 2 then year + 1 else year, month.toNat, day.toNat⟩

end Date

/-! ### Instants

An instant is a number of nanoseconds from the start of 1970 in universal time, within the years
-262143 to 262142 of the calendar. The clock of a container is such an instant that moves only when
it is told to. -/

/-- The first nanosecond of the calendar. -/
def calendarFirst : Int := -8334601228800000000000

/-- The last nanosecond of the calendar. -/
def calendarLast : Int := 8210266876799999999999

/-- The longest span that can be added to an instant: 2⁶³ - 1 milliseconds. -/
def longestStep : Nat := 9223372036854775807000000

/-- A point in time within the calendar. -/
structure Instant where
  nanos : Int
  first_le : calendarFirst ≤ nanos
  le_last : nanos ≤ calendarLast
deriving DecidableEq

namespace Instant

/-- Instants are equal if their nanoseconds are. -/
@[ext] theorem ext {a b : Instant} (h : a.nanos = b.nanos) : a = b := by
  cases a; cases b; simp_all

instance : LE Instant := ⟨fun a b => a.nanos ≤ b.nanos⟩

instance : LT Instant := ⟨fun a b => a.nanos < b.nanos⟩

instance (a b : Instant) : Decidable (a ≤ b) := inferInstanceAs (Decidable (a.nanos ≤ b.nanos))

instance (a b : Instant) : Decidable (a < b) := inferInstanceAs (Decidable (a.nanos < b.nanos))

/-- The start of 1970. -/
def epoch : Instant := ⟨0, by decide, by decide⟩

instance : Inhabited Instant := ⟨epoch⟩

/-- A number of nanoseconds as an instant, if it lies within the calendar. -/
def ofNanos? (n : Int) : Option Instant :=
  if h : calendarFirst ≤ n ∧ n ≤ calendarLast then some ⟨n, h.1, h.2⟩ else none

/-- The instant that comes a span after `t`, unless the span is too long to be added or the sum
lies past the calendar. -/
def after? (t : Instant) (d : Span) : Option Instant :=
  if d.nanos ≤ longestStep then ofNanos? (t.nanos + d.nanos) else none

/-- The span from `start` to `now`; none if `now` is earlier. -/
def elapsed? (start now : Instant) : Option Span :=
  if h : start.nanos ≤ now.nanos then
    some ⟨(now.nanos - start.nanos).toNat, by
      have h₁ := start.first_le
      have h₂ := now.le_last
      simp only [calendarFirst, calendarLast, spanLimit] at *
      omega⟩
  else none

/-- The span from one instant to another is their difference. -/
theorem elapsed?_eq_some_iff {start now : Instant} {d : Span} :
    elapsed? start now = some d ↔ (d.nanos : Int) = now.nanos - start.nanos := by
  unfold elapsed?
  split
  · rename_i h
    rw [Option.some.injEq, Span.ext_iff]
    constructor
    · intro e
      rw [← e]
      show ((now.nanos - start.nanos).toNat : Int) = _
      omega
    · intro e
      show (now.nanos - start.nanos).toNat = d.nanos
      omega
  · simp only [reduceCtorEq, false_iff]
    omega

/-- There is no span to an earlier instant. -/
theorem elapsed?_eq_none_iff {start now : Instant} :
    elapsed? start now = none ↔ now.nanos < start.nanos := by
  unfold elapsed?
  split
  · rename_i h
    simp only [reduceCtorEq, false_iff]
    omega
  · rename_i h
    simp only [true_iff]
    omega

/-- An instant moved by a span, as long as neither the span nor the sum is too large. -/
theorem after?_eq_some_iff {t u : Instant} {d : Span} :
    after? t d = some u ↔ d.nanos ≤ longestStep ∧ u.nanos = t.nanos + d.nanos := by
  unfold after? ofNanos?
  split
  · rename_i h
    simp only [h, true_and]
    split
    · rw [Option.some.injEq, Instant.ext_iff]
      exact eq_comm
    · rename_i hn
      simp only [reduceCtorEq, false_iff]
      intro e
      exact hn (e ▸ ⟨u.first_le, u.le_last⟩)
  · rename_i h
    simp only [reduceCtorEq, false_iff]
    exact fun e => h e.1

/-- When an instant cannot be moved by a span. -/
theorem after?_eq_none_iff {t : Instant} {d : Span} :
    after? t d = none ↔ longestStep < d.nanos ∨ calendarLast < t.nanos + d.nanos := by
  have hfirst := t.first_le
  unfold after? ofNanos?
  split
  · split
    · simp only [reduceCtorEq, false_iff]
      omega
    · simp only [true_iff]
      omega
  · simp only [true_iff]
    omega

/-- Why a clock could not be moved. -/
inductive ClockError where
  /-- The clock would leave the calendar. -/
  | pastCalendar
deriving DecidableEq, Repr

/-- The words for a clock that could not be moved. -/
def ClockError.message : ClockError → String
  | pastCalendar => "`DateTime + TimeDelta` overflowed"

/-- A clock moved forward. A span too long to be added leaves it where it is. -/
def advance (clock : Instant) (d : Span) : Except ClockError Instant :=
  if d.nanos ≤ longestStep then
    match ofNanos? (clock.nanos + d.nanos) with
    | some t => .ok t
    | none => .error .pastCalendar
  else .ok clock

end Instant

end Deferral

import Deferral.Decimal.Double

/-!
# Spans of time

A span is a whole number of nanoseconds, never negative, of fewer than 2⁶⁴ seconds.
-/

namespace Deferral

/-- Nanoseconds in a second. -/
def nanosPerSecond : Nat := 1000000000

/-- The number of nanoseconds that no span reaches: 2⁶⁴ seconds. -/
def spanLimit : Nat := 18446744073709551616000000000

/-- A span of time. -/
structure Span where
  nanos : Nat
  nanos_lt : nanos < spanLimit
deriving DecidableEq

namespace Span

/-- Spans are equal if their nanoseconds are. -/
@[ext] theorem ext {a b : Span} (h : a.nanos = b.nanos) : a = b := by
  cases a; cases b; simp_all

instance : LE Span := ⟨fun a b => a.nanos ≤ b.nanos⟩

instance : LT Span := ⟨fun a b => a.nanos < b.nanos⟩

instance (a b : Span) : Decidable (a ≤ b) := inferInstanceAs (Decidable (a.nanos ≤ b.nanos))

instance (a b : Span) : Decidable (a < b) := inferInstanceAs (Decidable (a.nanos < b.nanos))

/-- The span without length. -/
def zero : Span := ⟨0, by decide⟩

instance : Inhabited Span := ⟨zero⟩

/-- A number of nanoseconds as a span, if it is below the limit. -/
def ofNanos? (n : Nat) : Option Span :=
  if h : n < spanLimit then some ⟨n, h⟩ else none

/-- A number of nanoseconds, cut to the longest span. -/
def ofNanosClamped (n : Nat) : Span :=
  if h : n < spanLimit then ⟨n, h⟩ else ⟨spanLimit - 1, by decide⟩

/-- Whole seconds. -/
def ofSeconds (n : Nat) : Span := ofNanosClamped (nanosPerSecond * n)

/-- Whole milliseconds. -/
def ofMillis (n : Nat) : Span := ofNanosClamped (1000000 * n)

/-- The whole seconds of a span. -/
def seconds (d : Span) : Nat := d.nanos / nanosPerSecond

/-- The nanoseconds of a span beyond its whole seconds. -/
def subsecond (d : Span) : Nat := d.nanos % nanosPerSecond

/-- What is left of a span after another, and nothing if the other is longer. -/
def sub (a b : Span) : Span := ⟨a.nanos - b.nanos, Nat.lt_of_le_of_lt (Nat.sub_le ..) a.nanos_lt⟩

/-- The span nearest to a number of seconds, a half nanosecond to the even neighbour; none for a
number that is not finite, below zero, or too large. -/
def ofDouble? : Double → Option Span
  | .finite negative m scale =>
      if negative && m != 0 then none
      else
        let n := nanosPerSecond * m
        ofNanos?
          (if 0 ≤ scale then n * Nat.pow 2 scale.toNat
          else Double.roundDiv n (Nat.pow 2 (-scale).toNat))
  | _ => none

/-- The number of seconds, rounded once for the whole seconds and once for the fraction. -/
def toDouble (d : Span) : Double :=
  Double.add (Double.ofNat d.seconds) (Double.ofRatio false d.subsecond nanosPerSecond)

end Span

end Deferral

import Deferral.Time.Instant
import Deferral.Text.Basic
import Deferral.Decimal.Layout
import Deferral.Json.Decode

/-!
# Timestamps

Instants and spans as they are written and read.
-/

namespace Deferral.Timestamp

/-! ### RFC 3339

Instants are written as RFC 3339 timestamps in universal time, with no, three, six or nine digits
of fraction, the fewest that are exact. Reading is more lenient: any offset, a space for the `T`,
single digits, blanks between the parts. -/

open Text

/-- The last `width` digits of a number, padded with zeros. -/
def padded (width n : Nat) : List Char :=
  let ds := Decimal.natText n
  List.replicate (width - ds.length) '0' ++ ds

/-- A year: four digits, with a sign outside the years 0 to 9999. -/
def yearText (year : Int) : List Char :=
  if 0 ≤ year ∧ year ≤ 9999 then padded 4 year.toNat
  else (if year < 0 then '-' else '+') :: padded 4 year.natAbs

/-- The fraction of a second with the fewest of no, three, six or nine digits. -/
def fractionText (nanos : Nat) : List Char :=
  if nanos == 0 then []
  else if nanos % 1000000 == 0 then '.' :: padded 3 (nanos / 1000000)
  else if nanos % 1000 == 0 then '.' :: padded 6 (nanos / 1000)
  else '.' :: padded 9 nanos

/-- Nanoseconds in a day. -/
def nanosPerDay : Int := 86400000000000

/-- The timestamp of an instant. -/
def render (t : Instant) : List Char :=
  let date := Date.ofDays (t.nanos / nanosPerDay)
  let inDay := (t.nanos % nanosPerDay).toNat
  let second := inDay / nanosPerSecond
  yearText date.year ++ '-' :: padded 2 date.month ++ '-' :: padded 2 date.day ++
    'T' :: padded 2 (second / 3600) ++ ':' :: padded 2 (second / 60 % 60) ++
    ':' :: padded 2 (second % 60) ++ fractionText (inDay % nanosPerSecond) ++ ['Z']

/-- One to `width` digits after blanks, as a number. -/
def takeNumber? (width : Nat) (cs : List Char) : Option (Nat × List Char) :=
  let r := trimStart cs
  let ds := (r.take width).takeWhile Char.isDigit
  (readDigits? ds).map fun n => (n, r.drop ds.length)

/-- A year: up to four digits, or any number of digits after a sign. -/
def takeYear? (cs : List Char) : Option (Int × List Char) :=
  let r := trimStart cs
  let signed (digits : List Char) (f : Nat → Int) : Option (Int × List Char) :=
    let ds := digits.takeWhile Char.isDigit
    (readDigits? ds).map fun n => (f n, digits.drop ds.length)
  match r with
  | '-' :: digits => signed digits fun n => -(n : Int)
  | '+' :: digits => signed digits Int.ofNat
  | _ => (takeNumber? 4 r).map fun (n, rest) => ((n : Int), rest)

/-- A separator after blanks. -/
def takeMark? (mark : Char) (cs : List Char) : Option (List Char) :=
  match trimStart cs with
  | c :: r => if c == mark then some r else none
  | [] => none

/-- A fraction of a second in nanoseconds; digits beyond the ninth are dropped. -/
def takeFraction? (cs : List Char) : Option (Nat × List Char) :=
  match cs with
  | '.' :: r =>
      let ds := r.takeWhile Char.isDigit
      let kept := ds.take 9
      (readDigits? kept).map fun n => (n * Nat.pow 10 (9 - kept.length), r.drop ds.length)
  | r => some (0, r)

/-- Two digits as a number up to `limit`. -/
def takePair? (limit : Nat) (cs : List Char) : Option (Nat × List Char) :=
  match cs with
  | a :: b :: r =>
      ((readDigits? [a, b]).filter (· ≤ limit)).map fun n => (n, r)
  | _ => none

/-- The sign of an offset: a plus, a hyphen or the minus sign proper. -/
def takeOffsetSign? (cs : List Char) : Option (Bool × List Char) :=
  match cs with
  | '+' :: r => some (false, r)
  | '-' :: r | '\u2212' :: r => some (true, r)
  | _ => none

/-- An offset from universal time in seconds: a letter for none, or hours and minutes. -/
def takeOffset? (cs : List Char) : Option (Int × List Char) :=
  match trimStart cs with
  | 'Z' :: r | 'z' :: r => some (0, r)
  | r =>
      if (r.take 3).map Char.toUpper == ['U', 'T', 'C'] then some (0, r.drop 3)
      else do
        let (negative, r) ← takeOffsetSign? r
        let (hours, r) ← takePair? 99 r
        let r := r.dropWhile fun c => c == ':' || isBlank c
        let (minutes, r) ← takePair? 59 r
        let seconds : Int := hours * 3600 + minutes * 60
        if seconds < 86400 then some (if negative then -seconds else seconds, r) else none

/-- The instant of a timestamp. -/
def read? (cs : List Char) : Option Instant := do
  let (year, r) ← takeYear? cs
  let r ← takeMark? '-' r
  let (month, r) ← takeNumber? 2 r
  let r ← takeMark? '-' r
  let (day, r) ← takeNumber? 2 r
  let r ← match r with
    | 'T' :: r | 't' :: r | ' ' :: r => some r
    | _ => none
  let (hour, r) ← takeNumber? 2 r
  let r ← takeMark? ':' r
  let (minute, r) ← takeNumber? 2 r
  let r ← takeMark? ':' r
  let (second, r) ← takeNumber? 2 r
  let (nanos, r) ← takeFraction? r
  let (offset, r) ← takeOffset? r
  if !(trimStart r).isEmpty then none
  let date : Date := ⟨year, month, day⟩
  if !(date.isValid && hour ≤ 23 && minute ≤ 59 && second ≤ 60) then none
  let seconds : Int := date.toDays * 86400 + hour * 3600 + minute * 60 + second - offset
  Instant.ofNanos? (seconds * nanosPerSecond + nanos)

end Deferral.Timestamp

namespace Deferral

/-! ### Spans and instants in JSON

A span is an object of whole seconds and nanoseconds; an instant is its timestamp. -/

namespace Span

/-- The fields of a span. -/
def shape : List Json.Field := [.required "secs", .required "nanos"]

/-- A span as an object. -/
def toJson (d : Span) : Json := .obj [("nanos", .nat d.subsecond), ("secs", .nat d.seconds)]

/-- Reads a span. A second or more of nanoseconds carries into the seconds. -/
def ofJson? (j : Json) : Option Span :=
  match Json.closedFields? shape j with
  | some [secs, nanos] => do
      let s ← Json.required Json.asUnsigned64? secs
      let n ← Json.required (Json.asNat? Text.maxUnsigned32) nanos
      ofNanos? (nanosPerSecond * s + n)
  | _ => none

end Span

namespace Instant

/-- An instant as its timestamp. -/
def toJson (t : Instant) : Json := Json.text (Timestamp.render t)

/-- Reads an instant from a timestamp. -/
def ofJson? : Json → Option Instant
  | .str s => Timestamp.read? s.toList
  | _ => none

end Instant

end Deferral

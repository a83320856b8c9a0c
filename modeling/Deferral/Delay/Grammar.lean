import Deferral.Decimal.Double
import Deferral.Decimal.Literal
import Deferral.Text.Basic

/-!
# Two ways to write a delay

A delay is written as tokens, each a number and a unit, or in the ISO 8601 form, whose letters stand
for the units in a fixed order. Both are read into the same list of amounts, so that their sum does
not depend on the way they were written.
-/

namespace Deferral

/-! ### Units of delay

The units that operators measure delays in, their names and their lengths in seconds. A month has
30 days and a year 365. -/

/-- A unit of time. -/
inductive TimeUnit where
  | year
  | month
  | week
  | day
  | hour
  | minute
  | second
  | millisecond
deriving DecidableEq, Repr

namespace TimeUnit

/-- The length of a unit in seconds. -/
def seconds : TimeUnit → Double
  | year => Double.ofNat 31536000
  | month => Double.ofNat 2592000
  | week => Double.ofNat 604800
  | day => Double.ofNat 86400
  | hour => Double.ofNat 3600
  | minute => Double.ofNat 60
  | second => Double.ofNat 1
  | millisecond => Double.ofRatio false 1 1000

/-- Every unit with the names that operators may give it. -/
def names : List (TimeUnit × List String) :=
  [
    (millisecond, ["ms", "msec", "msecs", "millisecond", "milliseconds"]),
    (second, ["s", "sec", "secs", "second", "seconds"]),
    (minute, ["m", "min", "mins", "minute", "minutes"]),
    (hour, ["h", "hr", "hrs", "hour", "hours"]),
    (day, ["d", "day", "days"]),
    (week, ["w", "wk", "wks", "week", "weeks"]),
    (month, ["mo", "month", "months"]),
    (year, ["y", "yr", "yrs", "year", "years"])
  ]

/-- The unit that a lower-case name stands for. -/
def named? (name : List Char) : Option TimeUnit :=
  (names.find? fun row => row.2.any fun n => n.toList == name).map (·.1)

end TimeUnit

end Deferral

namespace Deferral.Delay

/-! ### Numerals and amounts -/

open Text

/-- A decimal number without sign and exponent. -/
structure Numeral where
  whole : List Char
  fraction : List Char
deriving DecidableEq, Repr

/-- The number nearest to a numeral. -/
def Numeral.value (n : Numeral) : Double :=
  Decimal.Literal.value ⟨false, n.whole, n.fraction, 0⟩

/-- A number of units. -/
structure Amount where
  numeral : Numeral
  unit : TimeUnit
deriving DecidableEq, Repr

/-- The seconds of one amount. -/
def Amount.seconds (a : Amount) : Double := a.numeral.value.mul a.unit.seconds

/-- The seconds of several amounts, added in their order. -/
def totalSeconds (amounts : List Amount) : Double :=
  amounts.foldl (fun sum a => sum.add a.seconds) Double.zero

/-- Digits, and a point with digits after it if they follow. -/
def takeNumeral? (cs : List Char) : Option (Numeral × List Char) :=
  let whole := cs.takeWhile Char.isDigit
  let rest := cs.dropWhile Char.isDigit
  if whole.isEmpty then none
  else
    match rest with
    | '.' :: r =>
        let fraction := r.takeWhile Char.isDigit
        if fraction.isEmpty then some (⟨whole, []⟩, rest)
        else some (⟨whole, fraction⟩, r.dropWhile Char.isDigit)
    | _ => some (⟨whole, []⟩, rest)

/-! ### Tokens -/

/-- The letters of a unit: the ASCII letters and the two characters that differ from one of them in
case only. -/
def isUnitLetter (c : Char) : Bool := c.isAlpha || c == '\u017F' || c == '\u212A'

/-- What may stand before a token. -/
def isSeparator (c : Char) : Bool := isBlank c || c == ','

/-- A token: a numeral, blanks, and the letters of a unit. -/
def takeToken? (cs : List Char) : Option (Numeral × List Char × List Char) :=
  match takeNumeral? cs with
  | none => none
  | some (numeral, r) =>
      let r := trimStart r
      let letters := r.takeWhile isUnitLetter
      if letters.isEmpty then none else some (numeral, letters, r.dropWhile isUnitLetter)

/-- Why a text is no sequence of tokens. -/
inductive TokenError where
  /-- Something other than a token stands there. -/
  | noToken
  /-- The letters, in lower case, are the name of no unit. -/
  | unknownUnit (letters : List Char)
deriving DecidableEq, Repr

/-- Reads tokens until the text ends, at most `fuel` of them. -/
def readTokens : Nat → List Char → Except TokenError (List Amount)
  | _, [] => .ok []
  | 0, _ => .error .noToken
  | fuel + 1, cs =>
      match takeToken? (cs.dropWhile isSeparator) with
      | none => .error .noToken
      | some (numeral, letters, rest) =>
          let name := letters.map Char.toLower
          match TimeUnit.named? name with
          | none => .error (.unknownUnit name)
          | some unit =>
              match readTokens fuel rest with
              | .ok amounts => .ok (⟨numeral, unit⟩ :: amounts)
              | .error e => .error e

/-- The amounts of a text of tokens, of which there are no more than characters. -/
def tokens (cs : List Char) : Except TokenError (List Amount) := readTokens cs.length cs

/-! ### The ISO 8601 form -/

/-- The letters of the date part, in order. -/
def dateMarks : List (Char × TimeUnit) :=
  [('Y', .year), ('M', .month), ('W', .week), ('D', .day)]

/-- The letters of the time part, in order. -/
def timeMarks : List (Char × TimeUnit) := [('H', .hour), ('M', .minute), ('S', .second)]

/-- A numeral with the given letter after it. -/
def takeComponent? (mark : Char) (cs : List Char) : Option (Numeral × List Char) :=
  match takeNumeral? cs with
  | some (numeral, c :: r) => if c == mark then some (numeral, r) else none
  | _ => none

/-- The components that stand at the front of a text, each at most once and in order. -/
def takeComponents : List (Char × TimeUnit) → List Char → List Amount × List Char
  | [], cs => ([], cs)
  | (mark, unit) :: marks, cs =>
      match takeComponent? mark cs with
      | some (numeral, r) =>
          let (amounts, rest) := takeComponents marks r
          (⟨numeral, unit⟩ :: amounts, rest)
      | none => takeComponents marks cs

/-- The amounts of an ISO 8601 delay, given what follows its `P`: at least one component, and at
least one after a `T`. -/
def isoComponents? (cs : List Char) : Option (List Amount) :=
  match takeComponents dateMarks cs with
  | (date, []) => if date.isEmpty then none else some date
  | (date, 'T' :: r) =>
      match takeComponents timeMarks r with
      | (time, []) => if time.isEmpty then none else some (date ++ time)
      | _ => none
  | _ => none

end Deferral.Delay

import Deferral.Decimal.Double
import Deferral.Text.Basic

/-!
# Reading decimal numbers

Decimal numbers are read in two ways: the one that settings and delays go by rounds once, to the
nearest number; the one for stored data rounds at every step.
-/

namespace Deferral.Decimal

/-! ### Decimal literals

A number as an operator writes it: an optional sign, then digits with at most one point among or
around them and an optional exponent, or a word for infinity or for what is not a number. -/

/-- The parts of a decimal literal: sign, digits before and after the point, exponent. -/
structure Literal where
  negative : Bool
  whole : List Char
  fraction : List Char
  exponent : Int
deriving DecidableEq, Repr

/-- The number nearest to a literal. -/
def Literal.value (l : Literal) : Double :=
  Double.ofDecimal l.negative (Text.digitsValue 0 (l.whole ++ l.fraction))
    (l.exponent - l.fraction.length)

/-- A sign taken off the front of a text. -/
def takeSign : List Char → Bool × List Char
  | '-' :: r => (true, r)
  | '+' :: r => (false, r)
  | r => (false, r)

/-- The exponent part: nothing, or the letter and a signed run of digits. -/
def readExponent? : List Char → Option Int
  | [] => some 0
  | c :: r =>
      if c == 'e' || c == 'E' then
        let (negative, digits) := takeSign r
        (Text.readDigits? digits).map fun n => if negative then -(n : Int) else n
      else none

/-- A literal without its sign. -/
def readUnsigned? (negative : Bool) (cs : List Char) : Option Literal :=
  let whole := cs.takeWhile Char.isDigit
  let rest := cs.dropWhile Char.isDigit
  let (fraction, rest) := match rest with
    | '.' :: r => (r.takeWhile Char.isDigit, r.dropWhile Char.isDigit)
    | r => ([], r)
  if whole.isEmpty && fraction.isEmpty then none
  else (readExponent? rest).map fun e => ⟨negative, whole, fraction, e⟩

/-- The number that a text is a literal of. -/
def readDouble? (cs : List Char) : Option Double :=
  let (negative, r) := takeSign cs
  let word := r.map Char.toLower
  if word == ['i', 'n', 'f'] || word == ['i', 'n', 'f', 'i', 'n', 'i', 't', 'y'] then
    some (.infinite negative)
  else if word == ['n', 'a', 'n'] then some (.nan negative)
  else (readUnsigned? negative r).map Literal.value

/-! ### Digits scaled by a power of ten

A quick way to read a decimal number: as many of its digits as fit 64 bits make a whole number,
which is then multiplied or divided by a power of ten. Each step rounds, so that the result is the
nearest number only while digits and exponent are small, and otherwise a number close to it. -/

/-- Digits read as a whole number, and the power of ten that it stands before. -/
structure Scaled where
  digits : Nat
  exponent : Int
deriving DecidableEq, Repr

namespace Scaled

/-- One more digit, if the number still fits 64 bits. -/
def appendDigit? (n : Nat) (c : Char) : Option Nat :=
  let m := Text.digitsValue n [c]
  if m ≤ Text.maxUnsigned64 then some m else none

/-- The digits before the point. Those that do not fit only raise the exponent. -/
def appendWhole (n : Nat) : List Char → Scaled
  | [] => ⟨n, 0⟩
  | c :: r =>
      match appendDigit? n c with
      | some m => appendWhole m r
      | none => ⟨n, r.length + 1⟩

/-- The digits after the point. Those that do not fit are dropped. -/
def appendFraction (s : Scaled) : List Char → Scaled
  | [] => s
  | c :: r =>
      match appendDigit? s.digits c with
      | some m => appendFraction ⟨m, s.exponent - 1⟩ r
      | none => s

/-- A number from its digits before and after the point and its exponent. -/
def ofDigits (whole fraction : List Char) (exponent : Int) : Scaled :=
  let s := (appendWhole 0 whole).appendFraction fraction
  { s with exponent := s.exponent + exponent }

/-- The largest power of ten that is a finite number. -/
def mostPower : Nat := 308

/-- A power of ten, rounded. -/
def power (n : Nat) : Double := .ofDecimal false 1 n

/-- The number multiplied or divided by its power of ten. Below the least power it is divided in two
steps, and two of the largest leave nothing. -/
def magnitude (s : Scaled) : Double :=
  let x := Double.ofNat s.digits
  if mostPower < s.exponent then if s.digits = 0 then x else .infinite false
  else if 0 ≤ s.exponent then x.mul (power s.exponent.toNat)
  else if -mostPower ≤ s.exponent then x.div (power (-s.exponent).toNat)
  else if -(2 * mostPower) ≤ s.exponent then
    (x.div (power mostPower)).div (power (-s.exponent - mostPower).toNat)
  else .zero

/-- The number with its sign. -/
def value (s : Scaled) (negative : Bool) : Double :=
  if negative then s.magnitude.neg else s.magnitude

end Scaled

end Deferral.Decimal

import Deferral.Decimal.Double

/-!
# Numbers in decimal

A number is written with the fewest digits that read back, laid out as its place asks for.
-/

namespace Deferral.Decimal

/-! ### The fewest digits that read back

The decimal digits of a binary number are the fewest that still round to it, and of those the
nearest. For one, two, … seventeen digits the two neighbours of the number on that decimal grid are
tested against the interval of reals that round to the number; the first grid with a hit wins. -/

/-- Which of two equally near neighbours is taken. -/
inductive Tie where
  | upward
  | toEven
deriving DecidableEq, Repr

/-- Decimal digits, without trailing zeros, and the power of ten of the first of them. -/
structure Digits where
  digits : List Nat
  exponent : Int
deriving DecidableEq, Repr

/-- The digits of a number, the most significant first. -/
def digitsOf (n : Nat) : List Nat := (Nat.toDigits 10 n).map fun c => c.toNat - '0'.toNat

/-- The digits without the zeros at their end. -/
def dropZeros (ds : List Nat) : List Nat := (ds.reverse.dropWhile (· == 0)).reverse

/-- A fraction of natural numbers `num / den`. -/
structure Fraction where
  num : Nat
  den : Nat

/-- The fraction `n * 2 ^ two / 10 ^ ten`. -/
def Fraction.of (n : Nat) (two ten : Int) : Fraction :=
  ⟨n * Nat.pow 2 two.toNat * Nat.pow 10 (-ten).toNat,
    Nat.pow 2 (-two).toNat * Nat.pow 10 ten.toNat⟩

/-- Numerators of the ends of the interval that rounds to `m * 2 ^ scale`, in units of a quarter
of `2 ^ scale`. The lower gap is half as wide just above a power of two. -/
def interval (m : Nat) (scale : Int) : Nat × Nat :=
  (4 * m - (if m == Double.leastDigits && Double.leastScale < scale then 1 else 2), 4 * m + 2)

/-- The neighbour of `m * 2 ^ scale` on the grid of multiples of `10 ^ grid` that rounds to it, if
one does; the ends of the interval count when `m` is even. -/
def neighbour? (tie : Tie) (m : Nat) (scale grid : Int) : Option Nat :=
  let unit := Fraction.of 1 (scale - 2) grid
  let (lo, hi) := interval m scale
  let value := 4 * m * unit.num
  let down := value / unit.den
  let inside (d : Nat) : Bool :=
    let x := d * unit.den
    if m % 2 == 0 then lo * unit.num ≤ x && x ≤ hi * unit.num
    else lo * unit.num < x && x < hi * unit.num
  let twice := 2 * (value - down * unit.den)
  match inside down, inside (down + 1) with
  | true, false => some down
  | false, true => some (down + 1)
  | false, false => none
  | true, true =>
      if twice < unit.den then some down
      else if unit.den < twice then some (down + 1)
      else match tie with
        | .upward => some (down + 1)
        | .toEven => some (if down % 2 == 0 then down else down + 1)

/-- The least power of ten above `m * 2 ^ scale`. -/
def powerAbove (m : Nat) (scale : Int) : Int :=
  let guess : Int := ((Nat.log2 m : Int) + scale) * 30103 / 100000
  let below (k : Int) : Bool :=
    let f := Fraction.of m scale k
    f.num < f.den
  if below guess then guess else if below (guess + 1) then guess + 1 else guess + 2

/-- The shortest digits of the positive number `m * 2 ^ scale`. -/
def shortest (tie : Tie) (m : Nat) (scale : Int) : Digits :=
  let top := powerAbove m scale
  let hit := (List.range' 1 17).findSome? fun (n : Nat) =>
    (neighbour? tie m scale (top - n)).map fun d => (d, top - (n : Int))
  match hit with
  | some (d, grid) =>
      let ds := digitsOf d
      ⟨dropZeros ds, grid + ds.length - 1⟩
  | none => ⟨[0], 0⟩

/-! ### Layouts of decimal numbers

A layout says which numbers are written positionally and which with an exponent, and how. Two
layouts are in use: that of stored data, and that of messages. -/

/-- How the shortest digits of a number are laid out. -/
structure Layout where
  /-- Whether a number whose first digit has this power of ten is written positionally. -/
  positional : Int → Bool
  /-- Whether a whole number ends in a point and a zero. -/
  wholePoint : Bool
  /-- Which of two equally near digits is written. -/
  tie : Tie

/-- Stored numbers are positional from five places after the point up to sixteen before it; whole
numbers keep a point. -/
def Layout.stored : Layout := ⟨fun e => -5 ≤ e && e ≤ 15, true, .toEven⟩

/-- Numbers in messages are always positional, and whole numbers have no point. -/
def Layout.shown : Layout := ⟨fun _ => true, false, .upward⟩

/-- A digit as a character. -/
def digitChar (d : Nat) : Char := Char.ofNat ('0'.toNat + d)

/-- A natural number in decimal. -/
def natText (n : Nat) : List Char := Nat.toDigits 10 n

/-- An integer in decimal. -/
def intText (n : Int) : List Char :=
  if n < 0 then '-' :: natText n.natAbs else natText n.natAbs

/-- A natural number in decimal, as a string. -/
def natString (n : Nat) : String := String.ofList (natText n)

/-- An integer in decimal, as a string. -/
def intString (n : Int) : String := String.ofList (intText n)

/-- Digits with the point in its place. -/
def positionalText (wholePoint : Bool) (d : Digits) : List Char :=
  let ds := d.digits.map digitChar
  let whole := if wholePoint then ['.', '0'] else []
  if d.exponent < 0 then
    '0' :: '.' :: (List.replicate (-d.exponent - 1).toNat '0' ++ ds)
  else
    let before := d.exponent.toNat + 1
    if ds.length ≤ before then ds ++ List.replicate (before - ds.length) '0' ++ whole
    else ds.take before ++ '.' :: ds.drop before

/-- One digit, a point and the others, then the exponent with its sign. -/
def scientificText (d : Digits) : List Char :=
  let ds := d.digits.map digitChar
  let mantissa := match ds with
    | c :: r => if r.isEmpty then [c] else c :: '.' :: r
    | [] => []
  let exponent := if 0 ≤ d.exponent then '+' :: intText d.exponent else intText d.exponent
  mantissa ++ 'e' :: exponent

/-- The text of a number. -/
def Layout.render (l : Layout) : Double → List Char
  | .nan _ => ['N', 'a', 'N']
  | .infinite s => sign s ++ ['i', 'n', 'f']
  | .finite s m scale =>
      if m == 0 then sign s ++ (if l.wholePoint then ['0', '.', '0'] else ['0'])
      else
        let d := shortest l.tie m scale
        sign s ++ (if l.positional d.exponent then positionalText l.wholePoint d
          else scientificText d)
where
  sign (negative : Bool) : List Char := if negative then ['-'] else []

end Deferral.Decimal

/-!
# Binary floating point

A binary64 number is a whole number of at most 53 binary digits times a power of two, an infinity,
or not a number. Every operation computes the exact rational result and rounds it once, to the
nearest representable number and to the even neighbour on a tie.

## Main results

* `isNegative_ofRatio`, `isNegative_ofDyadic`, `isNegative_ofDecimal` — rounding keeps the sign.
-/

namespace Deferral

/-- A binary64 number. `finite negative digits scale` stands for `± digits * 2 ^ scale`. -/
inductive Double where
  | nan (negative : Bool)
  | infinite (negative : Bool)
  | finite (negative : Bool) (digits : Nat) (scale : Int)
deriving DecidableEq, Repr

namespace Double

/-- The scale of the smallest positive number. -/
def leastScale : Int := -1074

/-- The scale of the largest finite number. -/
def mostScale : Int := 971

/-- The least number of 53 binary digits. -/
def leastDigits : Nat := 0x10000000000000

/-- A quotient rounded to the nearest whole number, a half to the even neighbour. -/
def roundDiv (num den : Nat) : Nat :=
  let q := num / den
  let r := num % den
  if den < 2 * r || (2 * r == den && q % 2 == 1) then q + 1 else q

/-- Numerator and denominator of `num / den / 2 ^ scale`. -/
def scaled (num den : Nat) (scale : Int) : Nat × Nat :=
  if 0 ≤ scale then (num, den * Nat.pow 2 scale.toNat)
  else (num * Nat.pow 2 (-scale).toNat, den)

/-- The scale at which `num / den` has 53 binary digits, or the least scale. -/
def scaleOf (num den : Nat) : Int :=
  let guess : Int := (Nat.log2 num : Int) - Nat.log2 den - 52
  let (n, d) := scaled num den guess
  max leastScale (if n < leastDigits * d then guess - 1 else guess)

/-- A number from rounded digits: digits that rounding carried to 54 binary places move up one
scale, and a scale beyond the largest gives an infinity. -/
def assemble (negative : Bool) (digits : Nat) (scale : Int) : Double :=
  let carried := digits == 2 * leastDigits
  let scale := if carried then scale + 1 else scale
  if mostScale < scale then infinite negative
  else finite negative (if carried then leastDigits else digits) scale

/-- The number nearest to `± num / den`. -/
def ofRatio (negative : Bool) (num den : Nat) : Double :=
  if num == 0 then finite negative 0 leastScale
  else
    let scale := scaleOf num den
    let (n, d) := scaled num den scale
    assemble negative (roundDiv n d) scale

/-- The number nearest to `± n * 2 ^ scale`. -/
def ofDyadic (negative : Bool) (n : Nat) (scale : Int) : Double :=
  if 0 ≤ scale then ofRatio negative (n * Nat.pow 2 scale.toNat) 1
  else ofRatio negative n (Nat.pow 2 (-scale).toNat)

/-- The number nearest to a natural number. -/
def ofNat (n : Nat) : Double := ofRatio false n 1

/-- The number nearest to an integer. -/
def ofInt (n : Int) : Double := ofRatio (n < 0) n.natAbs 1

/-- The number nearest to `± digits * 10 ^ exponent`. Beyond the bounds, which no finite nonzero
number comes near, the answer is an infinity or zero. -/
def ofDecimal (negative : Bool) (digits : Nat) (exponent : Int) : Double :=
  if digits == 0 then finite negative 0 leastScale
  else if 400 < exponent then infinite negative
  else if exponent + (Nat.log2 digits / 3 : Nat) < -400 then finite negative 0 leastScale
  else if 0 ≤ exponent then ofRatio negative (digits * Nat.pow 10 exponent.toNat) 1
  else ofRatio negative digits (Nat.pow 10 (-exponent).toNat)

/-- Whether the sign bit is set. -/
def isNegative : Double → Bool
  | nan s | infinite s | finite s _ _ => s

/-- Positive zero. -/
def zero : Double := finite false 0 leastScale

/-- Negative zero, to which adding any number gives that number. -/
def negZero : Double := finite true 0 leastScale

/-- `± digits`, as an integer. -/
def signed (negative : Bool) (digits : Nat) : Int :=
  if negative then -(digits : Int) else digits

/-- The rounded sum. Opposite infinities give a number that is not one, with its sign bit set. -/
def add : Double → Double → Double
  | nan s, _ => nan s
  | _, nan s => nan s
  | infinite s, infinite t => if s == t then infinite s else nan true
  | infinite s, finite .. => infinite s
  | finite .., infinite t => infinite t
  | finite s m a, finite t n b =>
      let low := min a b
      let sum :=
        signed s (m * Nat.pow 2 (a - low).toNat) + signed t (n * Nat.pow 2 (b - low).toNat)
      if sum == 0 then finite (s && t) 0 leastScale else ofDyadic (sum < 0) sum.natAbs low

/-- The rounded product. -/
def mul : Double → Double → Double
  | nan s, _ => nan s
  | _, nan s => nan s
  | infinite s, infinite t => infinite (s != t)
  | infinite s, finite t n _ => if n == 0 then nan true else infinite (s != t)
  | finite s m _, infinite t => if m == 0 then nan true else infinite (s != t)
  | finite s m a, finite t n b => ofDyadic (s != t) (m * n) (a + b)

/-- The rounded quotient. -/
def div : Double → Double → Double
  | nan s, _ => nan s
  | _, nan s => nan s
  | infinite _, infinite _ => nan true
  | infinite s, finite t _ _ => infinite (s != t)
  | finite s _ _, infinite t => finite (s != t) 0 leastScale
  | finite s m a, finite t n b =>
      if n == 0 then if m == 0 then nan true else infinite (s != t)
      else
        let (num, den) := scaled m n (b - a)
        ofRatio (s != t) num den

/-- The number with the other sign. -/
def neg : Double → Double
  | nan s => nan !s
  | infinite s => infinite !s
  | finite s m a => finite (!s) m a

/-- Equality as numbers: the zeros are equal, and a number that is not one equals nothing. -/
def sameNumber : Double → Double → Bool
  | nan _, _ => false
  | _, nan _ => false
  | infinite s, infinite t => s == t
  | finite s m a, finite t n b => (m == 0 && n == 0) || (s == t && m == n && a == b)
  | _, _ => false

/-- The 64 bits of the number: sign, eleven bits of exponent, 52 of fraction. -/
def toBits : Double → Nat
  | nan s => sign s + 0x7FF8000000000000
  | infinite s => sign s + 0x7FF0000000000000
  | finite s m a =>
      sign s + (if m < leastDigits then m else leastDigits * (a + 1075).toNat + (m - leastDigits))
where
  sign (negative : Bool) : Nat := if negative then 0x8000000000000000 else 0

/-- A number that is put together has the sign that is asked for. -/
@[simp] theorem isNegative_assemble (s : Bool) (digits : Nat) (scale : Int) :
    (assemble s digits scale).isNegative = s := by
  simp only [assemble]
  repeat' split
  all_goals simp [isNegative]

/-- A rounded ratio has the sign that is asked for. -/
@[simp] theorem isNegative_ofRatio (s : Bool) (num den : Nat) :
    (ofRatio s num den).isNegative = s := by
  unfold ofRatio
  split
  · simp [isNegative]
  · simp

/-- So has a rounded multiple of a power of two. -/
@[simp] theorem isNegative_ofDyadic (s : Bool) (n : Nat) (scale : Int) :
    (ofDyadic s n scale).isNegative = s := by
  unfold ofDyadic
  split <;> simp

/-- So has a rounded multiple of a power of ten. -/
@[simp] theorem isNegative_ofDecimal (s : Bool) (n : Nat) (e : Int) :
    (ofDecimal s n e).isNegative = s := by
  unfold ofDecimal
  split
  · simp [isNegative]
  split
  · simp [isNegative]
  split
  · simp [isNegative]
  split <;> simp

end Double

end Deferral

/-!
# Characters and digits

What the readers and writers of the library share: numbers in decimal and hexadecimal digits, white
space, and the runs of code points that tables of character properties are made of.

## Main results

* `trim_eq_self` — a text without white space at its ends is its own trimmed form.
-/

namespace Deferral.Text

/-! ### Whole numbers in text

ASCII digits read as numbers, with the range that a setting allows. -/

/-- The number that a run of ASCII digits stands for, after the digits already read. -/
def digitsValue (start : Nat) (cs : List Char) : Nat :=
  cs.foldl (fun n c => n * 10 + (c.toNat - '0'.toNat)) start

/-- A text of one or more ASCII digits, read as a number. -/
def readDigits? (cs : List Char) : Option Nat :=
  if !cs.isEmpty && cs.all Char.isDigit then some (digitsValue 0 cs) else none

/-- An unsigned number up to `limit`, with an optional plus sign. -/
def readUnsigned? (limit : Nat) (cs : List Char) : Option Nat :=
  let digits := match cs with
    | '+' :: r => r
    | _ => cs
  (readDigits? digits).filter (· ≤ limit)

/-- A signed number whose magnitude is at most `limit`, or `limit + 1` below zero. -/
def readSigned? (limit : Nat) (cs : List Char) : Option Int :=
  match cs with
  | '-' :: r => ((readDigits? r).filter (· ≤ limit + 1)).map fun n => -(n : Int)
  | '+' :: r => ((readDigits? r).filter (· ≤ limit)).map Int.ofNat
  | _ => ((readDigits? cs).filter (· ≤ limit)).map Int.ofNat

/-- The largest number of 64 bits. -/
def maxUnsigned64 : Nat := 0xFFFFFFFFFFFFFFFF

/-- The largest signed number of 64 bits. -/
def maxSigned64 : Nat := 0x7FFFFFFFFFFFFFFF

/-- The largest number of 32 bits. -/
def maxUnsigned32 : Nat := 0xFFFFFFFF

/-- The largest number of 16 bits. -/
def maxUnsigned16 : Nat := 0xFFFF

/-! ### Hexadecimal digits -/

/-- The hexadecimal digit of a number below sixteen, in lower case. -/
def hexDigit (n : Nat) : Char :=
  if n < 10 then Char.ofNat ('0'.toNat + n) else Char.ofNat ('a'.toNat + (n - 10))

/-- `width` hexadecimal digits of a number, the most significant first. -/
def hexDigits : Nat → Nat → List Char
  | 0, _ => []
  | width + 1, n => hexDigits width (n / 16) ++ [hexDigit (n % 16)]

/-- A number in hexadecimal without leading zeros. -/
def hex (n : Nat) : List Char := hexDigits (n.log2 / 4 + 1) n

/-- The value of a hexadecimal digit in either case. -/
def hexValue? (c : Char) : Option Nat :=
  if '0' ≤ c ∧ c ≤ '9' then some (c.toNat - '0'.toNat)
  else if 'a' ≤ c ∧ c ≤ 'f' then some (c.toNat - 'a'.toNat + 10)
  else if 'A' ≤ c ∧ c ≤ 'F' then some (c.toNat - 'A'.toNat + 10)
  else none

/-- The number that hexadecimal digits stand for, after the digits already read. -/
def readHex? (start : Nat) : List Char → Option Nat
  | [] => some start
  | c :: r => (hexValue? c).bind fun v => readHex? (start * 16 + v) r

/-! ### White space

The characters with the White_Space property, and trimming them off the ends of a text. -/

/-- Characters with the White_Space property. -/
def isBlank (c : Char) : Bool :=
  let n := c.toNat
  (9 ≤ n && n ≤ 13) || n == 0x20 || n == 0x85 || n == 0xA0 || n == 0x1680 ||
    (0x2000 ≤ n && n ≤ 0x200A) || n == 0x2028 || n == 0x2029 || n == 0x202F || n == 0x205F ||
    n == 0x3000

/-- The text from its first character that is not white space. -/
def trimStart (cs : List Char) : List Char := cs.dropWhile isBlank

/-- The text up to its last character that is not white space. -/
def trimEnd (cs : List Char) : List Char := (cs.reverse.dropWhile isBlank).reverse

/-- The text without white space at either end. -/
def trim (cs : List Char) : List Char := trimEnd (trimStart cs)

/-- The code points of the digits. -/
theorem toNat_of_isDigit {c : Char} (h : c.isDigit = true) : 48 ≤ c.toNat ∧ c.toNat ≤ 57 :=
  Char.isDigit_iff_toNat.mp h

/-- No digit is white space. -/
theorem isBlank_eq_false_of_isDigit {c : Char} (h : c.isDigit = true) : isBlank c = false := by
  obtain ⟨hzero, hnine⟩ := toNat_of_isDigit h
  rw [Bool.eq_false_iff]
  intro hblank
  simp only [isBlank, Bool.or_eq_true, Bool.and_eq_true, decide_eq_true_eq, beq_iff_eq] at hblank
  omega

/-- A text that does not begin with white space has none to trim there. -/
theorem trimStart_eq_self {cs : List Char} (h : ∀ c ∈ cs.head?, isBlank c = false) :
    trimStart cs = cs := by
  cases cs with
  | nil => rfl
  | cons c r => simp [trimStart, h c (by simp)]

/-- So has a text whose first character is none. -/
theorem trimStart_cons {c : Char} (h : isBlank c = false) (cs : List Char) :
    trimStart (c :: cs) = c :: cs := trimStart_eq_self (by simpa using h)

/-- A text that does not end with white space has none to trim there. -/
theorem trimEnd_eq_self {cs : List Char} (h : ∀ c ∈ cs.getLast?, isBlank c = false) :
    trimEnd cs = cs := by
  have : trimStart cs.reverse = cs.reverse :=
    trimStart_eq_self fun c hc => h c (by simpa using hc)
  simpa [trimEnd, trimStart] using congrArg List.reverse this

/-- **Trimming.** A text without white space at its ends is its own trimmed form. -/
theorem trim_eq_self {cs : List Char} (hs : ∀ c ∈ cs.head?, isBlank c = false)
    (he : ∀ c ∈ cs.getLast?, isBlank c = false) : trim cs = cs := by
  rw [trim, trimStart_eq_self hs, trimEnd_eq_self he]

/-! ### Runs of code points

Tables of character properties are lists of runs. A run is an arithmetic progression of code points,
since many alphabets alternate upper-case and lower-case letters; a shifted run also says how far
each of its code points is moved. -/

/-- The code points `first`, `first + step`, … up to `last`. -/
abbrev Run := Nat × Nat × Nat

/-- Whether one of the runs holds the code point. -/
def Run.covers (runs : List Run) (n : Nat) : Bool :=
  runs.any fun r => r.1 ≤ n && n ≤ r.2.1 && (n - r.1) % r.2.2 == 0

/-- A run whose code points are all moved by the same distance. -/
structure ShiftedRun where
  first : Nat
  last : Nat
  step : Nat
  shift : Int

namespace ShiftedRun

/-- Whether the run holds the code point. -/
def holds (r : ShiftedRun) (n : Nat) : Bool :=
  r.first ≤ n && n ≤ r.last && (n - r.first) % r.step == 0

/-- Where the first run that holds `n` moves it; `n` itself when no run does. -/
def shiftBy (runs : List ShiftedRun) (n : Nat) : Nat :=
  match runs.find? (·.holds n) with
  | some r => ((n : Int) + r.shift).toNat
  | none => n

/-- The code points that some run moves to `n`. -/
def sources (runs : List ShiftedRun) (n : Nat) : List Nat :=
  runs.filterMap fun r =>
    let m := (n : Int) - r.shift
    if 0 ≤ m && r.holds m.toNat then some m.toNat else none

end ShiftedRun

end Deferral.Text

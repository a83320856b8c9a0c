import Deferral.Json.Value
import Deferral.Decimal.Literal
import Deferral.Text.Basic

/-!
# Reading JSON

A reader returns the value at the front of a text and the rest of the text. Arrays and objects may
be nested 127 deep; the depth left is what the recursion descends on.
-/

namespace Deferral.Json

/-- A reader of something at the front of a text. -/
abbrev Reader (α : Type) := List Char → Option (α × List Char)

/-- Blanks between the tokens of a text. -/
def isBlank (c : Char) : Bool := c == ' ' || c == '\n' || c == '\t' || c == '\r'

/-- The text from its first token. -/
def skipBlanks (cs : List Char) : List Char := cs.dropWhile isBlank

/-- What follows a fixed word. -/
def takeWord? : List Char → List Char → Option (List Char)
  | [], cs => some cs
  | w :: word, c :: r => if w == c then takeWord? word r else none
  | _ :: _, [] => none

/-! ### Strings -/

/-- Four hexadecimal digits. -/
def takeUnit? : Reader Nat
  | a :: b :: c :: d :: r => (Text.readHex? 0 [a, b, c, d]).map fun n => (n, r)
  | _ => none

/-- The character after `\u`: four digits, or twice four for a pair of surrogates. -/
def takeCodePoint? (cs : List Char) : Option (Char × List Char) := do
  let (n, r) ← takeUnit? cs
  if 0xDC00 ≤ n && n ≤ 0xDFFF then none
  else if 0xD800 ≤ n && n ≤ 0xDBFF then
    match r with
    | '\\' :: 'u' :: r =>
        let (m, r) ← takeUnit? r
        if 0xDC00 ≤ m && m ≤ 0xDFFF then
          some (Char.ofNat (0x10000 + (n - 0xD800) * 0x400 + (m - 0xDC00)), r)
        else none
    | _ => none
  else some (Char.ofNat n, r)

/-- The character that an escape stands for, given what follows its backslash. -/
def takeEscape? : Reader Char
  | '"' :: r => some ('"', r)
  | '\\' :: r => some ('\\', r)
  | '/' :: r => some ('/', r)
  | 'b' :: r => some ('\x08', r)
  | 'f' :: r => some ('\x0C', r)
  | 'n' :: r => some ('\n', r)
  | 'r' :: r => some ('\r', r)
  | 't' :: r => some ('\t', r)
  | 'u' :: r => takeCodePoint? r
  | _ => none

/-- The characters of a string after its opening quote. `fuel` bounds their number. -/
def takeChars? : Nat → Reader (List Char)
  | 0, _ => none
  | _ + 1, [] => none
  | fuel + 1, c :: r =>
      if c == '"' then some ([], r)
      else if c == '\\' then do
        let (e, r) ← takeEscape? r
        let (cs, r) ← takeChars? fuel r
        some (e :: cs, r)
      else if c.toNat < 0x20 then none
      else do
        let (cs, r) ← takeChars? fuel r
        some (c :: cs, r)

/-- The characters of a string after its opening quote. -/
def takeString? (cs : List Char) : Option (List Char × List Char) := takeChars? (cs.length + 1) cs

/-! ### Numbers -/

/-- The digits before the point: a single zero, or digits that start with none. -/
def takeWhole? (cs : List Char) : Option (List Char × List Char) :=
  match cs with
  | '0' :: c :: r => if c.isDigit then none else some (['0'], c :: r)
  | _ =>
      let ds := cs.takeWhile Char.isDigit
      if ds.isEmpty then none else some (ds, cs.dropWhile Char.isDigit)

/-- A point and at least one digit, if there is a point. -/
def takeFraction? : Reader (Option (List Char))
  | '.' :: r =>
      let ds := r.takeWhile Char.isDigit
      if ds.isEmpty then none else some (some ds, r.dropWhile Char.isDigit)
  | r => some (none, r)

/-- An exponent with at least one digit, if there is one. -/
def takeExponent? : Reader (Option Int)
  | c :: r =>
      if c == 'e' || c == 'E' then
        let (negative, r) := Decimal.takeSign r
        let ds := r.takeWhile Char.isDigit
        (Text.readDigits? ds).map fun n =>
          (some (if negative then -(n : Int) else n), r.dropWhile Char.isDigit)
      else some (none, c :: r)
  | [] => some (none, [])

/-- Whether a number is finite. -/
def isFinite : Double → Bool
  | .finite .. => true
  | _ => false

/-- The integer of a number without point and exponent, if it fits 64 bits. A zero with a minus sign
is no integer. -/
def integer? (negative : Bool) (digits : List Char) : Option Int :=
  let n := Text.digitsValue 0 digits
  if negative then
    if n == 0 || Text.maxSigned64 + 1 < n then none else some (-(n : Int))
  else if n ≤ Text.maxUnsigned64 then some n
  else none

/-- A number. One beyond the largest finite number is refused. -/
def takeNumber? (cs : List Char) : Option (Json × List Char) := do
  let (negative, r) := match cs with
    | '-' :: r => (true, r)
    | r => (false, r)
  let (whole, r) ← takeWhole? r
  let (fraction, r) ← takeFraction? r
  let (exponent, r) ← takeExponent? r
  match fraction, exponent, integer? negative whole with
  | none, none, some n => some (int n, r)
  | _, _, _ =>
      let scaled := Decimal.Scaled.ofDigits whole (fraction.getD []) (exponent.getD 0)
      let x := scaled.value negative
      if isFinite x then some (float x, r) else none

/-! ### Values -/

/-- Items of an array after its opening bracket or a comma. -/
def takeItems? (item : Reader Json) : Nat → Reader (List Json)
  | 0, _ => none
  | fuel + 1, cs => do
      let (j, r) ← item cs
      match skipBlanks r with
      | ',' :: r =>
          let (js, r) ← takeItems? item fuel r
          some (j :: js, r)
      | ']' :: r => some ([j], r)
      | _ => none

/-- Members of an object after its opening brace or a comma. -/
def takeMembers? (item : Reader Json) : Nat → Reader (List (String × Json))
  | 0, _ => none
  | fuel + 1, cs =>
      match skipBlanks cs with
      | '"' :: r => do
          let (key, r) ← takeString? r
          match skipBlanks r with
          | ':' :: r =>
              let (j, r) ← item r
              match skipBlanks r with
              | ',' :: r =>
                  let (ms, r) ← takeMembers? item fuel r
                  some ((String.ofList key, j) :: ms, r)
              | '}' :: r => some ([(String.ofList key, j)], r)
              | _ => none
          | _ => none
      | _ => none

/-- A value whose arrays and objects are nested at most `depth` deep. -/
def takeValue? : Nat → Reader Json
  | depth, cs =>
      match skipBlanks cs with
      | 'n' :: r => (takeWord? ['u', 'l', 'l'] r).map fun r => (null, r)
      | 't' :: r => (takeWord? ['r', 'u', 'e'] r).map fun r => (bool true, r)
      | 'f' :: r => (takeWord? ['a', 'l', 's', 'e'] r).map fun r => (bool false, r)
      | '"' :: r => (takeString? r).map fun (cs, r) => (text cs, r)
      | '[' :: r =>
          match depth with
          | 0 => none
          | depth + 1 =>
              match skipBlanks r with
              | ']' :: r => some (arr [], r)
              | r => (takeItems? (takeValue? depth) r.length r).map fun (js, r) => (arr js, r)
      | '{' :: r =>
          match depth with
          | 0 => none
          | depth + 1 =>
              match skipBlanks r with
              | '}' :: r => some (obj [], r)
              | r =>
                  (takeMembers? (takeValue? depth) r.length r).map fun (ms, r) => (ofMembers ms, r)
      | r => takeNumber? r

/-- How deep arrays and objects may be nested. -/
def maxDepth : Nat := 127

/-- The value of a text that holds one value and blanks around it. -/
def parse? (cs : List Char) : Option Json :=
  match takeValue? maxDepth cs with
  | some (j, r) => if (skipBlanks r).isEmpty then some j else none
  | none => none

end Deferral.Json

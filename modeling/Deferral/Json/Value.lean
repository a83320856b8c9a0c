import Deferral.Decimal.Double
import Deferral.Decimal.Layout
import Deferral.Text.Basic

/-!
# JSON values

Values in memory, and the text that a value is written as.
-/

namespace Deferral

/-! ### Values

A number is an integer if its text has neither a point nor an exponent and fits 64 bits, and a
binary number otherwise. The members of an object stand in the order of their keys, each key once:
`insertMember` keeps that, and `canonical` brings any value into that form. -/

/-- A JSON value. -/
inductive Json where
  | null
  | bool (b : Bool)
  | int (n : Int)
  | float (x : Double)
  | str (s : String)
  | arr (items : List Json)
  | obj (members : List (String × Json))
deriving Repr, Inhabited

namespace Json

/-- Puts a member where its key belongs, in the place of a member with the same key. -/
def insertMember (key : String) (value : Json) :
    List (String × Json) → List (String × Json)
  | [] => [(key, value)]
  | (k, v) :: r =>
      if key < k then (key, value) :: (k, v) :: r
      else if key = k then (key, value) :: r
      else (k, v) :: insertMember key value r

/-- An object from members in any order; of members with one key the last counts. -/
def ofMembers (members : List (String × Json)) : Json :=
  obj (members.foldl (fun ms m => insertMember m.1 m.2 ms) [])

mutual

/-- The same value with the members of every object in the order of their keys. -/
def canonical : Json → Json
  | arr items => arr (canonicalItems items)
  | obj members => obj (canonicalMembers [] members)
  | j => j

/-- The items of an array, each in canonical form. -/
def canonicalItems : List Json → List Json
  | [] => []
  | j :: r => canonical j :: canonicalItems r

/-- Members sorted into those before them. -/
def canonicalMembers (sorted : List (String × Json)) :
    List (String × Json) → List (String × Json)
  | [] => sorted
  | (k, v) :: r => canonicalMembers (insertMember k (canonical v) sorted) r

end

/-- The value of the member with a key. -/
def member? (key : String) (members : List (String × Json)) : Option Json :=
  (members.find? fun m => m.1 == key).map (·.2)

/-- The value of a member, if the value is an object that has it. -/
def get? (j : Json) (key : String) : Option Json :=
  match j with
  | obj members => member? key members
  | _ => none

/-- A natural number. -/
def nat (n : Nat) : Json := int n

/-- Characters as a string. -/
def text (cs : List Char) : Json := str (String.ofList cs)

/-- A value that may be absent, with null for its absence. -/
def ofOption {α : Type} (f : α → Json) : Option α → Json
  | some a => f a
  | none => null

end Json

end Deferral

namespace Deferral.Json

/-! ### Writing JSON

The text of a value has no blanks. Strings escape the quote, the backslash and the characters below
the space, and nothing else; numbers have the fewest digits that read back. -/

/-- One character of a string. -/
def escapeChar (c : Char) : List Char :=
  match c with
  | '"' => ['\\', '"']
  | '\\' => ['\\', '\\']
  | '\x08' => ['\\', 'b']
  | '\x0C' => ['\\', 'f']
  | '\n' => ['\\', 'n']
  | '\r' => ['\\', 'r']
  | '\t' => ['\\', 't']
  | c => if c.toNat < 0x20 then '\\' :: 'u' :: Text.hexDigits 4 c.toNat else [c]

/-- A string between its quotes. -/
def renderString (cs : List Char) : List Char := '"' :: (cs.flatMap escapeChar ++ ['"'])

mutual

/-- The text of a value. -/
def render : Json → List Char
  | null => ['n', 'u', 'l', 'l']
  | bool true => ['t', 'r', 'u', 'e']
  | bool false => ['f', 'a', 'l', 's', 'e']
  | int n => Decimal.intText n
  | float x => Decimal.Layout.stored.render x
  | str s => renderString s.toList
  | arr items => '[' :: (renderItems items ++ [']'])
  | obj members => '{' :: (renderMembers members ++ ['}'])

/-- The items of an array. -/
def renderItems : List Json → List Char
  | [] => []
  | j :: r => render j ++ renderMoreItems r

/-- The items after the first, each after a comma. -/
def renderMoreItems : List Json → List Char
  | [] => []
  | j :: r => ',' :: (render j ++ renderMoreItems r)

/-- The members of an object. -/
def renderMembers : List (String × Json) → List Char
  | [] => []
  | (k, v) :: r => renderString k.toList ++ ':' :: (render v ++ renderMoreMembers r)

/-- The members after the first, each after a comma. -/
def renderMoreMembers : List (String × Json) → List Char
  | [] => []
  | (k, v) :: r => ',' :: (renderString k.toList ++ ':' :: (render v ++ renderMoreMembers r))

end

/-- The text that two values share exactly when they are the same data. -/
def canonicalText (j : Json) : List Char := render (canonical j)

end Deferral.Json

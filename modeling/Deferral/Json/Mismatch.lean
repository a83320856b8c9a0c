import Deferral.Text.Category
import Deferral.Text.Basic
import Deferral.Json.Value
import Deferral.Decimal.Layout

/-!
# Values of a wanted type

A reader of stored values asks for a type. A value that does not fit is reported with what was found
and what was wanted, where a text that was found stands between quotes.
-/

namespace Deferral.Text

/-! ### Quoted text

A text as a diagnostic shows it: between double quotes, with escapes for the quote, the backslash,
the common control characters and every character that cannot be seen on its own. -/

/-- Marks that attach to the character before them without being marks by category. -/
def extenderRuns : List Run :=
  [
    (0x9BE, 0x9BE, 1), (0x9D7, 0x9D7, 1), (0xB3E, 0xB3E, 1), (0xB57, 0xB57, 1), (0xBBE, 0xBBE, 1),
    (0xBD7, 0xBD7, 1), (0xCC2, 0xCC2, 1), (0xCD5, 0xCD6, 1), (0xD3E, 0xD3E, 1), (0xD57, 0xD57, 1),
    (0xDCF, 0xDCF, 1), (0xDDF, 0xDDF, 1), (0x1B35, 0x1B35, 1), (0x200C, 0x200C, 1),
    (0x302E, 0x302F, 1), (0xFF9E, 0xFF9F, 1), (0x1133E, 0x1133E, 1), (0x11357, 0x11357, 1),
    (0x114B0, 0x114B0, 1), (0x114BD, 0x114BD, 1), (0x115AF, 0x115AF, 1), (0x11930, 0x11930, 1),
    (0x1D165, 0x1D165, 1), (0x1D16E, 0x1D172, 1), (0xE0020, 0xE007F, 1)
  ]

/-- Whether a character is shown as it is: it has a glyph of its own. -/
def isShown (c : Char) : Bool :=
  if c.toNat < 0x7F then 0x20 ≤ c.toNat
  else
    let k := Category.ofChar c
    !(k.isOther || k.isSeparator || k == .nonspacingMark || k == .enclosingMark ||
      Run.covers extenderRuns c.toNat)

/-- One character between the quotes. -/
def quotedChar (c : Char) : List Char :=
  match c with
  | '"' => ['\\', '"']
  | '\\' => ['\\', '\\']
  | '\n' => ['\\', 'n']
  | '\r' => ['\\', 'r']
  | '\t' => ['\\', 't']
  | '\x00' => ['\\', '0']
  | c => if isShown c then [c] else ['\\', 'u', '{'] ++ hex c.toNat ++ ['}']

/-- A text between double quotes. -/
def quoted (cs : List Char) : List Char := '"' :: (cs.flatMap quotedChar ++ ['"'])

end Deferral.Text

namespace Deferral

/-! ### Mismatches -/

/-- A type of stored values. -/
inductive ValueType where
  | json
  | signed64
  | unsigned8
  | string
  | bool
  | strings
deriving DecidableEq, Repr

/-- A value that does not fit. -/
structure Mismatch where
  found : Json
  wanted : ValueType
  /-- Whether it is of the right sort but out of range. -/
  outOfRange : Bool

namespace Mismatch

/-- A value as a report names it. -/
def describe : Json → String
  | .null => "null"
  | .bool b => if b then "boolean `true`" else "boolean `false`"
  | .int n => "integer `" ++ Decimal.intString n ++ "`"
  | .float x => "floating point `" ++ String.ofList (Decimal.Layout.stored.render x) ++ "`"
  | .str s => "string " ++ String.ofList (Text.quoted s.toList)
  | .arr _ => "sequence"
  | .obj _ => "map"

/-- A type as a report names it. -/
def typeName : ValueType → String
  | .json => "any valid JSON value"
  | .signed64 => "i64"
  | .unsigned8 => "u8"
  | .string => "a string"
  | .bool => "a boolean"
  | .strings => "a sequence"

/-- The words for a value that does not fit. -/
def message (m : Mismatch) : String :=
  (if m.outOfRange then "invalid value: " else "invalid type: ") ++ describe m.found ++
    ", expected " ++ typeName m.wanted

end Mismatch

namespace ValueType

/-- The type with a short name. -/
def named? : String → Option ValueType
  | "json" => some json
  | "i64" => some signed64
  | "u8" => some unsigned8
  | "string" => some string
  | "bool" => some bool
  | "strings" => some strings
  | _ => none

/-- An integer within bounds. -/
def checkRange (t : ValueType) (least most : Int) (j : Json) : Except Mismatch Unit :=
  match j with
  | .int n => if least ≤ n ∧ n ≤ most then .ok () else .error ⟨j, t, true⟩
  | _ => .error ⟨j, t, false⟩

/-- A string. -/
def checkString (j : Json) : Except Mismatch Unit :=
  match j with
  | .str _ => .ok ()
  | _ => .error ⟨j, .string, false⟩

/-- Whether a value is of the type; the first fault if it is not. -/
def check (t : ValueType) (j : Json) : Except Mismatch Unit :=
  match t with
  | json => .ok ()
  | signed64 => t.checkRange (-(Text.maxSigned64 : Int) - 1) Text.maxSigned64 j
  | unsigned8 => t.checkRange 0 255 j
  | string => checkString j
  | bool =>
      match j with
      | .bool _ => .ok ()
      | _ => .error ⟨j, t, false⟩
  | strings =>
      match j with
      | .arr items => items.forM checkString
      | _ => .error ⟨j, t, false⟩

end ValueType

end Deferral

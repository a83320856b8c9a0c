import Deferral.Json.Value
import Deferral.Text.Basic

/-!
# Decoding JSON

Rules by which values of the library are read from JSON. A record is read from an object by the
names of its fields, or from an array by their order; an array may leave out fields at its end that
have a default. A choice among fixed words is a string, or an object with the word as its only key
and null as its value.
-/

namespace Deferral.Json

/-- A field of a record. -/
structure Field where
  name : String
  /-- Whether an array may end before the field. -/
  hasDefault : Bool

/-- A field that an array has to hold. -/
def Field.required (name : String) : Field := ⟨name, false⟩

/-- A field that an array may leave out. -/
def Field.defaulted (name : String) : Field := ⟨name, true⟩

/-- The values of the fields in order, with none for those left out. -/
def fields? (shape : List Field) : Json → Option (List (Option Json))
  | obj members => some (shape.map fun f => member? f.name members)
  | arr items =>
      if items.length ≤ shape.length && (shape.drop items.length).all (·.hasDefault) then
        some (items.map some ++ List.replicate (shape.length - items.length) none)
      else none
  | _ => none

/-- The values of the fields; an object with other keys is refused. -/
def closedFields? (shape : List Field) (j : Json) : Option (List (Option Json)) :=
  match j with
  | obj members =>
      if members.all fun m => shape.any fun f => f.name == m.1 then fields? shape j else none
  | _ => fields? shape j

/-- A field that has to be there. -/
def required {α : Type} (read : Json → Option α) (value : Option Json) : Option α :=
  value.bind read

/-- A field that may be left out or null. -/
def optional {α : Type} (read : Json → Option α) : Option Json → Option (Option α)
  | none | some null => some none
  | some j => (read j).map some

/-- A field that may be left out but not null. -/
def defaulted {α : Type} (default : α) (read : Json → Option α) : Option Json → Option α
  | none => some default
  | some j => read j

/-- A string. -/
def asString? : Json → Option String
  | str s => some s
  | _ => none

/-- A boolean. -/
def asBool? : Json → Option Bool
  | bool b => some b
  | _ => none

/-- A natural number up to a limit. -/
def asNat? (limit : Nat) : Json → Option Nat
  | int n => if 0 ≤ n ∧ n ≤ limit then some n.toNat else none
  | _ => none

/-- A natural number of 64 bits. -/
def asUnsigned64? : Json → Option Nat := asNat? Text.maxUnsigned64

/-- A signed number of 64 bits. -/
def asSigned64? : Json → Option Int
  | int n => if n ≤ Text.maxSigned64 then some n else none
  | _ => none

/-- A number of any kind, rounded to a binary number if it is an integer. -/
def asDouble? : Json → Option Double
  | int n => some (Double.ofInt n)
  | float x => some x
  | _ => none

/-- A list of values of one kind. -/
def asList? {α : Type} (read : Json → Option α) : Json → Option (List α)
  | arr items => items.mapM read
  | _ => none

/-- A value of one kind, or a list of such values. -/
def asOneOrMany? {α : Type} (read : Json → Option α) (j : Json) : Option (List α) :=
  match read j with
  | some a => some [a]
  | none => asList? read j

/-- One of several fixed words. -/
def asWord? {α : Type} (words : List (String × α)) : Json → Option α
  | str s => words.lookup s
  | obj [(k, null)] => words.lookup k
  | _ => none

end Deferral.Json

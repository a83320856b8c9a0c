import Deferral.Regex.Escape

/-!
# Classes in brackets

A class holds characters, ranges, escapes and further classes. Two ampersands, hyphens or tildes
between its members intersect, subtract or take the members of one side only, from left to right.
-/

namespace Deferral.Regex

/-- How the two sides of an operator in a class are joined. -/
inductive SetOp where
  | inter
  | diff
  | symmDiff
deriving DecidableEq, Repr

/-- The set of two sides. -/
def SetOp.apply (op : SetOp) (s t : CharSet) : CharSet :=
  match op with
  | inter => .inter s t
  | diff => .diff s t
  | symmDiff => .symmDiff s t

/-- A class read in part: its set, how many members it has, and how deep they are nested. -/
structure Members where
  set : CharSet
  count : Nat
  depth : Nat

namespace Members

/-- No members. -/
def none : Members := ⟨.none, 0, 0⟩

/-- One more member. -/
def add (m : Members) (s : CharSet) (depth : Nat) : Members :=
  ⟨.union m.set s, m.count + 1, max m.depth depth⟩

/-- How deep the members are nested, taken together. -/
def joinedDepth (m : Members) : Nat := if m.count ≤ 1 then m.depth else m.depth + 1

/-- The members as the right side of an operator. -/
def closed (f : Flags) (left : Option (SetOp × Members)) (m : Members) : Members :=
  match left with
  | some (op, l) =>
      ⟨op.apply (f.foldSet l.set) (f.foldSet m.set), 1, max l.joinedDepth m.joinedDepth + 1⟩
  | Option.none => m

end Members

/-- One character of a class, or what an escape stands for. -/
def takeMember? (f : Flags) : List Char → Option (Escape × List Char)
  | [] => none
  | '\\' :: r => Escape.take? f.verbose r
  | c :: r => some (.literal c, r)

/-- The set of a member that is no range. Letters are folded with the whole class. -/
def memberSet? (f : Flags) : Escape → Option CharSet
  | .literal c => if f.unicode || c.toNat < 128 then some (.single c) else none
  | e => f.escapeSet? e

/-- A member or a range. A hyphen before a hyphen or before the closing bracket makes no range. -/
def takeRange? (f : Flags) (cs : List Char) : Option (CharSet × List Char) := do
  let (low, r) ← takeMember? f cs
  match skip f.verbose r with
  | [] => none
  | '-' :: r' =>
      match skip f.verbose r' with
      | [] => none
      | c :: r'' =>
          if c == ']' || c == '-' then
            let s ← memberSet? f low
            some (s, '-' :: r')
          else
            let (high, r) ← takeMember? f (c :: r'')
            match low, high with
            | .literal a, .literal b =>
                if a ≤ b && (f.unicode || b.toNat < 128) then some (.range a b, r) else none
            | _, _ => none
  | r =>
      let s ← memberSet? f low
      some (s, r)

/-- A named ASCII class, given what follows its opening bracket. -/
def takeNamedClass? (f : Flags) (cs : List Char) : Option (CharSet × List Char) :=
  match cs with
  | ':' :: r =>
      let (negated, r) := match r with
        | '^' :: r => (true, r)
        | _ => (false, r)
      match Escape.cut? [':'] r with
      | some (name, ']' :: r) => do
          let s ← CharSet.asciiNames.lookup (String.ofList name)
          let s ← f.negateSet? negated (f.foldSet s)
          some (s, r)
      | _ => none
  | _ => none

/-- Hyphens at the front of a class, and after them a closing bracket if there were none. -/
def takeFront (f : Flags) : Nat → Members → List Char → Members × List Char
  | 0, m, cs => (m, cs)
  | fuel + 1, m, cs =>
      match cs with
      | '-' :: r => takeFront f fuel (m.add (.single '-') 0) (skip f.verbose r)
      | ']' :: r => if m.count == 0 then (m.add (.single ']') 0, skip f.verbose r) else (m, cs)
      | _ => (m, cs)

mutual

/-- A class, given what follows its opening bracket. `fuel` bounds the number of steps. -/
def takeClass? (f : Flags) : Nat → List Char → Option ((CharSet × Nat) × List Char)
  | 0, _ => none
  | fuel + 1, cs =>
      let (negated, r) := match skip f.verbose cs with
        | '^' :: r => (true, skip f.verbose r)
        | r => (false, r)
      let (front, r) := takeFront f r.length .none r
      match takeMembers? f fuel none front r with
      | some (m, r) =>
          (f.negateSet? negated (f.foldSet m.set)).map fun s => ((s, m.joinedDepth + 1), r)
      | none => none

/-- The rest of a class, given the left side of the last operator and the members since. -/
def takeMembers? (f : Flags) :
    Nat → Option (SetOp × Members) → Members → List Char → Option (Members × List Char)
  | 0, _, _, _ => none
  | fuel + 1, left, m, cs =>
      match skip f.verbose cs with
      | [] => none
      | ']' :: r => some (m.closed f left, r)
      | '[' :: r =>
          match takeNamedClass? f r with
          | some (s, r) => takeMembers? f fuel left (m.add s 0) r
          | none =>
              match takeClass? f fuel r with
              | some ((s, depth), r) => takeMembers? f fuel left (m.add s depth) r
              | none => none
      | '&' :: '&' :: r => takeMembers? f fuel (some (.inter, m.closed f left)) .none r
      | '-' :: '-' :: r => takeMembers? f fuel (some (.diff, m.closed f left)) .none r
      | '~' :: '~' :: r => takeMembers? f fuel (some (.symmDiff, m.closed f left)) .none r
      | r =>
          match takeRange? f r with
          | some (s, r) => takeMembers? f fuel left (m.add s 0) r
          | none => none

end

end Deferral.Regex

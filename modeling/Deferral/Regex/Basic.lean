import Deferral.Regex.CharSet

/-!
# Regular expressions

A regular expression is matched one character at a time. What is left to be matched after a
character is a list of expressions, since there may be several ways to go on. Whether an expression
matches without taking a character, and which ways there are to go on, depends on the character
before the place and the character after it, because of the assertions.
-/

namespace Deferral

/-- How a place has to lie between word characters and others. -/
inductive WordEdge where
  | boundary
  | noBoundary
  | start
  | stop
  | halfStart
  | halfStop
deriving DecidableEq, Repr

/-- An assertion about a place in a text. -/
inductive Look where
  | textStart
  | textEnd
  /-- The start of a line; with `crlf`, a carriage return ends a line too. -/
  | lineStart (crlf : Bool)
  | lineEnd (crlf : Bool)
  | word (edge : WordEdge) (asciiOnly : Bool)
deriving DecidableEq, Repr

namespace Look

/-- Whether there is a character and it is a word character. -/
def isWordAt (asciiOnly : Bool) : Option Char → Bool
  | some c => if asciiOnly then CharSet.asciiWord.mem c else Text.isWord c
  | none => false

/-- Whether the assertion holds between two characters, either of which may be missing. -/
def holds (l : Look) (before after : Option Char) : Bool :=
  match l with
  | textStart => before.isNone
  | textEnd => after.isNone
  | lineStart false => before.isNone || before == some '\n'
  | lineEnd false => after.isNone || after == some '\n'
  | lineStart true =>
      before.isNone || before == some '\n' || (before == some '\r' && after != some '\n')
  | lineEnd true =>
      after.isNone || after == some '\r' || (after == some '\n' && before != some '\r')
  | word edge asciiOnly =>
      let b := isWordAt asciiOnly before
      let a := isWordAt asciiOnly after
      match edge with
      | .boundary => b != a
      | .noBoundary => b == a
      | .start => !b && a
      | .stop => b && !a
      | .halfStart => !b
      | .halfStop => !a

end Look

/-- A regular expression. -/
inductive Regex where
  | empty
  | set (s : CharSet)
  | look (l : Look)
  | seq (a b : Regex)
  | alt (a b : Regex)
  | star (a : Regex)
deriving DecidableEq, Repr

namespace Regex

/-- Whether the expression matches at a place without taking a character. -/
def matchesHere (before after : Option Char) : Regex → Bool
  | empty => true
  | set _ => false
  | look l => l.holds before after
  | seq a b => a.matchesHere before after && b.matchesHere before after
  | alt a b => a.matchesHere before after || b.matchesHere before after
  | star _ => true

/-- One expression and then another, without an empty expression in front. -/
def andThen : Regex → Regex → Regex
  | empty, b => b
  | a, b => seq a b

/-- What may be left to match after the character `c`. -/
def step (before : Option Char) (c : Char) : Regex → List Regex
  | empty => []
  | set s => if s.mem c then [empty] else []
  | look _ => []
  | seq a b =>
      (a.step before c).map (·.andThen b) ++
        if a.matchesHere before (some c) then b.step before c else []
  | alt a b => a.step before c ++ b.step before c
  | star a => (a.step before c).map (·.andThen (star a))

/-- Whether one of the expressions matches a part of the text that starts here, or `r` a part that
starts here or later. -/
def searchFrom (r : Regex) (before : Option Char) (ways : List Regex) : List Char → Bool
  | [] => (r :: ways).any (·.matchesHere before none)
  | c :: cs =>
      let here := (r :: ways).eraseDups
      here.any (·.matchesHere before (some c)) ||
        searchFrom r (some c) (here.flatMap (·.step before c)) cs

/-- Whether the expression matches some part of the text. -/
def isMatch (r : Regex) (cs : List Char) : Bool := searchFrom r none [] cs

/-- An expression a number of times. -/
def times (a : Regex) : Nat → Regex
  | 0 => empty
  | n + 1 => a.andThen (a.times n)

/-- An expression at most a number of times. -/
def upTo (a : Regex) : Nat → Regex
  | 0 => empty
  | n + 1 => alt (seq a (a.upTo n)) empty

/-- An expression at least `least` times and, if there is a `most`, at most that many times. -/
def repeated (a : Regex) (least : Nat) : Option Nat → Regex
  | none => (a.times least).andThen (star a)
  | some most => (a.times least).andThen (a.upTo (most - least))

/-- Roughly how large a machine for the expression is. -/
def weight : Regex → Nat
  | empty | look _ => 1
  | set s => s.weight
  | seq a b | alt a b => a.weight + b.weight
  | star a => a.weight + 1

end Regex

end Deferral

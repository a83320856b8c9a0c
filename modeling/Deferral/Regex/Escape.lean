import Deferral.Regex.Basic
import Deferral.Text.Basic

/-!
# Escapes in patterns

What a backslash and the characters after it stand for, and the flags that decide how the parts of
a pattern are taken.
-/

namespace Deferral.Regex

/-- How the parts of a pattern are taken. -/
structure Flags where
  ignoreCase : Bool
  multiLine : Bool
  dotAll : Bool
  /-- Whether a carriage return ends a line too. -/
  crlf : Bool
  /-- Whether blanks and comments in the pattern are skipped. -/
  verbose : Bool
  unicode : Bool
deriving DecidableEq, Repr

/-- The flags of a pattern that asks for nothing special. -/
def Flags.plain : Flags := ⟨false, false, false, false, false, true⟩

/-- The text from its first character that is neither blank nor in a comment. `fuel` bounds the
number of characters looked at. -/
def skipLayout : Nat → List Char → List Char
  | 0, cs => cs
  | _ + 1, [] => []
  | fuel + 1, c :: r =>
      if Text.isBlank c then skipLayout fuel r
      else if c == '#' then skipLayout fuel ((r.dropWhile (· != '\n')).drop 1)
      else c :: r

/-- The text from where the pattern goes on. -/
def skip (verbose : Bool) (cs : List Char) : List Char :=
  if verbose then skipLayout cs.length cs else cs

/-- Outside the extended mode nothing is passed over. -/
@[simp] theorem skip_false (cs : List Char) : skip false cs = cs := rfl

/-- The classes that one letter names. -/
inductive Shorthand where
  | digit
  | blank
  | word
deriving DecidableEq, Repr

/-- The set of a shorthand. -/
def Shorthand.charSet (k : Shorthand) (unicode : Bool) : CharSet :=
  match k, unicode with
  | digit, true => .digit
  | blank, true => .blank
  | word, true => .word
  | digit, false => .asciiDigit
  | blank, false => .asciiBlank
  | word, false => .asciiWord

/-- What an escape stands for. -/
inductive Escape where
  | literal (c : Char)
  | shorthand (k : Shorthand) (negated : Bool)
  | property (p : CharProperty) (negated : Bool)
  | textStart
  | textEnd
  | word (edge : WordEdge)
deriving DecidableEq, Repr

namespace Escape

/-- The characters with a meaning of their own somewhere in a pattern. -/
def isMeta (c : Char) : Bool :=
  ['\\', '.', '+', '*', '?', '(', ')', '|', '[', ']', '\x7B', '\x7D', '^', '$', '#', '&', '-', '~']
    |>.contains c

/-- The characters that stand for themselves after a backslash: those of ASCII that are neither
letters nor digits nor angle brackets. -/
def isPlain (c : Char) : Bool :=
  isMeta c || (c.toNat < 128 && !c.isAlphanum && c != '<' && c != '>')

/-- Hexadecimal digits, exactly `n` of them. -/
def takeHex? (verbose : Bool) : Nat → List Char → Option (List Char × List Char)
  | 0, cs => some ([], cs)
  | _ + 1, [] => none
  | n + 1, c :: r => (takeHex? verbose n (skip verbose r)).map fun (ds, r) => (c :: ds, r)

/-- What stands before the next closing brace. `fuel` bounds its length. -/
def takeBraced? (verbose : Bool) : Nat → List Char → Option (List Char × List Char)
  | 0, _ => none
  | fuel + 1, cs =>
      match skip verbose cs with
      | [] => none
      | c :: r =>
          if c == '\x7D' then some ([], r)
          else (takeBraced? verbose fuel r).map fun (ds, r) => (c :: ds, r)

/-- The character with a number in hexadecimal. -/
def ofHex? (digits : List Char) : Option Escape :=
  if digits.isEmpty then none
  else
    (Text.readHex? 0 digits).bind fun n =>
      if n.isValidChar then some (literal (Char.ofNat n)) else none

/-- A character by its number: in braces, or with a fixed number of digits. -/
def takeNumbered? (verbose : Bool) (width : Nat) (cs : List Char) :
    Option (Escape × List Char) := do
  let (digits, r) ← match skip verbose cs with
    | '\x7B' :: r => takeBraced? verbose (r.length + 1) r
    | r => takeHex? verbose width r
  let e ← ofHex? digits
  some (e, r)

/-- What stands before a separator and what after it, if it occurs. -/
def cut? (separator : List Char) : List Char → Option (List Char × List Char)
  | [] => none
  | c :: r =>
      if separator.isPrefixOf (c :: r) then some ([], (c :: r).drop separator.length)
      else (cut? separator r).map fun (a, b) => (c :: a, b)

/-- The property that is named between braces, either alone or as the value of a general
category. -/
def ofName? (negated : Bool) (name : List Char) : Option Escape :=
  let ofPair (negated : Bool) (pair : List Char × List Char) : Option Escape :=
    if CharProperty.isCategoryKey pair.1 then
      (CharProperty.named? pair.2).map fun p => property p negated
    else none
  match cut? ['!', '='] name, cut? [':'] name, cut? ['='] name with
  | some pair, _, _ => ofPair (!negated) pair
  | none, some pair, _ => ofPair negated pair
  | none, none, some pair => ofPair negated pair
  | none, none, none => (CharProperty.named? name).map fun p => property p negated

/-- A property: one letter, or a name in braces. -/
def takeProperty? (verbose negated : Bool) (cs : List Char) : Option (Escape × List Char) :=
  match skip verbose cs with
  | [] => none
  | '\x7B' :: r => do
      let (name, r) ← takeBraced? verbose (r.length + 1) r
      let e ← ofName? negated name
      some (e, r)
  | c :: r => (CharProperty.named? [c]).map fun p => (property p negated, r)

/-- The letters that may name an edge of a word. -/
def isEdgeLetter (c : Char) : Bool := c.isAlpha || c == '-'

/-- The edges of a word by their names. -/
def edges : List (List Char × WordEdge) :=
  [
    ("start".toList, .start), ("end".toList, .stop),
    ("start-half".toList, .halfStart), ("end-half".toList, .halfStop)
  ]

/-- The edge of a word after its letter: named in braces, or any edge. Braces that hold no name are
left to be read as a repetition. -/
def takeEdge? (verbose : Bool) (cs : List Char) : Option (Escape × List Char) :=
  match cs with
  | '\x7B' :: r =>
      match skip verbose r with
      | [] => none
      | c :: r' =>
          if isEdgeLetter c then do
            let (name, r) ← takeBraced? verbose (r'.length + 2) (c :: r')
            let edge ← edges.lookup name
            some (word edge, r)
          else some (word .boundary, cs)
  | _ => some (word .boundary, cs)

/-- The escape at the front of a text, given what follows its backslash. -/
def take? (verbose : Bool) : List Char → Option (Escape × List Char)
  | [] => none
  | c :: r =>
      match c with
      | 'x' => takeNumbered? verbose 2 r
      | 'u' => takeNumbered? verbose 4 r
      | 'U' => takeNumbered? verbose 8 r
      | 'p' => takeProperty? verbose false r
      | 'P' => takeProperty? verbose true r
      | 'd' => some (shorthand .digit false, r)
      | 'D' => some (shorthand .digit true, r)
      | 's' => some (shorthand .blank false, r)
      | 'S' => some (shorthand .blank true, r)
      | 'w' => some (shorthand .word false, r)
      | 'W' => some (shorthand .word true, r)
      | 'a' => some (literal '\x07', r)
      | 'f' => some (literal '\x0C', r)
      | 't' => some (literal '\t', r)
      | 'n' => some (literal '\n', r)
      | 'r' => some (literal '\r', r)
      | 'v' => some (literal '\x0B', r)
      | 'A' => some (textStart, r)
      | 'z' => some (textEnd, r)
      | 'b' => takeEdge? verbose r
      | 'B' => some (word .noBoundary, r)
      | '<' => some (word .start, r)
      | '>' => some (word .stop, r)
      | c => if isPlain c then some (literal c, r) else none

end Escape

/-- A set with the letters in the other case, if case is ignored. -/
def Flags.foldSet (f : Flags) (s : CharSet) : CharSet :=
  if f.ignoreCase then (if f.unicode then .folded s else .foldedAscii s) else s

/-- A set or the rest of all characters. Without Unicode the rest holds bytes that are no
characters, and so is refused. -/
def Flags.negateSet? (f : Flags) (negated : Bool) (s : CharSet) : Option CharSet :=
  if negated then (if f.unicode then some (.compl s) else none) else some s

/-- The set of a property. It needs Unicode. -/
def Flags.propertySet? (f : Flags) (p : CharProperty) (negated : Bool) : Option CharSet :=
  if f.unicode then f.negateSet? negated (f.foldSet (.property p)) else none

/-- The set of one character in a pattern. Without Unicode a character beyond ASCII has no set. -/
def Flags.literalSet? (f : Flags) (c : Char) : Option CharSet :=
  if f.unicode || c.toNat < 128 then some (f.foldSet (.single c)) else none

/-- The set that an escape stands for, if it stands for one. -/
def Flags.escapeSet? (f : Flags) : Escape → Option CharSet
  | .literal c => f.literalSet? c
  | .shorthand k negated => f.negateSet? negated (k.charSet f.unicode)
  | .property p negated => f.propertySet? p negated
  | _ => none

end Deferral.Regex

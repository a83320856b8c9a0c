import Deferral.Regex.Bracket
import Deferral.Text.Basic

/-!
# Reading regular expressions

A pattern is read from left to right. The pieces of the sequence at hand and the branches before it
are kept in a builder, with one frame for every group that is still open.
-/

namespace Deferral.Regex

/-- How deep groups, classes, sequences and repetitions may be nested. -/
def maxDepth : Nat := 250

/-- How large the machine for a repetition may be. -/
def maxWeight : Nat := 260000

/-- A part of a pattern. -/
structure Piece where
  regex : Regex
  depth : Nat
  /-- Whether it can be repeated; flags cannot. -/
  repeatable : Bool

/-- A piece without parts. -/
def Piece.leaf (r : Regex) : Piece := ⟨r, 0, true⟩

/-- Pieces one after another, the last first. -/
def Piece.sequence (pieces : List Piece) : Piece :=
  match pieces with
  | [] => leaf .empty
  | [p] => p
  | p :: ps =>
      ⟨ps.foldl (fun r q => q.regex.andThen r) p.regex,
        ps.foldl (fun d q => max d q.depth) p.depth + 1, true⟩

/-- Pieces that are alternatives, the last first. -/
def Piece.choice (branches : List Piece) : Piece :=
  match branches with
  | [] => leaf .empty
  | [p] => p
  | p :: ps =>
      ⟨ps.foldl (fun r q => .alt q.regex r) p.regex,
        ps.foldl (fun d q => max d q.depth) p.depth + 1, true⟩

/-- What goes on when a group is closed. -/
structure Frame where
  flags : Flags
  pieces : List Piece
  branches : List Piece

/-- A pattern read in part. Pieces and branches stand with the last first. -/
structure Builder where
  flags : Flags
  pieces : List Piece
  branches : List Piece
  frames : List Frame
  names : List (List Char)

namespace Builder

/-- Nothing read. -/
def start (flags : Flags) : Builder := ⟨flags, [], [], [], []⟩

/-- One more piece. -/
def push (b : Builder) (p : Piece) : Builder := { b with pieces := p :: b.pieces }

/-- One more expression. -/
def pushLeaf (b : Builder) (r : Regex) : Builder := b.push (.leaf r)

/-- The next branch of the group. -/
def nextBranch (b : Builder) : Builder :=
  { b with pieces := [], branches := .sequence b.pieces :: b.branches }

/-- The whole of the group at hand. -/
def whole (b : Builder) : Piece := .choice (.sequence b.pieces :: b.branches)

/-- The last piece repeated. -/
def repeatLast? (b : Builder) (least : Nat) (most : Option Nat) : Option Builder :=
  match b.pieces with
  | p :: ps =>
      if p.repeatable then
        some { b with pieces := ⟨p.regex.repeated least most, p.depth + 1, true⟩ :: ps }
      else none
  | [] => none

/-- The last piece repeated a counted number of times, if the machine is not too large for it. -/
def repeatCounted? (b : Builder) (least : Nat) (most : Option Nat) : Option Builder :=
  match b.pieces with
  | p :: _ =>
      if p.regex.weight * most.getD least ≤ maxWeight then b.repeatLast? least most else none
  | [] => none

/-- A group opened, with the flags that hold in it. -/
def openGroup (b : Builder) (flags : Flags) : Builder :=
  { b with
    flags, pieces := [], branches := [], frames := ⟨b.flags, b.pieces, b.branches⟩ :: b.frames }

/-- The last open group closed. -/
def closeGroup? (b : Builder) : Option Builder :=
  match b.frames with
  | [] => none
  | frame :: frames =>
      let inner := b.whole
      some
        { b with
          flags := frame.flags
          pieces := ⟨inner.regex, inner.depth + 1, true⟩ :: frame.pieces
          branches := frame.branches
          frames }

/-- The flags that hold from here to the end of the group. -/
def setFlags (b : Builder) (flags : Flags) : Builder :=
  { b with flags, pieces := ⟨.empty, 0, false⟩ :: b.pieces }

/-- The expression that has been read, if every group is closed. -/
def finish? (b : Builder) : Option Regex :=
  if b.frames.isEmpty && b.whole.depth ≤ maxDepth then some b.whole.regex else none

end Builder

/-! ### Groups -/

/-- Whether a character may stand in the name of a group. -/
def isNameChar (first : Bool) (c : Char) : Bool :=
  c == '_' || Text.isAlphabetic c ||
    (!first && (c == '.' || c == '[' || c == ']' || (Text.Category.ofChar c).isNumber))

/-- The name of a group, given what follows its opening angle bracket. -/
def takeName? (cs : List Char) : Option (List Char × List Char) :=
  match Escape.cut? ['>'] cs with
  | some (c :: name, r) =>
      if isNameChar true c && name.all (isNameChar false) then some (c :: name, r) else none
  | _ => none

/-- Sets one flag by its letter. -/
def Flags.set? (f : Flags) (value : Bool) : Char → Option Flags
  | 'i' => some { f with ignoreCase := value }
  | 'm' => some { f with multiLine := value }
  | 's' => some { f with dotAll := value }
  | 'R' => some { f with crlf := value }
  | 'x' => some { f with verbose := value }
  | 'u' => some { f with unicode := value }
  -- Whether repetitions are lazy makes no difference to whether a text matches.
  | 'U' => some f
  | _ => none

/-- Letters of flags up to the colon or parenthesis that ends them. Each may stand once; a hyphen
turns those after it off. -/
def takeFlags? (value : Bool) (seen : List Char) (f : Flags) :
    List Char → Option (Flags × List Char)
  | [] => none
  | c :: r =>
      if c == ':' || c == ')' then
        if seen.head? == some '-' then none else some (f, c :: r)
      else if seen.contains c then none
      else if c == '-' then takeFlags? false (c :: seen) f r
      else (f.set? value c).bind fun f => takeFlags? value (c :: seen) f r

/-- What an opening parenthesis stands for, given what follows it. -/
def takeGroup? (b : Builder) (cs : List Char) : Option (Builder × List Char) :=
  let named (r : List Char) : Option (Builder × List Char) := do
    let (name, r) ← takeName? r
    if b.names.contains name then none
    else some ({ b.openGroup b.flags with names := name :: b.names }, r)
  match skip b.flags.verbose cs with
  | '?' :: '=' :: _ | '?' :: '!' :: _ => none
  | '?' :: '<' :: '=' :: _ | '?' :: '<' :: '!' :: _ => none
  | '?' :: 'P' :: '<' :: r => named r
  | '?' :: '<' :: r => named r
  | '?' :: ')' :: _ => none
  | '?' :: r =>
      match takeFlags? true [] b.flags r with
      | some (f, ')' :: r) => some (b.setFlags f, r)
      | some (f, ':' :: r) => some (b.openGroup f, r)
      | _ => none
  | r => some (b.openGroup b.flags, r)

/-! ### Repetitions -/

/-- The ASCII digits at the front of a text, at most `fuel` of them. -/
def takeDigits (verbose : Bool) : Nat → List Char → List Char × List Char
  | fuel + 1, c :: r =>
      if c.isDigit then
        let (ds, r) := takeDigits verbose fuel (skip verbose r)
        (c :: ds, r)
      else ([], c :: r)
  | _, cs => ([], cs)

/-- A decimal number with blanks around it. -/
def takeCount? (verbose : Bool) (cs : List Char) : Option (Nat × List Char) :=
  let (ds, r) := takeDigits verbose cs.length (cs.dropWhile Text.isBlank)
  if ds.isEmpty then none
  else
    let n := Text.digitsValue 0 ds
    if n ≤ Text.maxUnsigned32 then some (n, skip verbose (r.dropWhile Text.isBlank)) else none

/-- The bounds of a counted repetition, given what follows its opening brace. -/
def takeBounds? (verbose : Bool) (cs : List Char) :
    Option ((Nat × Option Nat) × List Char) := do
  let (least, r) ← takeCount? verbose (skip verbose cs)
  match r with
  | ',' :: r =>
      match skip verbose r with
      | '\x7D' :: r => some ((least, none), r)
      | r =>
          let (most, r) ← takeCount? verbose r
          match r with
          | '\x7D' :: r => if least ≤ most then some ((least, some most), r) else none
          | _ => none
  | '\x7D' :: r => some ((least, some least), r)
  | _ => none

/-- What follows a repetition: a question mark only asks for the shortest match. -/
def dropLazy : List Char → List Char
  | '?' :: r => r
  | r => r

/-! ### The whole -/

/-- What a dot stands for. Without Unicode it stands for bytes and is refused. -/
def Flags.dot? (f : Flags) : Option CharSet :=
  if !f.unicode then none
  else if f.dotAll then some .all
  else if f.crlf then some (.compl (.ranges [('\n', '\n'), ('\r', '\r')]))
  else some (.compl (.single '\n'))

/-- The expression of an escape outside brackets. A character is refused only where its letters
have to be folded. -/
def Flags.escape? (f : Flags) : Escape → Option Regex
  | .textStart => some (.look .textStart)
  | .textEnd => some (.look .textEnd)
  | .word edge => some (.look (.word edge (!f.unicode)))
  | .literal c => if f.ignoreCase then (f.literalSet? c).map .set else some (.set (.single c))
  | e => (f.escapeSet? e).map .set

/-- Reads the rest of a pattern. `fuel` bounds the number of its parts. -/
def readParts : Nat → Builder → List Char → Option Builder
  | 0, b, cs => if (skip b.flags.verbose cs).isEmpty then some b else none
  | fuel + 1, b, cs =>
      match skip b.flags.verbose cs with
      | [] => some b
      | c :: r =>
          match c with
          | '(' => do
              let (b, r) ← takeGroup? b r
              readParts fuel b r
          | ')' => do
              let b ← b.closeGroup?
              readParts fuel b r
          | '|' => readParts fuel b.nextBranch r
          | '[' => do
              let ((s, depth), r) ← takeClass? b.flags (r.length + 1) r
              readParts fuel (b.push ⟨.set s, depth, true⟩) r
          | '*' => do
              let b ← b.repeatLast? 0 none
              readParts fuel b (dropLazy r)
          | '+' => do
              let b ← b.repeatLast? 1 none
              readParts fuel b (dropLazy r)
          | '?' => do
              let b ← b.repeatLast? 0 (some 1)
              readParts fuel b (dropLazy r)
          | '\x7B' => do
              let ((least, most), r) ← takeBounds? b.flags.verbose r
              let b ← b.repeatCounted? least most
              readParts fuel b (dropLazy (skip b.flags.verbose r))
          | '\\' => do
              let (e, r) ← Escape.take? b.flags.verbose r
              let e ← b.flags.escape? e
              readParts fuel (b.pushLeaf e) r
          | '.' => do
              let s ← b.flags.dot?
              readParts fuel (b.pushLeaf (.set s)) r
          | '^' =>
              let l := if b.flags.multiLine then Look.lineStart b.flags.crlf else .textStart
              readParts fuel (b.pushLeaf (.look l)) r
          | '$' =>
              let l := if b.flags.multiLine then Look.lineEnd b.flags.crlf else .textEnd
              readParts fuel (b.pushLeaf (.look l)) r
          | c => do
              let e ← b.flags.escape? (.literal c)
              readParts fuel (b.pushLeaf e) r

/-- The expression that a pattern stands for, if it is well formed and not too large. -/
def parse? (flags : Flags) (pattern : List Char) : Option Regex :=
  (readParts pattern.length (.start flags) pattern).bind (·.finish?)

end Deferral.Regex

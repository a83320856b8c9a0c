import Deferral.Regex.Escape
import Deferral.Regex.Parser

/-!
# Key patterns

The patterns that keys of a cache are chosen by, and the globs that most of them are.

## Main results

* `length_lt_of_takeBody?` — what follows a class is shorter than the text the class was taken from.
-/

namespace Deferral

/-! ### Globs

In a glob a star stands for any run of characters, a question mark for one character, brackets for a
class, and a backslash takes the next character as it is. A glob is matched by way of the pattern of
a regular expression, which is also shown to users. -/

/-- An element of a glob. -/
inductive GlobItem where
  | anyRun
  | anyChar
  | literal (c : Char)
  /-- A class with what stands between its brackets. -/
  | members (body : List Char)
deriving DecidableEq, Repr

namespace Glob

/-- What stands before the bracket that closes a class, and what follows it. A backslash takes the
next character along, and a bracket at the very front closes nothing. -/
def takeBody? (front : Bool) : List Char → Option (List Char × List Char)
  | [] => none
  | c :: r =>
      if c == '\\' then
        match r with
        | [] => none
        | d :: r => (takeBody? false r).map fun (body, rest) => (c :: d :: body, rest)
      else if c == ']' && !front then some ([], r)
      else (takeBody? false r).map fun (body, rest) => (c :: body, rest)

/-- What follows a class is shorter than the text that the class was taken from. -/
theorem length_lt_of_takeBody? {front : Bool} {cs body rest : List Char}
    (h : takeBody? front cs = some (body, rest)) : rest.length < cs.length := by
  fun_induction takeBody? front cs generalizing body rest with
  | case1 => simp at h
  | case2 => simp at h
  | case3 front c hc d r ih =>
      obtain ⟨⟨b, t⟩, ht, he⟩ := Option.map_eq_some_iff.1 h
      cases he
      have := ih ht
      simp only [List.length_cons]
      omega
  | case4 front c r hc hb =>
      cases h
      simp
  | case5 front c r hc hb ih =>
      obtain ⟨⟨b, t⟩, ht, he⟩ := Option.map_eq_some_iff.1 h
      cases he
      have := ih ht
      simp only [List.length_cons]
      omega

/-- The elements of a glob. A bracket that nothing closes and a backslash at the end stand for
themselves. -/
def items : List Char → List GlobItem
  | [] => []
  | c :: r =>
      if c == '*' then .anyRun :: items r
      else if c == '?' then .anyChar :: items r
      else if c == '\\' then
        match r with
        | [] => [.literal '\\']
        | d :: r => .literal d :: items r
      else if c == '[' then
        match h : takeBody? true r with
        | some (body, rest) =>
            have := length_lt_of_takeBody? h
            .members body :: items rest
        | none => .literal '[' :: items r
      else .literal c :: items r
termination_by cs => cs.length

/-- A character as a pattern that matches just it. -/
def escaped (c : Char) : List Char := if Regex.Escape.isMeta c then ['\\', c] else [c]

/-- The members of a class as a pattern: an escape is kept, and what would be an operator there is
escaped. -/
def memberPattern : List Char → List Char
  | [] => []
  | ['\\'] => []
  | '\\' :: c :: r => '\\' :: c :: memberPattern r
  | c :: r =>
      if ['[', ']', '&', '~', '^'].contains c then '\\' :: c :: memberPattern r
      else c :: memberPattern r

/-- A class as a pattern. -/
def classPattern (body : List Char) : List Char :=
  match body with
  | '^' :: r | '!' :: r => '[' :: '^' :: (memberPattern r ++ [']'])
  | _ => '[' :: (memberPattern body ++ [']'])

end Glob

/-- An element as a pattern. -/
def GlobItem.pattern : GlobItem → List Char
  | anyRun => ['.', '*']
  | anyChar => ['.']
  | literal c => Glob.escaped c
  | members body => Glob.classPattern body

/-- The pattern of the regular expression that matches what a glob matches. -/
def Glob.pattern (glob : List Char) : List Char :=
  '^' :: ((items glob).flatMap GlobItem.pattern ++ ['$'])

/-! ### Key patterns

A pattern for the keys of a cache is a glob, unless it is written between slashes as a regular
expression, or is one already. The keys of a cache may all begin with one text, its key head: a
glob that does not mention it gets it in front, and a regular expression only matches keys in which
it occurs. -/

/-- Whether a text occurs in another. -/
def Text.occursIn (needle : List Char) : List Char → Bool
  | [] => needle.isEmpty
  | c :: r => needle.isPrefixOf (c :: r) || occursIn needle r

/-- A pattern as a caller gives it. -/
inductive KeyPattern where
  | text (s : String)
  | regex (r : Regex)
deriving DecidableEq, Repr

/-- A pattern ready to be matched. -/
inductive KeyMatcher where
  | glob (glob : List Char) (regex : Regex)
  | regex (regex : Regex) (keyHead : Option (List Char))
deriving DecidableEq, Repr

namespace KeyMatcher

/-- The letters that may follow the closing slash of a regular expression. -/
def isLiteralFlag (c : Char) : Bool := ['d', 'g', 'i', 'm', 's', 'u', 'y'].contains c

/-- The flags of a regular expression, of which three make a difference. -/
def literalFlags (letters : List Char) : Regex.Flags :=
  { Regex.Flags.plain with
    ignoreCase := letters.contains 'i'
    multiLine := letters.contains 'm'
    dotAll := letters.contains 's' }

/-- What stands before the last slash and what after it. -/
def cutAtLastSlash? (cs : List Char) : Option (List Char × List Char) :=
  match (cs.reverse.span (· != '/')) with
  | (flags, _ :: body) => some (body.reverse, flags.reverse)
  | (_, []) => none

/-- A text between slashes with flags after it, as a regular expression. A text that is no such
thing, or whose pattern is no regular expression, is a glob. -/
def literalRegex? (cs : List Char) : Option Regex :=
  match cs with
  | '/' :: r =>
      match cutAtLastSlash? r with
      | some (body, letters) =>
          if !body.isEmpty && letters.all isLiteralFlag then
            Regex.parse? (literalFlags letters) body
          else none
      | none => none
  | _ => none

/-- The key head of a cache, if it has one that is not empty. -/
def keyHead? (keyHead : Option String) : Option (List Char) :=
  (keyHead.map String.toList).filter (!·.isEmpty)

/-- A glob that mentions the key head. -/
def scopedGlob (keyHead : Option (List Char)) (glob : List Char) : List Char :=
  match keyHead with
  | some h => if Text.occursIn h glob then glob else h ++ glob
  | none => glob

/-- The matcher of a pattern in a cache; none if the glob has a class that means nothing. -/
def parse? (pattern : KeyPattern) (keyHead : Option String) : Option KeyMatcher :=
  let keyHead := keyHead? keyHead
  match pattern with
  | .regex r => some (regex r keyHead)
  | .text s =>
      match literalRegex? s.toList with
      | some r => some (regex r keyHead)
      | none =>
          let g := scopedGlob keyHead s.toList
          (Regex.parse? .plain (Glob.pattern g)).map (glob g)

/-- Whether the pattern is a regular expression. -/
def isRegex : KeyMatcher → Bool
  | regex .. => true
  | glob .. => false

/-- The glob that a server is asked to filter its keys by. -/
def scanPattern : KeyMatcher → List Char
  | glob g _ => g
  | regex .. => ['*']

/-- Whether a full key matches. -/
def isMatch (m : KeyMatcher) (key : String) : Bool :=
  match m with
  | glob _ r => r.isMatch key.toList
  | regex r keyHead => keyHead.all (Text.occursIn · key.toList) && r.isMatch key.toList

end KeyMatcher

end Deferral

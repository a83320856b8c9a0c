import Deferral.Text.Category
import Deferral.Text.Casing
import Deferral.Text.Basic

/-!
# Sets of characters

What a pattern lets stand in one place: ranges, named classes, and sets made of them.

## Main results

* `mem_single` — a single character is a set of its own.
-/

namespace Deferral

/-- A property of characters that a pattern can name. -/
inductive CharProperty where
  | any
  | ascii
  | assigned
  | blank
  | letter
  | casedLetter
  | mark
  | number
  | punctuation
  | symbol
  | separator
  | other
  | category (k : Text.Category)
deriving DecidableEq, Repr

namespace CharProperty

open Text in
/-- Whether a character has the property. -/
def holds (p : CharProperty) (c : Char) : Bool :=
  let k := Category.ofChar c
  match p with
  | any => true
  | ascii => c.toNat < 128
  | assigned => k != .unassigned
  | blank => isBlank c
  | letter => k.isLetter
  | casedLetter => k == .upperLetter || k == .lowerLetter || k == .titleLetter
  | mark => k.isMark
  | number => k.isNumber
  | punctuation => k.isPunctuation
  | symbol => k.isSymbol
  | separator => k.isSeparator
  | other => k.isOther
  | category k' => k == k'

/-- The names of the properties, without blanks, hyphens and underscores and in lower case. -/
def names : List (String × CharProperty) :=
  [
    ("any", any), ("ascii", ascii), ("assigned", assigned),
    ("whitespace", blank), ("wspace", blank), ("space", blank),
    ("l", letter), ("letter", letter),
    ("casedletter", casedLetter), ("lc", casedLetter),
    ("m", mark), ("mark", mark), ("combiningmark", mark),
    ("n", number), ("number", number),
    ("p", punctuation), ("punctuation", punctuation), ("punct", punctuation),
    ("s", symbol), ("symbol", symbol),
    ("z", separator), ("separator", separator),
    ("c", other), ("other", other),
    ("lu", category .upperLetter), ("uppercaseletter", category .upperLetter),
    ("ll", category .lowerLetter), ("lowercaseletter", category .lowerLetter),
    ("lt", category .titleLetter), ("titlecaseletter", category .titleLetter),
    ("lm", category .modifierLetter), ("modifierletter", category .modifierLetter),
    ("lo", category .otherLetter), ("otherletter", category .otherLetter),
    ("mn", category .nonspacingMark), ("nonspacingmark", category .nonspacingMark),
    ("mc", category .spacingMark), ("spacingmark", category .spacingMark),
    ("me", category .enclosingMark), ("enclosingmark", category .enclosingMark),
    ("nd", category .decimalNumber), ("decimalnumber", category .decimalNumber),
    ("digit", category .decimalNumber),
    ("nl", category .letterNumber), ("letternumber", category .letterNumber),
    ("no", category .otherNumber), ("othernumber", category .otherNumber),
    ("pc", category .connector), ("connectorpunctuation", category .connector),
    ("pd", category .dash), ("dashpunctuation", category .dash),
    ("ps", category .openPunctuation), ("openpunctuation", category .openPunctuation),
    ("pe", category .closePunctuation), ("closepunctuation", category .closePunctuation),
    ("pi", category .initialQuote), ("initialpunctuation", category .initialQuote),
    ("pf", category .finalQuote), ("finalpunctuation", category .finalQuote),
    ("po", category .otherPunctuation), ("otherpunctuation", category .otherPunctuation),
    ("sm", category .mathSymbol), ("mathsymbol", category .mathSymbol),
    ("sc", category .currency), ("currencysymbol", category .currency),
    ("sk", category .modifierSymbol), ("modifiersymbol", category .modifierSymbol),
    ("so", category .otherSymbol), ("othersymbol", category .otherSymbol),
    ("zs", category .spaceSeparator), ("spaceseparator", category .spaceSeparator),
    ("zl", category .lineSeparator), ("lineseparator", category .lineSeparator),
    ("zp", category .paragraphSeparator), ("paragraphseparator", category .paragraphSeparator),
    ("cc", category .control), ("control", category .control), ("cntrl", category .control),
    ("cf", category .format), ("format", category .format),
    ("co", category .privateUse), ("privateuse", category .privateUse),
    ("cn", category .unassigned), ("unassigned", category .unassigned)
  ]

/-- A name as the table has it; a leading `is` does not count. -/
def normalName (name : List Char) : List Char :=
  let rest := match name with
    | a :: b :: r => if a.toLower == 'i' && b.toLower == 's' then r else name
    | _ => name
  (rest.filter fun c => c.toNat < 128 && c != ' ' && c != '_' && c != '-').map Char.toLower

/-- The property with a name. -/
def named? (name : List Char) : Option CharProperty :=
  names.lookup (String.ofList (normalName name))

/-- The names under which a general category is asked for with its value. -/
def isCategoryKey (name : List Char) : Bool :=
  let key := String.ofList (normalName name)
  key == "gc" || key == "generalcategory"

end CharProperty

/-- A set of characters. -/
inductive CharSet where
  | none
  | range (first last : Char)
  | digit
  | blank
  | word
  | property (p : CharProperty)
  | compl (s : CharSet)
  | union (s t : CharSet)
  | inter (s t : CharSet)
  | diff (s t : CharSet)
  | symmDiff (s t : CharSet)
  /-- With every character, all that differ from it in case only. -/
  | folded (s : CharSet)
  /-- With every ASCII letter, the letter in the other case. -/
  | foldedAscii (s : CharSet)
deriving DecidableEq, Repr

namespace CharSet

/-- An ASCII letter in the other case, and any other character as it is. -/
def otherCase (c : Char) : Char := if c.isUpper then c.toLower else c.toUpper

/-- Whether a character is in the set. -/
def mem : CharSet → Char → Bool
  | none, _ => false
  | range first last, c => first ≤ c && c ≤ last
  | digit, c => Text.isDigit c
  | blank, c => Text.isBlank c
  | word, c => Text.isWord c
  | property p, c => p.holds c
  | compl s, c => !s.mem c
  | union s t, c => s.mem c || t.mem c
  | inter s t, c => s.mem c && t.mem c
  | diff s t, c => s.mem c && !t.mem c
  | symmDiff s t, c => s.mem c != t.mem c
  | folded s, c => (Text.variants c).any fun d => s.mem d
  | foldedAscii s, c => s.mem c || s.mem (otherCase c)

/-- The set of one character. -/
def single (c : Char) : CharSet := range c c

/-- The set of all characters. -/
def all : CharSet := compl none

/-- The characters of several ranges. -/
def ranges (rs : List (Char × Char)) : CharSet :=
  rs.foldl (fun s r => union s (range r.1 r.2)) none

/-- The ASCII digits. -/
def asciiDigit : CharSet := range '0' '9'

/-- The ASCII white space. -/
def asciiBlank : CharSet := ranges [('\t', '\r'), (' ', ' ')]

/-- The ASCII letters and digits and the underscore. -/
def asciiWord : CharSet := ranges [('0', '9'), ('A', 'Z'), ('_', '_'), ('a', 'z')]

/-- The ASCII classes that a pattern can name between `[:` and `:]`. -/
def asciiNames : List (String × CharSet) :=
  [
    ("alnum", ranges [('0', '9'), ('A', 'Z'), ('a', 'z')]),
    ("alpha", ranges [('A', 'Z'), ('a', 'z')]),
    ("ascii", range '\x00' '\x7F'),
    ("blank", ranges [('\t', '\t'), (' ', ' ')]),
    ("cntrl", ranges [('\x00', '\x1F'), ('\x7F', '\x7F')]),
    ("digit", asciiDigit),
    ("graph", range '!' '~'),
    ("lower", range 'a' 'z'),
    ("print", range ' ' '~'),
    ("punct", ranges [('!', '/'), (':', '@'), ('[', '\x60'), ('\x7B', '~')]),
    ("space", asciiBlank),
    ("upper", range 'A' 'Z'),
    ("word", asciiWord),
    ("xdigit", ranges [('0', '9'), ('A', 'F'), ('a', 'f')])
  ]

/-- Roughly how large a machine for the set is. -/
def weight : CharSet → Nat
  | none => 1
  | range first last => if first == last then 1 else 4
  | digit => 100
  | blank => 20
  | word | property _ => 1200
  | compl s | folded s | foldedAscii s => s.weight + 16
  | union s t | inter s t | diff s t | symmDiff s t => s.weight + t.weight

/-- The set of one character has that character only. -/
theorem mem_single {c d : Char} : (single c).mem d = true ↔ d = c := by
  simp only [single, mem, Bool.and_eq_true, decide_eq_true_eq]
  constructor
  · intro h
    exact Char.le_antisymm h.2 h.1
  · rintro rfl
    exact ⟨Char.le_refl _, Char.le_refl _⟩

end CharSet

end Deferral

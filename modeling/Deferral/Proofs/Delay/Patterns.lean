import Deferral.Proofs.Delay.Alphabet
import Deferral.Proofs.Delay.Iso
import Deferral.Proofs.Regex.Texts
import Deferral.Regex.Parser

/-!
# The readers and their patterns

The forms of a delay are given by two patterns. The digits of a pattern are those of every script,
while a number is only read from those of ASCII. Where the digits that a pattern takes are of ASCII,
the reader of the ISO 8601 form accepts what its pattern matches, if there is a digit at all and no
`T` at the end. The reader of tokens takes the text up to the farthest place to which its pattern
leads, which is what a greedy search takes.

## Main results

* `parse?_isoPattern`, `parse?_tokenPattern` — the expressions that the patterns are read as;
* `isMatch_isoRegex_iff` — the texts that the first pattern matches;
* `isSome_isoComponents?_iff` — the ISO 8601 reader and its pattern;
* `leads_tokenRegex_iff` — where the second pattern leads;
* `exists_takeToken?_iff` — the token reader and its pattern.
-/

namespace Deferral

namespace Delay

open Text

variable {c : Char} {cs rest xs : List Char} {n : Numeral} {u : TimeUnit} {mark : Char}
  {parts : Parts} {marks : List (Char × TimeUnit)}

/-! ### Numerals -/

/-- A numeral of decimal digits of any scripts, at least one of them before the point. -/
structure Numeral.IsNumeric (n : Numeral) : Prop where
  whole_ne_nil : n.whole ≠ []
  isDigit_whole : ∀ c ∈ n.whole, Text.isDigit c = true
  isDigit_fraction : ∀ c ∈ n.fraction, Text.isDigit c = true

/-- The decimal digits of a text are all of ASCII. -/
def HasAsciiDigits (cs : List Char) : Prop := ∀ c ∈ cs, Text.isDigit c = true → c.isDigit = true

/-- The characters of a numeral are its digits and perhaps a point. -/
theorem Numeral.mem_text (h : c ∈ n.text) : c ∈ n.whole ∨ c ∈ n.fraction ∨ c = '.' := by
  rw [text] at h
  split at h
  · rw [List.append_nil] at h
    exact .inl h
  · rw [List.mem_append, List.mem_cons] at h
    rcases h with hwhole | rfl | hfraction
    · exact .inl hwhole
    · exact .inr (.inr rfl)
    · exact .inr (.inl hfraction)

/-- The digits before the point are in the text of a numeral. -/
theorem Numeral.mem_text_of_mem_whole (h : c ∈ n.whole) : c ∈ n.text :=
  List.mem_append_left _ h

/-- So are those behind it. -/
theorem Numeral.mem_text_of_mem_fraction (h : c ∈ n.fraction) : c ∈ n.text := by
  rw [text_of_fraction_ne_nil (List.ne_nil_of_mem h)]
  exact List.mem_append_right _ (List.mem_cons_of_mem _ h)

/-- A numeral is read exactly if its digits are of ASCII. -/
theorem Numeral.isDecimal_iff_isNumeric :
    n.IsDecimal ↔ n.IsNumeric ∧ HasAsciiDigits n.text := by
  constructor
  · intro h
    refine ⟨⟨h.whole_ne_nil, fun c hc => isDigit_of_isDigit (h.isDigit_whole c hc),
      fun c hc => isDigit_of_isDigit (h.isDigit_fraction c hc)⟩, fun c hc hdigit => ?_⟩
    rcases mem_text hc with hwhole | hfraction | rfl
    · exact h.isDigit_whole c hwhole
    · exact h.isDigit_fraction c hfraction
    · exact (isDigit_eq_of_lt (by decide)).symm.trans hdigit
  · rintro ⟨h, hascii⟩
    exact ⟨h.whole_ne_nil,
      fun c hc => hascii c (mem_text_of_mem_whole hc) (h.isDigit_whole c hc),
      fun c hc => hascii c (mem_text_of_mem_fraction hc) (h.isDigit_fraction c hc)⟩

/-- One or more decimal digits. -/
def digitsRegex : Regex := (Regex.set .digit).repeated 1 none

/-- Digits, and perhaps a point and digits after it. -/
def numeralRegex (point : CharSet) : Regex :=
  .seq digitsRegex ((Regex.seq (.set point) digitsRegex).repeated 0 (some 1))

/-- The texts of the pattern for digits: one digit or more, of any script. -/
theorem mem_texts_digitsRegex_iff :
    xs ∈ digitsRegex.texts ↔ xs ≠ [] ∧ ∀ c ∈ xs, Text.isDigit c = true :=
  Regex.mem_texts_oneOrMore_iff

/-- The texts of a numeral in a pattern. -/
theorem mem_texts_numeralRegex_iff {point : CharSet}
    (hpoint : ∀ c, point.mem c = true ↔ c = '.') :
    xs ∈ (numeralRegex point).texts ↔ ∃ n : Numeral, n.IsNumeric ∧ xs = n.text := by
  constructor
  · intro h
    obtain ⟨whole, hwhole, tail, htail, rfl⟩ := Language.mem_mul.mp h
    obtain ⟨hne, hdigits⟩ := mem_texts_digitsRegex_iff.mp hwhole
    rcases Regex.mem_texts_optional_iff.mp htail with rfl | htail
    · exact ⟨⟨whole, []⟩, ⟨hne, hdigits, List.forall_mem_nil _⟩, rfl⟩
    · obtain ⟨_, ⟨c, rfl, hc⟩, fraction, hfraction, rfl⟩ := Language.mem_mul.mp htail
      obtain ⟨hsome, hmore⟩ := mem_texts_digitsRegex_iff.mp hfraction
      obtain rfl := (hpoint c).mp hc
      exact ⟨⟨whole, fraction⟩, ⟨hne, hdigits, hmore⟩,
        (Numeral.text_of_fraction_ne_nil (n := ⟨whole, fraction⟩) hsome).symm⟩
  · rintro ⟨n, hn, rfl⟩
    have hwhole := mem_texts_digitsRegex_iff.mpr ⟨hn.whole_ne_nil, hn.isDigit_whole⟩
    by_cases hfraction : n.fraction = []
    · rw [Numeral.text_of_fraction_eq_nil hfraction, ← List.append_nil n.whole]
      exact Language.append_mem_mul hwhole (Regex.mem_texts_optional_iff.mpr (.inl rfl))
    · rw [Numeral.text_of_fraction_ne_nil hfraction]
      refine Language.append_mem_mul hwhole (Regex.mem_texts_optional_iff.mpr (.inr ?_))
      exact Language.append_mem_mul (a := ['.']) ⟨'.', rfl, (hpoint '.').mpr rfl⟩
        (mem_texts_digitsRegex_iff.mpr ⟨hfraction, hn.isDigit_fraction⟩)

/-! ### The ISO 8601 form -/

/-- The pattern of the ISO 8601 form. -/
def isoPattern : String :=
  "^P(?:(?P<y>\\d+(?:\\.\\d+)?)Y)?(?:(?P<mo>\\d+(?:\\.\\d+)?)M)?" ++
    "(?:(?P<w>\\d+(?:\\.\\d+)?)W)?(?:(?P<d>\\d+(?:\\.\\d+)?)D)?" ++
    "(?:T(?:(?P<h>\\d+(?:\\.\\d+)?)H)?(?:(?P<mi>\\d+(?:\\.\\d+)?)M)?" ++
    "(?:(?P<s>\\d+(?:\\.\\d+)?)S)?)?$"

/-- A numeral with a letter behind it, or nothing. -/
def componentRegex (mark : Char) : Regex :=
  (Regex.seq (numeralRegex (.single '.')) (.set (.single mark))).repeated 0 (some 1)

/-- The part of the time. -/
def timeRegex : Regex :=
  .seq (.set (.single 'T'))
    (.seq (componentRegex 'H') (.seq (componentRegex 'M') (componentRegex 'S')))

/-- What stands between the start of the text and its end. -/
def isoParts : List Regex :=
  .set (.single 'P') :: (dateMarks.map fun row => componentRegex row.1) ++
    [timeRegex.repeated 0 (some 1)]

/-- The expression for the ISO 8601 form. -/
def isoRegex : Regex := .seq (.look .textStart) (isoParts.foldr .seq (.look .textEnd))

/-- **The pattern of the ISO 8601 form.** It reads as this expression. -/
theorem parse?_isoPattern : Regex.parse? .plain isoPattern.toList = some isoRegex := by
  decide +kernel

/-- Every numeral that is given has decimal digits only, at least one of them before the point. -/
def Parts.IsNumeric (parts : Parts) : Prop := ∀ u, ∀ n ∈ parts u, n.IsNumeric

/-- The texts of the pattern for a component: nothing, or a numeral and its mark. -/
theorem mem_texts_componentRegex_iff :
    xs ∈ (componentRegex mark).texts ↔
      xs = [] ∨ ∃ n : Numeral, n.IsNumeric ∧ xs = n.text ++ [mark] := by
  rw [componentRegex, Regex.mem_texts_optional_iff]
  refine or_congr_right ⟨fun h => ?_, ?_⟩
  · obtain ⟨_, hnumeral, _, ⟨c, rfl, hc⟩, rfl⟩ := Language.mem_mul.mp h
    obtain ⟨n, hn, rfl⟩ := (mem_texts_numeralRegex_iff fun _ => CharSet.mem_single).mp hnumeral
    exact ⟨n, hn, by rw [CharSet.mem_single.mp hc]⟩
  · rintro ⟨n, hn, rfl⟩
    exact Language.append_mem_mul
      ((mem_texts_numeralRegex_iff fun _ => CharSet.mem_single).mpr ⟨n, hn, rfl⟩)
      ⟨mark, rfl, CharSet.mem_single.mpr rfl⟩

/-- Components one after another stand for the texts of the choices of numerals. -/
theorem mem_prod_componentRegex_iff (hmarks : IsLegend marks) :
    xs ∈ ((marks.map fun row => componentRegex row.1).map Regex.texts).prod ↔
      ∃ parts : Parts, parts.IsNumeric ∧ xs = parts.textOf marks := by
  induction marks generalizing xs with
  | nil =>
      refine (Language.mem_one xs).trans ⟨fun h => ⟨fun _ => none, nofun, h⟩, ?_⟩
      rintro ⟨parts, -, rfl⟩
      rfl
  | cons row marks ih =>
      obtain ⟨mark, u⟩ := row
      rw [List.map_cons, List.map_cons, List.prod_cons]
      constructor
      · intro h
        obtain ⟨ys, hys, zs, hzs, rfl⟩ := Language.mem_mul.mp h
        obtain ⟨parts, hparts, rfl⟩ := (ih hmarks.tail).mp hzs
        rcases mem_texts_componentRegex_iff.mp hys with rfl | ⟨n, hn, rfl⟩
        · refine ⟨Function.update parts u none, Parts.forall_update hparts nofun, ?_⟩
          rw [Parts.textOf_cons_of_none (Function.update_self ..),
            Parts.textOf_update hmarks.ne_of_mem]
          rfl
        · refine ⟨Function.update parts u (some n),
            Parts.forall_update hparts (by simpa using hn), ?_⟩
          rw [Parts.textOf_cons_of_some (Function.update_self ..),
            Parts.textOf_update hmarks.ne_of_mem, List.append_assoc, List.singleton_append]
      · rintro ⟨parts, hparts, rfl⟩
        have hrest := (ih hmarks.tail).mpr ⟨parts, hparts, rfl⟩
        cases hu : parts u with
        | none =>
            rw [Parts.textOf_cons_of_none hu]
            exact Language.append_mem_mul (mem_texts_componentRegex_iff.mpr (.inl rfl)) hrest
        | some n =>
            rw [Parts.textOf_cons_of_some hu, ← List.singleton_append, ← List.append_assoc]
            exact Language.append_mem_mul
              (mem_texts_componentRegex_iff.mpr (.inr ⟨n, hparts u n hu, rfl⟩)) hrest

/-- A `T` and the components of the time stand for the texts of the choices, behind a `T`. -/
theorem mem_texts_timeRegex_iff :
    xs ∈ timeRegex.texts ↔
      ∃ parts : Parts, parts.IsNumeric ∧ xs = 'T' :: parts.textOf timeMarks := by
  have hproduct : timeRegex.texts = (Regex.set (.single 'T')).texts *
      ((timeMarks.map fun row => componentRegex row.1).map Regex.texts).prod := by
    simp only [timeRegex, timeMarks, Regex.texts, List.map_cons, List.map_nil, List.prod_cons,
      List.prod_nil, mul_one]
  rw [hproduct]
  constructor
  · intro h
    obtain ⟨_, ⟨c, rfl, hc⟩, ys, hys, rfl⟩ := Language.mem_mul.mp h
    obtain rfl := CharSet.mem_single.mp hc
    obtain ⟨parts, hparts, rfl⟩ := (mem_prod_componentRegex_iff isLegend_timeMarks).mp hys
    exact ⟨parts, hparts, rfl⟩
  · rintro ⟨parts, hparts, rfl⟩
    exact Language.append_mem_mul (a := ['T']) ⟨'T', rfl, CharSet.mem_single.mpr rfl⟩
      ((mem_prod_componentRegex_iff isLegend_timeMarks).mpr ⟨parts, hparts, rfl⟩)

/-- What the pattern takes: a `P`, the components of a date, and nothing or a `T` and the components
of a time. -/
theorem mem_prod_isoParts_iff :
    cs ∈ (isoParts.map Regex.texts).prod ↔
      ∃ date : Parts, date.IsNumeric ∧ ∃ tail, cs = 'P' :: (date.textOf dateMarks ++ tail) ∧
        (tail = [] ∨ ∃ time : Parts, time.IsNumeric ∧ tail = 'T' :: time.textOf timeMarks) := by
  have hproduct : (isoParts.map Regex.texts).prod = (Regex.set (.single 'P')).texts *
      (((dateMarks.map fun row => componentRegex row.1).map Regex.texts).prod *
        (timeRegex.repeated 0 (some 1)).texts) := by
    rw [isoParts, List.map_append, List.prod_append, List.map_cons, List.prod_cons, List.map_cons,
      List.map_nil, List.prod_singleton, mul_assoc]
  rw [hproduct]
  constructor
  · intro h
    obtain ⟨_, ⟨c, rfl, hc⟩, _, hrest, rfl⟩ := Language.mem_mul.mp h
    obtain ⟨ys, hys, tail, htail, rfl⟩ := Language.mem_mul.mp hrest
    obtain rfl := CharSet.mem_single.mp hc
    obtain ⟨date, hdate, rfl⟩ := (mem_prod_componentRegex_iff isLegend_dateMarks).mp hys
    refine ⟨date, hdate, tail, rfl, ?_⟩
    exact (Regex.mem_texts_optional_iff.mp htail).imp_right mem_texts_timeRegex_iff.mp
  · rintro ⟨date, hdate, tail, rfl, htail⟩
    refine Language.append_mem_mul (a := ['P']) ⟨'P', rfl, CharSet.mem_single.mpr rfl⟩
      (Language.append_mem_mul
        ((mem_prod_componentRegex_iff isLegend_dateMarks).mpr ⟨date, hdate, rfl⟩) ?_)
    exact Regex.mem_texts_optional_iff.mpr (htail.imp_right mem_texts_timeRegex_iff.mpr)

/-- **The ISO 8601 pattern.** It matches the ISO texts of the choices of numerals, and such a text
without a time with a `T` behind it. -/
theorem isMatch_isoRegex_iff :
    isoRegex.isMatch cs = true ↔ ∃ parts : Parts, parts.IsNumeric ∧
      (cs = parts.isoText ∨ parts.textOf timeMarks = [] ∧ cs = parts.isoText ++ ['T']) := by
  have hplain : ∀ r ∈ isoParts, r.isPlain = true := by decide
  refine (Regex.isMatch_whole_iff hplain).trans (mem_prod_isoParts_iff.trans ?_)
  constructor
  · rintro ⟨date, hdate, tail, rfl, rfl | ⟨time, htime, rfl⟩⟩
    · refine ⟨date.join fun _ => none, Parts.forall_join hdate nofun, .inl ?_⟩
      rw [Parts.isoText_join]
      rfl
    · refine ⟨date.join time, Parts.forall_join hdate htime, ?_⟩
      rw [Parts.isoText_join, Parts.textOf_congr Parts.join_of_mem_timeMarks]
      by_cases hnil : time.textOf timeMarks = []
      · refine .inr ⟨hnil, ?_⟩
        rw [if_pos hnil, hnil, List.append_nil, List.cons_append]
      · rw [if_neg hnil]
        exact .inl rfl
  · rintro ⟨parts, hparts, rfl | ⟨hnil, rfl⟩⟩
    · refine ⟨parts, hparts, _, rfl, ?_⟩
      split
      · exact .inl rfl
      · exact .inr ⟨parts, hparts, rfl⟩
    · refine ⟨parts, hparts, ['T'], ?_, .inr ⟨parts, hparts, by rw [hnil]⟩⟩
      rw [Parts.isoText, if_pos hnil, List.append_nil, List.cons_append]

/-! ### The ISO 8601 reader -/

/-- A character of the text of some parts is in one of the numerals or is one of the marks. -/
theorem Parts.mem_textOf (h : c ∈ parts.textOf marks) :
    (∃ u, ∃ n ∈ parts u, c ∈ n.text) ∨ c ∈ marks.map (·.1) := by
  obtain ⟨⟨mark, u⟩, hrow, hc⟩ := List.mem_flatMap.mp h
  rw [componentText] at hc
  split at hc
  · rename_i n hn
    rcases List.mem_append.mp hc with htext | hmark
    · exact .inl ⟨u, n, hn, htext⟩
    · obtain rfl := List.mem_singleton.mp hmark
      exact .inr (List.mem_map_of_mem hrow)
  · exact absurd hc List.not_mem_nil

/-- The text of components ends with one of their letters. -/
theorem Parts.getLast?_textOf (parts : Parts) (marks : List (Char × TimeUnit)) :
    ∀ c ∈ (parts.textOf marks).getLast?, c ∈ marks.map (·.1) := by
  induction marks with
  | nil => exact nofun
  | cons row marks ih =>
      obtain ⟨mark, u⟩ := row
      intro c hc
      cases hu : parts u with
      | none =>
          rw [textOf_cons_of_none hu] at hc
          exact List.mem_cons_of_mem _ (ih c hc)
      | some n =>
          rw [textOf_cons_of_some hu, List.getLast?_append, List.getLast?_cons, Option.some_or,
            Option.mem_some_iff] at hc
          cases hlast : (parts.textOf marks).getLast? with
          | none =>
              rw [hlast] at hc
              exact hc ▸ List.mem_cons_self
          | some d =>
              rw [hlast] at hc
              exact hc ▸ List.mem_cons_of_mem _ (ih d hlast)

/-- The text of components that are read begins with a digit, if there are any. -/
theorem Parts.IsDecimal.exists_isDigit (h : parts.IsDecimal) (hne : parts.textOf marks ≠ []) :
    ∃ c ∈ parts.textOf marks, c.isDigit = true := by
  obtain ⟨row, -, n, more, hn, htext⟩ := (parts.textOf_eq_nil_or marks).resolve_left hne
  obtain ⟨c, r, hc, hdigit⟩ := (h _ n hn).exists_cons_text
  refine ⟨c, ?_, hdigit⟩
  rw [htext, hc]
  exact List.mem_append_left _ List.mem_cons_self

/-- The components that are read have digits of ASCII, as have their letters. -/
theorem Parts.IsDecimal.hasAsciiDigits_textOf (h : parts.IsDecimal)
    (hmarks : ∀ row ∈ marks, row.1.toNat < 128) : HasAsciiDigits (parts.textOf marks) := by
  intro c hc hdigit
  rcases mem_textOf hc with ⟨u, n, hn, htext⟩ | hmark
  · exact (Numeral.isDecimal_iff_isNumeric.mp (h u n hn)).2 c htext hdigit
  · obtain ⟨row, hrow, rfl⟩ := List.mem_map.mp hmark
    rwa [isDigit_eq_of_lt (hmarks row hrow)] at hdigit

/-- What is in the numeral of a mark is in the text of the parts. -/
theorem Parts.mem_textOf_of_mem (hrow : (mark, u) ∈ marks) (hn : n ∈ parts u) (hc : c ∈ n.text) :
    c ∈ parts.textOf marks := by
  refine List.mem_flatMap.mpr ⟨(mark, u), hrow, ?_⟩
  rw [componentText, Option.mem_def.mp hn]
  exact List.mem_append_left _ hc

/-- A numeral that is given for a unit with a letter is part of the ISO text. -/
theorem Parts.mem_isoText_of_mem (hu : u ≠ .millisecond) (hn : n ∈ parts u) (hc : c ∈ n.text) :
    c ∈ parts.isoText := by
  have hmark : (∃ mark, (mark, u) ∈ dateMarks) ∨ ∃ mark, (mark, u) ∈ timeMarks := by
    cases u with
    | millisecond => exact absurd rfl hu
    | year | month | week | day => exact .inl ⟨_, by simp [dateMarks]; rfl⟩
    | hour | minute | second => exact .inr ⟨_, by simp [timeMarks]; rfl⟩
  refine List.mem_cons_of_mem _ (List.mem_append.mpr ?_)
  rcases hmark with ⟨mark, hrow⟩ | ⟨mark, hrow⟩
  · exact .inl (mem_textOf_of_mem hrow hn hc)
  · have htime := mem_textOf_of_mem hrow hn hc
    rw [if_neg (List.ne_nil_of_mem htime)]
    exact .inr (List.mem_cons_of_mem _ htime)

/-- A choice whose ISO text has digits of ASCII can be read from it. -/
theorem Parts.IsNumeric.exists_isDecimal (h : parts.IsNumeric)
    (hascii : HasAsciiDigits parts.isoText) :
    ∃ parts' : Parts, parts'.IsDecimal ∧ parts'.isoText = parts.isoText := by
  -- Milliseconds have no letter, so they are no part of the text.
  refine ⟨Function.update parts .millisecond none, fun u n hn => ?_, ?_⟩
  · have hu : u ≠ .millisecond := by
      rintro rfl
      rw [Function.update_self] at hn
      cases hn
    rw [Function.update_of_ne hu] at hn
    exact Numeral.isDecimal_iff_isNumeric.mpr
      ⟨h u n hn, fun c hc => hascii c (mem_isoText_of_mem hu hn hc)⟩
  · have hdate : ∀ row ∈ dateMarks, row.2 ≠ .millisecond := by decide
    have htime : ∀ row ∈ timeMarks, row.2 ≠ .millisecond := by decide
    rw [isoText, isoText, textOf_update hdate, textOf_update htime]

/-- What is read begins and goes on as its pattern asks, with digits of ASCII, and does not end with
a `T`. -/
theorem Parts.IsDecimal.isoText_conditions (h : parts.IsDecimal) (hne : parts.amounts ≠ [])
    (hcs : 'P' :: cs = parts.isoText) :
    HasAsciiDigits cs ∧ (∃ c ∈ cs, c.isDigit = true) ∧ cs.getLast? ≠ some 'T' := by
  have hdate : HasAsciiDigits (parts.textOf dateMarks) := h.hasAsciiDigits_textOf (by decide)
  have htime : HasAsciiDigits (parts.textOf timeMarks) := h.hasAsciiDigits_textOf (by decide)
  have hlastDate := parts.getLast?_textOf dateMarks
  have hlastTime := parts.getLast?_textOf timeMarks
  obtain rfl := (List.cons.inj hcs).2
  rw [amounts_eq_append, ne_eq, List.append_eq_nil_iff, amountsOf_eq_nil_iff,
    amountsOf_eq_nil_iff] at hne
  by_cases hnil : parts.textOf timeMarks = []
  · rw [if_pos hnil, List.append_nil]
    exact ⟨hdate, h.exists_isDigit fun hdateNil => hne ⟨hdateNil, hnil⟩,
      fun hT => absurd (hlastDate 'T' hT) (by decide)⟩
  · rw [if_neg hnil]
    refine ⟨fun c hc => ?_, ?_, fun hT => ?_⟩
    · rcases List.mem_append.mp hc with hc | hc
      · exact hdate c hc
      · rcases List.mem_cons.mp hc with rfl | hc
        · exact fun hdigit => absurd hdigit (by decide +kernel)
        · exact htime c hc
    · obtain ⟨c, hc, hdigit⟩ := h.exists_isDigit hnil
      exact ⟨c, List.mem_append_right _ (List.mem_cons_of_mem _ hc), hdigit⟩
    · rw [List.getLast?_append_of_ne_nil _ (List.cons_ne_nil _ _),
        List.getLast?_cons_of_ne_nil hnil] at hT
      exact absurd (hlastTime 'T' hT) (by decide)

/-- **The ISO 8601 form.** A text behind a `P` is read exactly if the pattern matches, all digits
are of ASCII, there is one, and no `T` stands at the end. -/
theorem isSome_isoComponents?_iff :
    (isoComponents? cs).isSome = true ↔ isoRegex.isMatch ('P' :: cs) = true ∧
      HasAsciiDigits cs ∧ (∃ c ∈ cs, c.isDigit = true) ∧ cs.getLast? ≠ some 'T' := by
  constructor
  · intro h
    obtain ⟨as, has⟩ := Option.isSome_iff_exists.mp h
    obtain ⟨parts, hparts, hne, hcs, -⟩ := isoComponents?_eq_some_iff.mp has
    refine ⟨isMatch_isoRegex_iff.mpr ⟨parts, fun u n hn => ?_, .inl hcs⟩,
      hparts.isoText_conditions hne hcs⟩
    exact (Numeral.isDecimal_iff_isNumeric.mp (hparts u n hn)).1
  · rintro ⟨hmatch, hascii, ⟨c, hc, hdigit⟩, hlast⟩
    obtain ⟨parts, hparts, hcs⟩ := isMatch_isoRegex_iff.mp hmatch
    replace hcs : 'P' :: cs = parts.isoText := by
      refine hcs.resolve_right fun ⟨_, hT⟩ => hlast ?_
      obtain rfl := (List.cons.inj hT).2
      simp
    have hasciiText : HasAsciiDigits parts.isoText := by
      rw [← hcs]
      exact fun d hd => (List.mem_cons.mp hd).elim
        (fun heq hd => by rw [heq] at hd; exact absurd hd (by decide +kernel)) (hascii d)
    obtain ⟨parts', hparts', htext⟩ := hparts.exists_isDecimal hasciiText
    rw [← htext] at hcs
    have hne : parts'.amounts ≠ [] := by
      intro hnil
      rw [Parts.amounts_eq_append, List.append_eq_nil_iff, Parts.amountsOf_eq_nil_iff,
        Parts.amountsOf_eq_nil_iff] at hnil
      rw [Parts.isoText, hnil.1, hnil.2] at hcs
      obtain rfl := (List.cons.inj hcs).2
      exact absurd hc List.not_mem_nil
    exact Option.isSome_of_eq_some (isoComponents?_eq_some_iff.mpr ⟨parts', hparts', hne, hcs, rfl⟩)

/-! ### Tokens -/

/-- The pattern of a token. -/
def tokenPattern : String := "(?i)(\\d+(?:\\.\\d+)?)\\s*([a-z]+)"

/-- The letters of a token in its pattern. -/
def letterSet : CharSet := .folded (.union .none (.range 'a' 'z'))

/-- The expression for a token. -/
def tokenRegex : Regex :=
  .seq (numeralRegex (.folded (.single '.')))
    (.seq (.star (.set .blank)) ((Regex.set letterSet).repeated 1 none))

/-- **The pattern of a token.** It reads as this expression. -/
theorem parse?_tokenPattern : Regex.parse? .plain tokenPattern.toList = some tokenRegex := by
  decide +kernel

/-- What the pattern of a token takes: a numeral, blanks, and letters of a unit. -/
structure IsTokenText (n : Numeral) (pad letters : List Char) : Prop where
  isNumeric : n.IsNumeric
  isBlank_pad : ∀ c ∈ pad, isBlank c = true
  letters_ne_nil : letters ≠ []
  isUnitLetter_letters : ∀ c ∈ letters, isUnitLetter c = true

/-- The texts of the pattern for a token: a numeral, white space and letters. -/
theorem mem_texts_tokenRegex_iff :
    xs ∈ tokenRegex.texts ↔
      ∃ n pad letters, IsTokenText n pad letters ∧ xs = n.text ++ (pad ++ letters) := by
  have hpoint : ∀ c, (CharSet.folded (.single '.')).mem c = true ↔ c = '.' := fun _ =>
    mem_folded_point_iff
  have hletters (ys : List Char) : ys ∈ ((Regex.set letterSet).repeated 1 none).texts ↔
      ys ≠ [] ∧ ∀ c ∈ ys, isUnitLetter c = true := by
    simp only [Regex.mem_texts_oneOrMore_iff, letterSet, mem_folded_letters_iff]
  constructor
  · intro h
    obtain ⟨_, hnumeral, _, hrest, rfl⟩ := Language.mem_mul.mp h
    obtain ⟨pad, hpad, letters, hmore, rfl⟩ := Language.mem_mul.mp hrest
    obtain ⟨n, hn, rfl⟩ := (mem_texts_numeralRegex_iff hpoint).mp hnumeral
    obtain ⟨hne, hall⟩ := (hletters letters).mp hmore
    exact ⟨n, pad, letters, ⟨hn, Regex.mem_texts_star_set_iff.mp hpad, hne, hall⟩, rfl⟩
  · rintro ⟨n, pad, letters, h, rfl⟩
    exact Language.append_mem_mul ((mem_texts_numeralRegex_iff hpoint).mpr ⟨n, h.isNumeric, rfl⟩)
      (Language.append_mem_mul (Regex.mem_texts_star_set_iff.mpr h.isBlank_pad)
        ((hletters letters).mpr ⟨h.letters_ne_nil, h.isUnitLetter_letters⟩))

/-- **The token pattern.** From a place it leads past a numeral, blanks and letters. -/
theorem leads_tokenRegex_iff {b : Option Char} {q : Place} :
    tokenRegex.Leads ⟨b, cs⟩ q ↔ ∃ n pad letters, IsTokenText n pad letters ∧
      Place.Passes ⟨b, cs⟩ (n.text ++ (pad ++ letters)) q := by
  rw [Regex.leads_iff_texts (by decide)]
  constructor
  · rintro ⟨xs, hxs, hpasses⟩
    obtain ⟨n, pad, letters, h, rfl⟩ := mem_texts_tokenRegex_iff.mp hxs
    exact ⟨n, pad, letters, h, hpasses⟩
  · rintro ⟨n, pad, letters, h, hpasses⟩
    exact ⟨_, mem_texts_tokenRegex_iff.mpr ⟨n, pad, letters, h, rfl⟩, hpasses⟩

/-- From what may stand before a token the pattern leads nowhere, so a search passes over it. -/
theorem not_leads_of_isSeparator {b : Option Char} {q : Place} (h : isSeparator c = true) :
    ¬ tokenRegex.Leads ⟨b, c :: cs⟩ q := by
  intro hleads
  obtain ⟨n, pad, letters, htoken, hrest, -⟩ := leads_tokenRegex_iff.mp hleads
  obtain ⟨d, whole, hwhole⟩ := List.exists_cons_of_ne_nil htoken.isNumeric.whole_ne_nil
  have hdigit : Text.isDigit d = true := htoken.isNumeric.isDigit_whole d (by simp [hwhole])
  obtain rfl : c = d := by
    rw [Numeral.text, hwhole] at hrest
    exact (List.cons.inj hrest).1
  rw [isSeparator, Bool.or_eq_true, beq_iff_eq] at h
  rcases h with hblank | rfl
  · rw [isDigit_eq_false_of_blank hblank] at hdigit
    exact Bool.false_ne_true hdigit
  · exact absurd hdigit (by decide +kernel)

/-- Before the letters of a token there are none. -/
theorem IsTokenText.isUnitLetter_eq_false {pad letters : List Char} (h : IsTokenText n pad letters)
    (hc : c ∈ n.text ++ pad) : isUnitLetter c = false := by
  have hdigit (hdigit : Text.isDigit c = true) : isUnitLetter c = false := by
    rw [Bool.eq_false_iff]
    intro hletter
    rw [isDigit_eq_false_of_unitLetter hletter] at hdigit
    exact Bool.false_ne_true hdigit
  rcases List.mem_append.mp hc with hnumeral | hpad
  · rcases Numeral.mem_text hnumeral with hwhole | hfraction | rfl
    · exact hdigit (h.isNumeric.isDigit_whole c hwhole)
    · exact hdigit (h.isNumeric.isDigit_fraction c hfraction)
    · decide
  · refine isUnitLetter_eq_false_of_isSeparator ?_
    rw [isSeparator, h.isBlank_pad c hpad, Bool.true_or]

/-- The pattern leads no farther than to where the letters end. -/
theorem length_le_of_leads {b : Option Char} {q : Place} {pad letters : List Char}
    (h : IsTokenText n pad letters) (hcs : cs = n.text ++ (pad ++ (letters ++ rest)))
    (hstop : ∀ c ∈ rest.head?, isUnitLetter c = false) (hq : tokenRegex.Leads ⟨b, cs⟩ q) :
    rest.length ≤ q.rest.length := by
  obtain ⟨m, pad', letters', h', hrest, -⟩ := leads_tokenRegex_iff.mp hq
  replace hrest : (n.text ++ pad ++ letters) ++ rest = (m.text ++ pad' ++ letters') ++ q.rest := by
    simpa only [hcs, List.append_assoc] using hrest
  rcases List.append_eq_append_iff.mp hrest with ⟨more, htoken, htail⟩ | ⟨less, -, htail⟩
  · cases more with
    | nil => exact Nat.le_of_eq (congrArg List.length htail)
    | cons d more =>
        -- The character behind the letters is none, so it is no letter of the other token.
        have hd : isUnitLetter d = false := hstop d (by rw [htail]; rfl)
        rcases List.append_eq_append_iff.mp htoken with ⟨_, -, hletters'⟩ | ⟨_, hfront, -⟩
        · have hmem : d ∈ letters' := hletters' ▸ List.mem_append_right _ List.mem_cons_self
          rw [h'.isUnitLetter_letters d hmem] at hd
          exact absurd hd.symm Bool.false_ne_true
        · obtain ⟨e, he⟩ := List.exists_mem_of_ne_nil letters h.letters_ne_nil
          have hmem : e ∈ m.text ++ pad' := by
            rw [hfront]
            exact List.mem_append_left _ (List.mem_append_right _ he)
          have hletter := h.isUnitLetter_letters e he
          rw [h'.isUnitLetter_eq_false hmem] at hletter
          exact absurd hletter Bool.false_ne_true
  · rw [htail, List.length_append]
    exact Nat.le_add_left _ _

/-- The digits of a token are those of its numeral. -/
theorem IsTokenText.hasAsciiDigits {pad letters : List Char} (h : IsTokenText n pad letters)
    (hascii : HasAsciiDigits n.text) : HasAsciiDigits (n.text ++ (pad ++ letters)) := by
  intro c hc hdigit
  rcases List.mem_append.mp hc with hnumeral | hc
  · exact hascii c hnumeral hdigit
  · rcases List.mem_append.mp hc with hpad | hletter
    · rw [isDigit_eq_false_of_blank (h.isBlank_pad c hpad)] at hdigit
      exact absurd hdigit Bool.false_ne_true
    · rw [isDigit_eq_false_of_unitLetter (h.isUnitLetter_letters c hletter)] at hdigit
      exact absurd hdigit Bool.false_ne_true

/-- With one more letter a token is one again. -/
theorem IsTokenText.concat {pad letters : List Char} (h : IsTokenText n pad letters)
    (hc : isUnitLetter c = true) : IsTokenText n pad (letters ++ [c]) where
  isNumeric := h.isNumeric
  isBlank_pad := h.isBlank_pad
  letters_ne_nil := List.append_ne_nil_of_right_ne_nil _ (List.cons_ne_nil _ _)
  isUnitLetter_letters d hd := (List.mem_append.mp hd).elim (h.isUnitLetter_letters d)
    fun hd => List.mem_singleton.mp hd ▸ hc

/-- No letter stands behind a token that the pattern leads past and no farther. -/
theorem IsTokenText.stop_of_farthest {b : Option Char} {pad letters : List Char}
    (h : IsTokenText n pad letters) (hcs : cs = n.text ++ (pad ++ letters) ++ rest)
    (hfar : ∀ q, tokenRegex.Leads ⟨b, cs⟩ q → rest.length ≤ q.rest.length) :
    ∀ c ∈ rest.head?, isUnitLetter c = false := by
  intro c hc
  obtain ⟨tail, htail⟩ := List.head?_eq_some_iff.mp hc
  rw [Bool.eq_false_iff]
  intro hletter
  have hfarther := hfar ⟨_, tail⟩ (leads_tokenRegex_iff.mpr
    ⟨n, pad, letters ++ [c], h.concat hletter, by simp [hcs, htail], rfl⟩)
  rw [htail, List.length_cons] at hfarther
  exact Nat.not_succ_le_self _ hfarther

/-- **Tokens.** A token is read up to the farthest place to which its pattern leads, if the digits
on the way are of ASCII, and none is read where there is no such place. -/
theorem exists_takeToken?_iff (b : Option Char) :
    (∃ n letters, takeToken? cs = some (n, letters, rest)) ↔
      ∃ q, q.rest = rest ∧ tokenRegex.Leads ⟨b, cs⟩ q ∧
        (∀ q', tokenRegex.Leads ⟨b, cs⟩ q' → rest.length ≤ q'.rest.length) ∧
        ∃ xs, cs = xs ++ rest ∧ HasAsciiDigits xs := by
  constructor
  · rintro ⟨n, letters, htake⟩
    obtain ⟨hn, hne, hletters, hstop, pad, hpad, hcs⟩ := takeToken?_eq_some_iff.mp htake
    obtain ⟨hnumeric, hascii⟩ := Numeral.isDecimal_iff_isNumeric.mp hn
    have htoken : IsTokenText n pad letters := ⟨hnumeric, hpad, hne, hletters⟩
    have hsplit : cs = n.text ++ (pad ++ letters) ++ rest := by
      simpa only [List.append_assoc] using hcs
    exact ⟨⟨(n.text ++ (pad ++ letters)).getLast?.or b, rest⟩, rfl,
      leads_tokenRegex_iff.mpr ⟨n, pad, letters, htoken, hsplit, rfl⟩,
      fun _ => length_le_of_leads htoken hcs hstop, _, hsplit, htoken.hasAsciiDigits hascii⟩
  · rintro ⟨q, rfl, hq, hfar, xs, hcs, hascii⟩
    obtain ⟨n, pad, letters, htoken, hrest, hbefore⟩ := leads_tokenRegex_iff.mp hq
    obtain rfl : xs = n.text ++ (pad ++ letters) := List.append_cancel_right (hcs.symm.trans hrest)
    have hn : n.IsDecimal := Numeral.isDecimal_iff_isNumeric.mpr
      ⟨htoken.isNumeric, fun c hc => hascii c (List.mem_append_left _ hc)⟩
    exact ⟨n, letters, takeToken?_eq_some_iff.mpr ⟨hn, htoken.letters_ne_nil,
      htoken.isUnitLetter_letters, htoken.stop_of_farthest hcs hfar, pad, htoken.isBlank_pad,
      by simp [hcs]⟩⟩

end Delay

end Deferral

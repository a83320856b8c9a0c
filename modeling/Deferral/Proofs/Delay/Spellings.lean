import Deferral.Proofs.Delay.Acceptance

/-!
# Spellings of one delay

Whatever a delay is written for is read as a list of amounts, and only their seconds enter the sum.
So an ISO 8601 text and the tokens for the same components give the same span, or are both too long,
and a text of tokens may write its units in any case, under any of their names, with any blanks and
commas before its tokens or with none.

## Main results

* `parse_isoText` — the result of an ISO text is that of the sum of its amounts;
* `not_isLiteral_tokens` — a text of tokens is no decimal literal;
* `parse_tokens` — the result of a text of tokens is that of the sum of its amounts;
* `parse_spellings` — the result depends on the numbers and the units only.
-/

namespace Deferral

namespace Delay

open Text

variable {cs : List Char} {n : Numeral} {a : Amount} {as as' : List Amount} {ts ts' : List Token}
  {t : Token} {parts : Parts} {marks : List (Char × TimeUnit)}

/-! ### ISO texts -/

/-- The text of a numeral is a decimal number without sign and exponent. -/
theorem Numeral.IsDecimal.isMantissa_text (h : n.IsDecimal) : Decimal.IsMantissa n.text := by
  by_cases hfraction : n.fraction = []
  · rw [Numeral.text_of_fraction_eq_nil hfraction]
    exact .inl ⟨h.whole_ne_nil, h.isDigit_whole⟩
  · rw [Numeral.text_of_fraction_ne_nil hfraction]
    exact .inr ⟨_, _, h.isDigit_whole, h.isDigit_fraction, .inl h.whole_ne_nil, rfl⟩

/-- There is no white space in it. -/
theorem Numeral.IsDecimal.not_isBlank_text (h : n.IsDecimal) : ∀ c ∈ n.text, isBlank c = false := by
  intro c hc
  by_cases hfraction : n.fraction = []
  · rw [Numeral.text_of_fraction_eq_nil hfraction] at hc
    exact isBlank_eq_false_of_isDigit (h.isDigit_whole c hc)
  · rw [Numeral.text_of_fraction_ne_nil hfraction, List.mem_append, List.mem_cons] at hc
    rcases hc with hwhole | rfl | hrest
    · exact isBlank_eq_false_of_isDigit (h.isDigit_whole c hwhole)
    · decide
    · exact isBlank_eq_false_of_isDigit (h.isDigit_fraction c hrest)

/-- The components have no blank among them. -/
theorem not_isBlank_textOf (hmarks : IsLegend marks) (hparts : parts.IsDecimal) :
    ∀ c ∈ parts.textOf marks, isBlank c = false := by
  intro c hc
  obtain ⟨row, hrow, hc⟩ := List.mem_flatMap.mp hc
  unfold Parts.componentText at hc
  split at hc
  · rename_i n hn
    rcases List.mem_append.mp hc with htext | hmark
    · exact (hparts _ n hn).not_isBlank_text c htext
    · rw [List.mem_singleton.mp hmark]
      exact isBlank_eq_false_of_isUnitLetter (by simp [isUnitLetter, hmarks.isAlpha row hrow])
  · cases hc

/-- There is no white space in the ISO 8601 form. -/
theorem not_isBlank_isoText (hparts : parts.IsDecimal) :
    ∀ c ∈ parts.isoText, isBlank c = false := by
  intro c hc
  rw [Parts.isoText, List.mem_cons, List.mem_append] at hc
  rcases hc with rfl | hdate | htime
  · decide
  · exact not_isBlank_textOf isLegend_dateMarks hparts c hdate
  · split at htime
    · cases htime
    · rcases List.mem_cons.mp htime with rfl | htime
      · decide
      · exact not_isBlank_textOf isLegend_timeMarks hparts c htime

/-- **ISO texts.** The result is that of the sum of the amounts. -/
theorem parse_isoText (hparts : parts.IsDecimal) (hne : parts.amounts ≠ []) :
    parse parts.isoText = ofSeconds (totalSeconds parts.amounts) := by
  have hblank := not_isBlank_isoText hparts
  have htrim : trim parts.isoText = parts.isoText :=
    trim_eq_self (fun c hc => hblank c (List.mem_of_mem_head? hc))
      (fun c hc => hblank c (List.mem_of_getLast? hc))
  obtain ⟨r, hr⟩ : ∃ r, 'P' :: r = parts.isoText := ⟨_, rfl⟩
  rw [parse, htrim, ← hr, parseTrimmed, isoComponents?_of_isoText hparts hne hr]

/-! ### Texts of tokens -/

/-- A text of tokens goes on behind its first number with a blank or a letter that begins no
exponent, or begins with what no literal begins with. -/
theorem not_isLiteral_tokens (h : List.Forall₂ Token.Writes ts as) (hne : ts ≠ []) :
    ¬ Decimal.IsLiteral (ts.flatMap Token.text) := by
  cases h with
  | nil => exact absurd rfl hne
  | @cons t a ts as ht _ =>
      obtain ⟨hname, hletters, hfirst⟩ := letters_of_isNamed ht.isNamed
      rw [List.flatMap_cons, Token.text]
      cases hgap : t.gap with
      | cons d gap =>
          intro hliteral
          have hsep := ht.isSeparator_gap d (hgap ▸ List.mem_cons_self)
          rcases hliteral.head d rfl with rfl | rfl | halpha | hdigit | rfl
          · exact absurd hsep (by decide)
          · exact absurd hsep (by decide)
          · rw [isSeparator_eq_false_of_isUnitLetter (by simp [isUnitLetter, halpha])] at hsep
            exact Bool.false_ne_true hsep
          · rw [isSeparator_eq_false_of_isDigit hdigit] at hsep
            exact Bool.false_ne_true hsep
          · exact absurd hsep (by decide)
      | nil =>
          simp only [List.nil_append, List.append_assoc]
          have hstop := stopsBefore_pad t.numeral ht.isBlank_pad hname hletters
            (ts.flatMap Token.text)
          refine Decimal.not_isLiteral_append ht.isDecimal.isMantissa_text
            (List.append_ne_nil_of_right_ne_nil _ (List.append_ne_nil_of_left_ne_nil hname _))
            fun c hc => ⟨hstop.not_digit c hc, ?_⟩
          rcases head_pad ht.isBlank_pad hname _ c hc with hblank | hletter
          · refine ⟨?_, ?_, ?_⟩
            all_goals
              rintro rfl
              exact absurd hblank (by decide)
          · refine ⟨?_, hfirst c hletter⟩
            rintro rfl
            exact absurd (hletters _ (List.mem_of_mem_head? hletter)) (by decide)

/-- Tokens that write amounts are read as the sum of the amounts. -/
theorem parseTrimmed_tokens (h : List.Forall₂ Token.Writes ts as) (hne : ts ≠ []) :
    parseTrimmed (ts.flatMap Token.text) = ofSeconds (totalSeconds as) := by
  have hread : Decimal.readDouble? (ts.flatMap Token.text) = none := by
    rw [← Option.not_isSome_iff_eq_none, Decimal.isSome_readDouble?_iff]
    exact not_isLiteral_tokens h hne
  have htokens := tokens_eq_ok_iff.mpr ⟨ts, h, rfl⟩
  have hhead := head_tokens h
  have htext := (flatMap_text_eq_nil_iff h).not.mpr hne
  generalize ts.flatMap Token.text = cs at hread htokens hhead htext ⊢
  unfold parseTrimmed
  split
  · exact absurd rfl htext
  · exact absurd (hhead 'P' rfl) (by decide)
  · rw [hread, htokens]

/-- **Texts of tokens.** The result is that of the sum of the amounts. -/
theorem parse_tokens (h : List.Forall₂ Token.Writes ts as) (hne : ts ≠ []) :
    parse (ts.flatMap Token.text) = ofSeconds (totalSeconds as) := by
  obtain ⟨ts', hts', htrim⟩ := exists_tokens_trim h
  rw [parse, htrim]
  refine parseTrimmed_tokens hts' ?_
  rintro rfl
  cases hts'
  cases h
  exact hne rfl

/-! ### Same amounts, same result -/

/-- The number of an amount, however it is written, and its unit. -/
def Amount.measure (a : Amount) : Double × TimeUnit := (a.numeral.value, a.unit)

/-- The sum depends on the numbers and the units only. -/
theorem totalSeconds_congr (h : as.map Amount.measure = as'.map Amount.measure) :
    totalSeconds as = totalSeconds as' := by
  have hsum (as : List Amount) : totalSeconds as =
      (as.map Amount.measure).foldl (fun sum m => sum.add (m.1.mul m.2.seconds)) Double.zero := by
    rw [List.foldl_map]
    rfl
  rw [hsum, hsum, h]

/-- **Spellings.** The ISO text of a choice of components and any tokens written for them give the
same result, a span or too long. Two texts of tokens give the same result if they are written for
the same numbers of the same units. -/
theorem parse_spellings :
    (∀ (parts : Parts) (ts : List Token), parts.IsDecimal → parts.amounts ≠ [] →
      List.Forall₂ Token.Writes ts parts.amounts →
        parse parts.isoText = parse (ts.flatMap Token.text) ∧
          ((∃ d, parse parts.isoText = .ok d) ∨ parse parts.isoText = .error .tooLarge)) ∧
      ∀ (as as' : List Amount) (ts ts' : List Token), List.Forall₂ Token.Writes ts as →
        List.Forall₂ Token.Writes ts' as' → as.map Amount.measure = as'.map Amount.measure →
          parse (ts.flatMap Token.text) = parse (ts'.flatMap Token.text) := by
  refine ⟨fun parts ts hparts hne hts => ?_, fun as as' ts ts' hts hts' hsame => ?_⟩
  · have htokens : ts ≠ [] := by
      rintro rfl
      exact hne (List.forall₂_nil_left_iff.mp hts)
    rw [parse_tokens hts htokens, parse_isoText hparts hne]
    exact ⟨rfl, ofSeconds_cases_of_not_isNegative (isNegative_totalSeconds _)⟩
  · have hlength : ts.length = ts'.length := by
      rw [hts.length_eq, hts'.length_eq]
      simpa using congrArg List.length hsame
    by_cases hne : ts = []
    · have hne' : ts' = [] := by
        rw [hne] at hlength
        exact List.length_eq_zero_iff.mp hlength.symm
      rw [hne, hne']
    · have hne' : ts' ≠ [] := by
        rintro rfl
        exact hne (List.length_eq_zero_iff.mp hlength)
      rw [parse_tokens hts hne, parse_tokens hts' hne', totalSeconds_congr hsame]

/-- A month and half an hour, as an ISO text, as tokens for its components, and as other tokens for
the same numbers. -/
theorem parse_spellings_month_and_minutes :
    parse "P1MT30.5M".toList = parse "1mo30.5 MINS".toList ∧
      parse "1mo30.5 MINS".toList = parse " 01 Month,, 30.50m".toList := by
  let parts : Parts := fun
    | .month => some ⟨['1'], []⟩
    | .minute => some ⟨['3', '0'], ['5']⟩
    | _ => none
  let other : List Amount := [⟨⟨['0', '1'], []⟩, .month⟩, ⟨⟨['3', '0'], ['5', '0']⟩, .minute⟩]
  let ts : List Token := [⟨[], ⟨['1'], []⟩, [], "mo".toList⟩,
    ⟨[], ⟨['3', '0'], ['5']⟩, [' '], "MINS".toList⟩]
  let ts' : List Token := [⟨[' '], ⟨['0', '1'], []⟩, [' '], "Month".toList⟩,
    ⟨",, ".toList, ⟨['3', '0'], ['5', '0']⟩, [], "m".toList⟩]
  have hparts : parts.IsDecimal := by
    intro u n hn
    cases u <;> cases hn <;> decide
  have hts : List.Forall₂ Token.Writes ts parts.amounts := by decide
  have hts' : List.Forall₂ Token.Writes ts' other := by decide
  have hsame : parts.amounts.map Amount.measure = other.map Amount.measure := by decide
  exact ⟨(parse_spellings.1 parts ts hparts (by decide) hts).1,
    parse_spellings.2 _ _ ts ts' hts hts' hsame⟩

end Delay

end Deferral

import Deferral.Proofs.Decimal.Literals
import Deferral.Proofs.Delay.Iso

/-!
# The texts that are delays

A text without the blanks at its ends is a delay if it is an ISO 8601 text with at least one
component, a decimal literal, or a text of at least one token. Any other text is refused for its
form. A delay is refused only for its length: as too long, or as negative, which only a literal can
be.

## Main results

* `isNegative_totalSeconds` — no sum of amounts is negative;
* `parseTrimmed_cases` — what becomes of a text without blanks at its ends;
* `parse_accepts_iff` — the texts that are delays, and the ways in which they are refused.
-/

namespace Deferral

/-- A refusal of a text for its form. -/
inductive DelayError.IsSyntax : DelayError → Prop where
  | empty : IsSyntax .empty
  | unrecognized (text : List Char) : IsSyntax (.unrecognized text)
  | unknownUnit (unit text : List Char) : IsSyntax (.unknownUnit unit text)

namespace Delay

open Text

variable {cs r : List Char} {seconds : Double}

/-! ### Signs -/

/-- The seconds of an amount are not below zero. -/
theorem Amount.isNegative_seconds (a : Amount) : a.seconds.isNegative = false := by
  have hpositive : ∃ n scale, n ≠ 0 ∧ a.unit.seconds = .finite false n scale := by
    cases a.unit
    all_goals exact ⟨_, _, by decide, rfl⟩
  obtain ⟨n, scale, hn, hunit⟩ := hpositive
  rw [seconds, hunit]
  exact Double.isNegative_mul_finite (Decimal.Literal.isNegative_value _) hn

/-- No sum of amounts has a sign bit, whatever the amounts are. -/
theorem isNegative_totalSeconds (as : List Amount) : (totalSeconds as).isNegative = false := by
  have hsum (sum : Double) (hsum : sum.isNegative = false) :
      (as.foldl (fun sum a => sum.add a.seconds) sum).isNegative = false := by
    induction as generalizing sum with
    | nil => exact hsum
    | cons a as ih => exact ih _ (Double.isNegative_add hsum a.isNegative_seconds)
  exact hsum Double.zero rfl

/-! ### Seconds -/

/-- A number of seconds is a span, or is below zero, or is too large for one. -/
theorem ofSeconds_cases (seconds : Double) :
    (∃ d, ofSeconds seconds = .ok d) ∨ ofSeconds seconds = .error .negative ∨
      ofSeconds seconds = .error .tooLarge := by
  unfold ofSeconds
  split
  · exact .inr (.inl rfl)
  · split
    · exact .inl ⟨_, rfl⟩
    · exact .inr (.inr rfl)

/-- A number of seconds without a sign bit is a span or too large. -/
theorem ofSeconds_cases_of_not_isNegative (h : seconds.isNegative = false) :
    (∃ d, ofSeconds seconds = .ok d) ∨ ofSeconds seconds = .error .tooLarge := by
  rw [ofSeconds, if_neg (by simp [h])]
  split
  · exact .inl ⟨_, rfl⟩
  · exact .inr rfl

/-! ### Texts without blanks at their ends -/

/-- A text that is a delay: an ISO 8601 text of at least one component, a decimal literal, or a text
of at least one token. -/
inductive IsDelay : List Char → Prop where
  | iso (parts : Parts) : parts.IsDecimal → parts.amounts ≠ [] → IsDelay parts.isoText
  | literal (cs : List Char) : cs.head? ≠ some 'P' → Decimal.IsLiteral cs → IsDelay cs
  | tokens (ts : List Token) (as : List Amount) : (ts.flatMap Token.text).head? ≠ some 'P' →
      ts ≠ [] → List.Forall₂ Token.Writes ts as → IsDelay (ts.flatMap Token.text)

/-- A text that begins with `P` is read in the ISO form, and in no other. -/
theorem isDelay_cons_P_iff : IsDelay ('P' :: r) ↔ ∃ as, isoComponents? r = some as := by
  constructor
  · intro h
    generalize hcs : 'P' :: r = cs at h
    cases h with
    | iso parts hparts hne =>
        exact ⟨_, isoComponents?_eq_some_iff.mpr ⟨parts, hparts, hne, hcs, rfl⟩⟩
    | literal _ hhead => exact absurd (hcs ▸ rfl) hhead
    | tokens ts as hhead => exact absurd (hcs ▸ rfl) hhead
  · rintro ⟨as, h⟩
    obtain ⟨parts, hparts, hne, hcs, -⟩ := isoComponents?_eq_some_iff.mp h
    rw [hcs]
    exact .iso parts hparts hne

/-- Any other text is read as a literal, and as tokens if it is none. -/
theorem isDelay_iff_of_head?_ne (hne : cs ≠ []) (hhead : cs.head? ≠ some 'P') :
    IsDelay cs ↔ Decimal.IsLiteral cs ∨ ∃ as, tokens cs = .ok as := by
  constructor
  · intro h
    cases h with
    | iso parts => exact absurd rfl hhead
    | literal _ _ hliteral => exact .inl hliteral
    | tokens ts as _ _ hts => exact .inr ⟨as, tokens_eq_ok_iff.mpr ⟨ts, hts, rfl⟩⟩
  · rintro (hliteral | ⟨as, has⟩)
    · exact .literal cs hhead hliteral
    · obtain ⟨ts, hts, rfl⟩ := tokens_eq_ok_iff.mp has
      refine .tokens ts as hhead ?_ hts
      rintro rfl
      exact hne rfl

/-- The empty text is no delay. -/
theorem not_isDelay_nil : ¬ IsDelay [] := by
  intro h
  generalize hcs : [] = cs at h
  cases h with
  | iso parts => cases hcs
  | literal _ _ hliteral =>
      have hread := Decimal.isSome_readDouble?_iff.mpr hliteral
      rw [← hcs] at hread
      exact absurd hread (by decide)
  | tokens ts as _ hne hts => exact hne ((flatMap_text_eq_nil_iff hts).mp hcs.symm)

/-- **Texts without blanks at their ends.** A text that is no delay is refused for its form. One
that is a delay is a span or too long, unless it is a negative literal. -/
theorem parseTrimmed_cases (cs : List Char) :
    (¬ IsDelay cs ∧ ∃ e, DelayError.IsSyntax e ∧ parseTrimmed cs = .error e) ∨
      (IsDelay cs ∧ ((∃ d, parseTrimmed cs = .ok d) ∨ parseTrimmed cs = .error .tooLarge)) ∨
      (cs.head? ≠ some 'P' ∧ Decimal.IsLiteral cs ∧ parseTrimmed cs = .error .negative) := by
  unfold parseTrimmed
  split
  · exact .inl ⟨not_isDelay_nil, _, .empty, rfl⟩
  · rename_i r
    split
    · rename_i as has
      exact .inr (.inl ⟨isDelay_cons_P_iff.mpr ⟨as, has⟩,
        ofSeconds_cases_of_not_isNegative (isNegative_totalSeconds as)⟩)
    · rename_i hnone
      refine .inl ⟨fun h => ?_, _, .unrecognized _, rfl⟩
      obtain ⟨as, has⟩ := isDelay_cons_P_iff.mp h
      exact Option.some_ne_none as (has.symm.trans hnone)
  · rename_i hne hP
    have hhead : cs.head? ≠ some 'P' := by
      intro h
      obtain ⟨r, hr⟩ := List.head?_eq_some_iff.mp h
      exact hP r hr
    have hdelay := isDelay_iff_of_head?_ne hne hhead
    split
    · rename_i seconds hread
      have hliteral : Decimal.IsLiteral cs :=
        Decimal.isSome_readDouble?_iff.mp (Option.isSome_of_eq_some hread)
      rcases ofSeconds_cases seconds with hok | hnegative | hlarge
      · exact .inr (.inl ⟨hdelay.mpr (.inl hliteral), .inl hok⟩)
      · exact .inr (.inr ⟨hhead, hliteral, hnegative⟩)
      · exact .inr (.inl ⟨hdelay.mpr (.inl hliteral), .inr hlarge⟩)
    · rename_i hread
      have hliteral : ¬ Decimal.IsLiteral cs := by
        rw [← Decimal.isSome_readDouble?_iff, hread]
        exact Bool.false_ne_true
      have hrefused (e : TokenError) (htokens : tokens cs = .error e) : ¬ IsDelay cs := by
        rw [hdelay, htokens]
        rintro (h | ⟨as, has⟩)
        · exact hliteral h
        · cases has
      split
      · rename_i as has
        exact .inr (.inl ⟨hdelay.mpr (.inr ⟨as, has⟩),
          ofSeconds_cases_of_not_isNegative (isNegative_totalSeconds as)⟩)
      · rename_i htokens
        exact .inl ⟨hrefused _ htokens, _, .unrecognized _, rfl⟩
      · rename_i unit htokens
        exact .inl ⟨hrefused _ htokens, _, .unknownUnit _ _, rfl⟩

/-- **Acceptance.** A text is refused for its form exactly if, without the blanks at its ends, it is
no delay. A delay is a span, too long or negative, and only a literal is refused as negative. -/
theorem parse_accepts_iff (cs : List Char) :
    ((∃ e, DelayError.IsSyntax e ∧ parse cs = .error e) ↔ ¬ IsDelay (trim cs)) ∧
      ((∃ d, parse cs = .ok d) ∨ parse cs = .error .negative ∨ parse cs = .error .tooLarge ↔
        IsDelay (trim cs)) ∧
      (parse cs = .error .negative →
        (trim cs).head? ≠ some 'P' ∧ Decimal.IsLiteral (trim cs)) := by
  rw [parse]
  rcases parseTrimmed_cases (trim cs) with
    ⟨hform, e, hsyntax, he⟩ | ⟨hform, hresult⟩ | ⟨hhead, hliteral, hnegative⟩
  · rw [he]
    refine ⟨iff_of_true ⟨e, hsyntax, rfl⟩ hform, iff_of_false ?_ hform, ?_⟩
    · rintro (⟨d, hd⟩ | hnegative | hlarge)
      · cases hd
      · cases hnegative
        cases hsyntax
      · cases hlarge
        cases hsyntax
    · intro hnegative
      cases hnegative
      cases hsyntax
  · refine ⟨iff_of_false ?_ (not_not.mpr hform), iff_of_true ?_ hform, ?_⟩
    · rintro ⟨e, hsyntax, he⟩
      rcases hresult with ⟨d, hd⟩ | hlarge
      · cases hd.symm.trans he
      · cases hlarge.symm.trans he
        cases hsyntax
    · exact hresult.imp_right .inr
    · intro hnegative
      rcases hresult with ⟨d, hd⟩ | hlarge
      · cases hd.symm.trans hnegative
      · cases hlarge.symm.trans hnegative
  · have hform : IsDelay (trim cs) := .literal _ hhead hliteral
    refine ⟨iff_of_false ?_ (not_not.mpr hform), iff_of_true (.inr (.inl hnegative)) hform,
      fun _ => ⟨hhead, hliteral⟩⟩
    rintro ⟨e, hsyntax, he⟩
    cases hnegative.symm.trans he
    cases hsyntax

end Delay

end Deferral

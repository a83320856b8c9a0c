import Deferral.Delay.Input
import Deferral.Proofs.Decimal.Literals
import Deferral.Proofs.Delay.Numerals
import Mathlib.Data.List.Forall2

/-!
# Delays written as tokens

A token is a numeral and the name of a unit, in any mixture of cases, with blanks between the two
and blanks and commas before them. Nothing has to stand between tokens, since a numeral begins with
a digit and no name of a unit has one. A text of tokens is read as the amounts that it was written
for, and every text that is read at all is such a text.

## Main results

* `takeToken?_eq_some_iff` — the token that a text begins with;
* `tokens_eq_ok_iff` — the texts that are read as amounts;
* `exists_tokens_trim` — a text of tokens without the blanks at its ends is one for the same
  amounts.
-/

namespace Deferral

namespace Delay

open Text

variable {c : Char} {cs rest pad letters : List Char} {n : Numeral} {u : TimeUnit} {a : Amount}
  {as : List Amount} {ts : List Token} {fuel : Nat}

/-! ### Characters -/

/-- White space is no digit. -/
theorem isDigit_eq_false_of_isBlank (h : isBlank c = true) : c.isDigit = false := by
  rw [Bool.eq_false_iff]
  intro hdigit
  rw [isBlank_eq_false_of_isDigit hdigit] at h
  exact Bool.false_ne_true h

/-- A digit does not separate. -/
theorem isSeparator_eq_false_of_isDigit (h : c.isDigit = true) : isSeparator c = false := by
  rw [isSeparator, isBlank_eq_false_of_isDigit h, Bool.false_or, beq_eq_false_iff_ne]
  rintro rfl
  exact absurd h (by decide)

/-- The letters of units are those that are told apart from digits, blanks and points. -/
theorem toNat_of_isUnitLetter (h : isUnitLetter c = true) :
    65 ≤ c.toNat ∧ c.toNat ≤ 90 ∨ 97 ≤ c.toNat ∧ c.toNat ≤ 122 ∨ c.toNat = 0x17F ∨
      c.toNat = 0x212A := by
  simp only [isUnitLetter, Bool.or_eq_true, beq_iff_eq, Decimal.isAlpha_iff_toNat] at h
  rcases h with (hletter | rfl) | rfl
  · exact hletter.imp_right .inl
  · exact .inr (.inr (.inl rfl))
  · exact .inr (.inr (.inr rfl))

/-- A letter is no digit. -/
theorem isDigit_eq_false_of_isUnitLetter (h : isUnitLetter c = true) : c.isDigit = false := by
  rw [Bool.eq_false_iff]
  intro hdigit
  have hletter := toNat_of_isUnitLetter h
  have hbounds := toNat_of_isDigit hdigit
  omega

/-- A letter does not separate. -/
theorem isSeparator_eq_false_of_isUnitLetter (h : isUnitLetter c = true) :
    isSeparator c = false := by
  have hletter := toNat_of_isUnitLetter h
  rw [Bool.eq_false_iff]
  intro hsep
  simp only [isSeparator, Bool.or_eq_true, beq_iff_eq, isBlank, Bool.and_eq_true,
    decide_eq_true_eq] at hsep
  rcases hsep with hblank | rfl
  · omega
  · exact absurd h (by decide)

/-- A letter is no white space. -/
theorem isBlank_eq_false_of_isUnitLetter (h : isUnitLetter c = true) : isBlank c = false := by
  have hsep := isSeparator_eq_false_of_isUnitLetter h
  rw [isSeparator, Bool.or_eq_false_iff] at hsep
  exact hsep.1

/-- What separates is no letter. -/
theorem isUnitLetter_eq_false_of_isSeparator (h : isSeparator c = true) :
    isUnitLetter c = false := by
  rw [Bool.eq_false_iff]
  intro hletter
  rw [isSeparator_eq_false_of_isUnitLetter hletter] at h
  exact Bool.false_ne_true h

/-- A digit is no letter. -/
theorem isUnitLetter_eq_false_of_isDigit (h : c.isDigit = true) : isUnitLetter c = false := by
  rw [Bool.eq_false_iff]
  intro hletter
  rw [isDigit_eq_false_of_isUnitLetter hletter] at h
  exact Bool.false_ne_true h

/-! ### Names of units -/

end Delay

/-- A name is listed for a unit. -/
def TimeUnit.IsNamed (u : TimeUnit) (name : List Char) : Prop :=
  ∃ names, (u, names) ∈ TimeUnit.names ∧ String.ofList name ∈ names

/-- A name stands for the unit that has it, since no two units share one. -/
theorem TimeUnit.named?_eq_some_iff {name : List Char} {u : TimeUnit} :
    TimeUnit.named? name = some u ↔ u.IsNamed name := by
  constructor
  · intro h
    obtain ⟨⟨v, names⟩, hfind, rfl⟩ := Option.map_eq_some_iff.mp h
    have hsome := List.find?_some hfind
    obtain ⟨s, hs, heq⟩ := List.any_eq_true.mp hsome
    refine ⟨names, List.mem_of_find?_eq_some hfind, ?_⟩
    rw [← beq_iff_eq.mp heq, String.ofList_toList]
    exact hs
  · rintro ⟨names, hrow, hname⟩
    -- No name is listed for two units.
    have hall : ∀ row ∈ TimeUnit.names, ∀ s ∈ row.2, TimeUnit.named? s.toList = some row.1 := by
      decide
    have hread := hall _ hrow _ hname
    rwa [String.toList_ofList] at hread

namespace Delay

open Text

variable {c : Char} {cs rest pad letters name : List Char} {n : Numeral} {u : TimeUnit} {a : Amount}
  {as : List Amount} {fuel : Nat}

/-- The names of units are made of letters, in any mixture of cases, and the first is no `e`. -/
theorem letters_of_isNamed (h : u.IsNamed (name.map Char.toLower)) :
    name ≠ [] ∧ (∀ c ∈ name, isUnitLetter c = true) ∧
      ∀ c ∈ name.head?, c ≠ 'e' ∧ c ≠ 'E' := by
  obtain ⟨names, hrow, hname⟩ := h
  have hall : ∀ row ∈ TimeUnit.names, ∀ s ∈ row.2,
      s.toList ≠ [] ∧ s.toList.all Char.isAlpha = true ∧ s.toList.head? ≠ some 'e' := by
    decide
  obtain ⟨hne, halpha, hfirst⟩ := hall _ hrow _ hname
  rw [String.toList_ofList] at hne halpha hfirst
  refine ⟨by simpa using hne, fun c hc => ?_, fun c hc => ?_⟩
  · have hlower := List.all_eq_true.mp halpha _ (List.mem_map_of_mem hc)
    simp [isUnitLetter, Decimal.isAlpha_of_isAlpha_toLower hlower]
  · rw [List.head?_map, Option.mem_def.mp hc] at hfirst
    constructor
    · rintro rfl
      exact hfirst rfl
    · rintro rfl
      exact hfirst rfl

/-! ### One token -/

/-- A token as it is written: what stands before it, its numeral, what stands before its unit, and
the name of the unit. -/
structure Token where
  gap : List Char
  numeral : Numeral
  pad : List Char
  name : List Char
deriving DecidableEq, Repr

/-- The text of a token. -/
def Token.text (t : Token) : List Char := t.gap ++ (t.numeral.text ++ (t.pad ++ t.name))

/-- A token that is written for an amount: blanks and commas before it, a numeral of ASCII digits,
blanks before the unit, and a name of the unit in any mixture of cases. -/
structure Token.Writes (t : Token) (a : Amount) : Prop where
  numeral_eq : t.numeral = a.numeral
  isSeparator_gap : ∀ c ∈ t.gap, isSeparator c = true
  isDecimal : t.numeral.IsDecimal
  isBlank_pad : ∀ c ∈ t.pad, isBlank c = true
  isNamed : a.unit.IsNamed (t.name.map Char.toLower)

/-- When a token writes an amount, as a test. -/
theorem Token.writes_iff {t : Token} : t.Writes a ↔
    t.numeral = a.numeral ∧ t.gap.all isSeparator = true ∧ t.numeral.IsDecimal ∧
      t.pad.all isBlank = true ∧ TimeUnit.named? (t.name.map Char.toLower) = some a.unit := by
  rw [List.all_eq_true, List.all_eq_true, TimeUnit.named?_eq_some_iff]
  constructor
  · rintro ⟨hnumeral, hgap, hdecimal, hpad, hname⟩
    exact ⟨hnumeral, hgap, hdecimal, hpad, hname⟩
  · rintro ⟨hnumeral, hgap, hdecimal, hpad, hname⟩
    exact ⟨hnumeral, hgap, hdecimal, hpad, hname⟩

instance (t : Token) (a : Amount) : Decidable (t.Writes a) :=
  decidable_of_iff _ Token.writes_iff.symm

/-- What stands behind a numeral begins with a blank or with the first letter of the unit. -/
theorem head_pad (hpad : ∀ c ∈ pad, isBlank c = true) (hne : letters ≠ []) (rest : List Char) :
    ∀ c ∈ (pad ++ (letters ++ rest)).head?, isBlank c = true ∨ c ∈ letters.head? := by
  intro c hc
  cases pad with
  | cons d pad =>
      cases Option.mem_def.mp hc
      exact .inl (hpad c List.mem_cons_self)
  | nil =>
      obtain ⟨d, letters, rfl⟩ := List.exists_cons_of_ne_nil hne
      exact .inr hc

/-- A numeral stops before the blanks and the letters that follow it. -/
theorem stopsBefore_pad (n : Numeral) (hpad : ∀ c ∈ pad, isBlank c = true) (hne : letters ≠ [])
    (hletters : ∀ c ∈ letters, isUnitLetter c = true) (rest : List Char) :
    n.StopsBefore (pad ++ (letters ++ rest)) := by
  have hfirst : ∀ c ∈ (pad ++ (letters ++ rest)).head?, c.isDigit = false ∧ c ≠ '.' := by
    intro c hc
    rcases head_pad hpad hne rest c hc with hblank | hletter
    · exact ⟨isDigit_eq_false_of_isBlank hblank, by rintro rfl; exact absurd hblank (by decide)⟩
    · have hletter := hletters c (List.mem_of_mem_head? hletter)
      exact ⟨isDigit_eq_false_of_isUnitLetter hletter,
        by rintro rfl; exact absurd hletter (by decide)⟩
  refine ⟨fun c hc => (hfirst c hc).1, fun _ d r hr => ?_⟩
  rw [hr] at hfirst
  exact absurd rfl (hfirst '.' rfl).2

/-- **One token.** The reader takes the numeral, the blanks and all the letters that a text begins
with. -/
theorem takeToken?_eq_some_iff :
    takeToken? cs = some (n, letters, rest) ↔
      n.IsDecimal ∧ letters ≠ [] ∧ (∀ c ∈ letters, isUnitLetter c = true) ∧
        (∀ c ∈ rest.head?, isUnitLetter c = false) ∧
        ∃ pad, (∀ c ∈ pad, isBlank c = true) ∧ cs = n.text ++ (pad ++ (letters ++ rest)) := by
  constructor
  · intro h
    unfold takeToken? at h
    split at h
    · cases h
    · rename_i m r hnumeral
      obtain ⟨hm, -, rfl⟩ := takeNumeral?_eq_some_iff.mp hnumeral
      simp only [List.isEmpty_iff] at h
      split at h
      · cases h
      · rename_i hletters
        cases h
        refine ⟨hm, hletters, fun _ => List.mem_takeWhile_imp, stop_dropWhile _ _,
          r.takeWhile isBlank, fun _ => List.mem_takeWhile_imp, ?_⟩
        rw [List.takeWhile_append_dropWhile, trimStart, List.takeWhile_append_dropWhile]
  · rintro ⟨hn, hne, hletters, hstop, pad, hpad, rfl⟩
    have hblanks : trimStart (pad ++ (letters ++ rest)) = letters ++ rest := by
      refine dropWhile_append_of_stop hpad fun c hc => ?_
      obtain ⟨d, ds, rfl⟩ := List.exists_cons_of_ne_nil hne
      cases Option.mem_def.mp hc
      exact isBlank_eq_false_of_isUnitLetter (hletters c List.mem_cons_self)
    have hsome : letters.isEmpty = false := by simpa using hne
    rw [takeToken?, takeNumeral?_text_append hn (stopsBefore_pad n hpad hne hletters rest)]
    simp only [hblanks, takeWhile_append_of_stop hletters hstop,
      dropWhile_append_of_stop hletters hstop, hsome, Bool.false_eq_true, if_false]

/-! ### Tokens one after another -/

/-- A text of tokens begins with what may stand before a token or with a digit. -/
theorem head_tokens (h : List.Forall₂ Token.Writes ts as) :
    ∀ c ∈ (ts.flatMap Token.text).head?, isSeparator c = true ∨ c.isDigit = true := by
  intro c hc
  cases h with
  | nil => cases hc
  | @cons t a ts as ht _ =>
      rw [List.flatMap_cons, Token.text] at hc
      cases hgap : t.gap with
      | cons d gap =>
          rw [hgap] at hc
          cases Option.mem_def.mp hc
          exact .inl (ht.isSeparator_gap c (hgap ▸ List.mem_cons_self))
      | nil =>
          obtain ⟨d, r, htext, hdigit⟩ := ht.isDecimal.exists_cons_text
          rw [hgap, htext] at hc
          cases Option.mem_def.mp hc
          exact .inr hdigit

/-- Tokens do not begin with a letter. -/
theorem stop_tokens (h : List.Forall₂ Token.Writes ts as) :
    ∀ c ∈ (ts.flatMap Token.text).head?, isUnitLetter c = false := by
  intro c hc
  rcases head_tokens h c hc with hsep | hdigit
  · exact isUnitLetter_eq_false_of_isSeparator hsep
  · exact isUnitLetter_eq_false_of_isDigit hdigit

/-- A token ends with the name of a unit, so it is not empty. -/
theorem Token.Writes.text_ne_nil {t : Token} (h : t.Writes a) : t.text ≠ [] := by
  have hname := (letters_of_isNamed h.isNamed).1
  rw [Token.text]
  exact List.append_ne_nil_of_right_ne_nil _ (List.append_ne_nil_of_right_ne_nil _
    (List.append_ne_nil_of_right_ne_nil _ hname))

/-- Only no tokens at all have an empty text. -/
theorem flatMap_text_eq_nil_iff (h : List.Forall₂ Token.Writes ts as) :
    ts.flatMap Token.text = [] ↔ ts = [] := by
  cases h with
  | nil => simp
  | cons ht _ =>
      rw [List.flatMap_cons]
      exact iff_of_false (List.append_ne_nil_of_left_ne_nil ht.text_ne_nil _) (List.cons_ne_nil _ _)

/-- The numeral of a token is found behind what stands before it. -/
theorem dropWhile_isSeparator_text {t : Token} (ht : t.Writes a) (rest : List Char) :
    (t.text ++ rest).dropWhile isSeparator =
      t.numeral.text ++ (t.pad ++ (t.name ++ rest)) := by
  rw [Token.text]
  simp only [List.append_assoc]
  refine dropWhile_append_of_stop ht.isSeparator_gap fun c hc => ?_
  obtain ⟨d, r, htext, hdigit⟩ := ht.isDecimal.exists_cons_text
  rw [htext] at hc
  cases Option.mem_def.mp hc
  exact isSeparator_eq_false_of_isDigit hdigit

/-- What is read as amounts was written as tokens for them. -/
theorem exists_tokens_of_readTokens (h : readTokens fuel cs = .ok as) :
    ∃ ts, List.Forall₂ Token.Writes ts as ∧ cs = ts.flatMap Token.text := by
  induction fuel generalizing cs as with
  | zero =>
      cases cs with
      | nil => cases h; exact ⟨[], .nil, rfl⟩
      | cons c cs => cases h
  | succ fuel ih =>
      cases cs with
      | nil => cases h; exact ⟨[], .nil, rfl⟩
      | cons c cs =>
          rw [readTokens] at h
          · split at h
            · cases h
            · rename_i n name rest htoken
              obtain ⟨hn, -, -, -, pad, hpad, hdrop⟩ := takeToken?_eq_some_iff.mp htoken
              simp only at h
              split at h
              · cases h
              · rename_i u hnamed
                split at h
                · rename_i amounts hrest
                  cases h
                  obtain ⟨ts, hts, rfl⟩ := ih hrest
                  refine ⟨⟨(c :: cs).takeWhile isSeparator, n, pad, name⟩ :: ts, .cons ?_ hts, ?_⟩
                  · exact ⟨rfl, fun _ => List.mem_takeWhile_imp, hn, hpad,
                      TimeUnit.named?_eq_some_iff.mp hnamed⟩
                  · rw [List.flatMap_cons, Token.text]
                    simp only [List.append_assoc]
                    rw [← hdrop, List.takeWhile_append_dropWhile]
                · cases h
          · exact List.cons_ne_nil c cs

/-- Tokens are read as the amounts that they were written for, if the fuel suffices. -/
theorem readTokens_flatMap_text (h : List.Forall₂ Token.Writes ts as)
    (hfuel : (ts.flatMap Token.text).length ≤ fuel) :
    readTokens fuel (ts.flatMap Token.text) = .ok as := by
  induction h generalizing fuel with
  | nil => cases fuel <;> rfl
  | @cons t a ts as ht hts ih =>
      obtain ⟨hname, hletters, -⟩ := letters_of_isNamed ht.isNamed
      have hlong : 0 < t.text.length := List.length_pos_iff.mpr ht.text_ne_nil
      rw [List.flatMap_cons, List.length_append] at hfuel
      obtain ⟨k, rfl⟩ : ∃ k, fuel = k + 1 := Nat.exists_eq_add_of_le' (by omega)
      have hread : readTokens k (ts.flatMap Token.text) = .ok as := ih (by omega)
      have htoken : takeToken? ((t.text ++ ts.flatMap Token.text).dropWhile isSeparator) =
          some (t.numeral, t.name, ts.flatMap Token.text) := by
        rw [dropWhile_isSeparator_text ht]
        exact takeToken?_eq_some_iff.mpr
          ⟨ht.isDecimal, hname, hletters, stop_tokens hts, t.pad, ht.isBlank_pad, rfl⟩
      rw [List.flatMap_cons, readTokens, htoken]
      · simp only [TimeUnit.named?_eq_some_iff.mpr ht.isNamed, hread]
        rw [ht.numeral_eq]
      · intro hnil
        rw [List.append_eq_nil_iff.mp hnil |>.1] at hlong
        exact absurd hlong (Nat.lt_irrefl 0)

/-- **Tokens.** A text is read as amounts exactly if it was written as tokens for them. -/
theorem tokens_eq_ok_iff :
    tokens cs = .ok as ↔ ∃ ts, List.Forall₂ Token.Writes ts as ∧ cs = ts.flatMap Token.text := by
  constructor
  · exact exists_tokens_of_readTokens
  · rintro ⟨ts, hts, rfl⟩
    exact readTokens_flatMap_text hts (Nat.le_refl _)

/-! ### Blanks at the ends -/

/-- A text of tokens ends with a letter. -/
theorem not_isBlank_getLast_tokens (h : List.Forall₂ Token.Writes ts as) :
    ∀ c ∈ (ts.flatMap Token.text).getLast?, isBlank c = false := by
  induction h with
  | nil => intro c hc; cases hc
  | @cons t a ts as ht _ ih =>
      intro c hc
      obtain ⟨hname, hletters, -⟩ := letters_of_isNamed ht.isNamed
      have hlast : t.text.getLast? = t.name.getLast? := by
        rw [Token.text, List.getLast?_append, List.getLast?_append, List.getLast?_append,
          List.getLast?_eq_some_getLast hname]
        rfl
      rw [List.flatMap_cons, List.getLast?_append, Option.mem_def, Option.or_eq_some_iff] at hc
      rcases hc with hc | ⟨-, hc⟩
      · exact ih c hc
      · rw [hlast] at hc
        exact isBlank_eq_false_of_isUnitLetter (hletters c (List.mem_of_getLast? hc))

/-- **Blanks.** A text of tokens without the blanks at its ends is one for the same amounts. -/
theorem exists_tokens_trim (h : List.Forall₂ Token.Writes ts as) :
    ∃ ts', List.Forall₂ Token.Writes ts' as ∧
      trim (ts.flatMap Token.text) = ts'.flatMap Token.text := by
  cases h with
  | nil => exact ⟨[], .nil, rfl⟩
  | @cons t a ts as ht hts =>
      let bare : Token := { t with gap := t.gap.dropWhile isBlank }
      have hbare : bare.Writes a :=
        { ht with
          isSeparator_gap := fun c hc =>
            ht.isSeparator_gap c ((List.dropWhile_sublist _).subset hc) }
      have hall : List.Forall₂ Token.Writes (bare :: ts) (a :: as) := .cons hbare hts
      refine ⟨bare :: ts, hall, ?_⟩
      have hstart : trimStart ((t :: ts).flatMap Token.text) = (bare :: ts).flatMap Token.text := by
        obtain ⟨d, r, htext, hdigit⟩ := ht.isDecimal.exists_cons_text
        have hkept : trimStart (d :: (r ++ (t.pad ++ t.name) ++ ts.flatMap Token.text)) =
            d :: (r ++ (t.pad ++ t.name) ++ ts.flatMap Token.text) :=
          trimStart_eq_self fun c hc => by
            cases Option.mem_def.mp hc
            exact isBlank_eq_false_of_isDigit hdigit
        rw [trimStart] at hkept
        simp only [trimStart, List.flatMap_cons, Token.text, htext, List.append_assoc,
          List.cons_append, bare] at hkept ⊢
        rw [List.dropWhile_append, hkept]
        split
        · rename_i hnone
          rw [List.isEmpty_iff.mp hnone, List.nil_append]
        · rfl
      rw [trim, hstart, trimEnd_eq_self (not_isBlank_getLast_tokens hall)]

end Delay

end Deferral

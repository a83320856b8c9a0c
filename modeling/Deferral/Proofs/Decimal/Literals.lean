import Deferral.Decimal.Literal
import Deferral.Proofs.Text.Basic

/-!
# Decimal literals

A decimal literal is a sign or none, and then a word for infinity or for what is not a number, in
any mixture of cases, or digits with at most one point among or around them and an exponent or none.
The reader answers with a number exactly for these, with the sign that is written.

## Main results

* `isSome_readExponent?_iff` — exponents;
* `readUnsigned?_digits`, `readUnsigned?_point` — a number is read up to what follows its digits;
* `isSome_readUnsigned?_iff` — numbers without a sign;
* `isSome_readDouble?_iff` — literals;
* `not_isLiteral_append` — a number that goes on with something else is none;
* `isNegative_add` — sums;
* `isNegative_mul_finite` — products with a finite factor other than zero;
* `Decimal.Literal.isNegative_value` — a literal has the sign that it is written with.
-/

namespace Deferral.Decimal

variable {c : Char} {cs sign body digits whole fraction rest : List Char} {negative : Bool}

/-! ### Letters -/

/-- The code points of the letters of ASCII. -/
theorem isAlpha_iff_toNat :
    c.isAlpha = true ↔ 65 ≤ c.toNat ∧ c.toNat ≤ 90 ∨ 97 ≤ c.toNat ∧ c.toNat ≤ 122 := by
  have hletter : c.isAlpha = (decide ('A'.val ≤ c.val ∧ c.val ≤ 'Z'.val) ||
      (decide ('a'.val ≤ c.val) && decide (c.val ≤ 'z'.val))) := rfl
  rw [hletter]
  simp only [Bool.or_eq_true, Bool.and_eq_true, decide_eq_true_eq, UInt32.le_iff_toNat_le]
  exact Iff.rfl

/-- What has a letter for its lower case is a letter. -/
theorem isAlpha_of_isAlpha_toLower (h : c.toLower.isAlpha = true) : c.isAlpha = true := by
  unfold Char.toLower at h
  split at h
  · rename_i hupper
    exact isAlpha_iff_toNat.mpr (.inl hupper)
  · exact h

/-- A letter is no digit. -/
theorem isDigit_eq_false_of_isAlpha (h : c.isAlpha = true) : c.isDigit = false := by
  rw [Bool.eq_false_iff]
  intro hdigit
  have hbounds : 48 ≤ c.toNat ∧ c.toNat ≤ 57 := Char.isDigit_iff_toNat.mp hdigit
  have hletter := isAlpha_iff_toNat.mp h
  omega

/-! ### The form -/

/-- A sign, or none. -/
def IsSign (cs : List Char) : Prop := cs = [] ∨ cs = ['+'] ∨ cs = ['-']

/-- One or more digits. -/
def IsDigits (cs : List Char) : Prop := cs ≠ [] ∧ ∀ c ∈ cs, c.isDigit = true

/-- Nothing, or the letter of an exponent, a sign or none, and digits. -/
def IsExponent (cs : List Char) : Prop :=
  cs = [] ∨ ∃ mark sign digits, (mark = 'e' ∨ mark = 'E') ∧ IsSign sign ∧ IsDigits digits ∧
    cs = mark :: (sign ++ digits)

/-- Digits, or digits with one point among or around them. -/
def IsMantissa (cs : List Char) : Prop :=
  IsDigits cs ∨ ∃ whole fraction, (∀ c ∈ whole, c.isDigit = true) ∧
    (∀ c ∈ fraction, c.isDigit = true) ∧ (whole ≠ [] ∨ fraction ≠ []) ∧
    cs = whole ++ '.' :: fraction

/-- A word for infinity or for what is not a number, in any mixture of cases. -/
def IsWord (cs : List Char) : Prop :=
  cs.map Char.toLower ∈ ["inf".toList, "infinity".toList, "nan".toList]

/-- A decimal literal. -/
def IsLiteral (cs : List Char) : Prop :=
  ∃ sign body, IsSign sign ∧ cs = sign ++ body ∧
    (IsWord body ∨ ∃ mantissa exponent, IsMantissa mantissa ∧ IsExponent exponent ∧
      body = mantissa ++ exponent)

/-! ### Signs and exponents -/

/-- A text that does not begin with a sign. -/
def Unsigned (cs : List Char) : Prop := ∀ c ∈ cs.head?, c ≠ '+' ∧ c ≠ '-'

/-- What is taken off the front of a text is a sign or nothing. -/
theorem exists_isSign_takeSign (cs : List Char) :
    ∃ sign, IsSign sign ∧ cs = sign ++ (takeSign cs).2 := by
  unfold takeSign
  split
  · exact ⟨['-'], .inr (.inr rfl), rfl⟩
  · exact ⟨['+'], .inr (.inl rfl), rfl⟩
  · exact ⟨[], .inl rfl, rfl⟩

/-- A sign is taken off what has none of its own. -/
theorem takeSign_append (hsign : IsSign sign) (hbody : Unsigned body) :
    (takeSign (sign ++ body)).2 = body := by
  rcases hsign with rfl | rfl | rfl
  · rw [List.nil_append]
    unfold takeSign
    split
    · exact absurd rfl (hbody '-' rfl).2
    · exact absurd rfl (hbody '+' rfl).1
    · rfl
  · rfl
  · rfl

/-- A text reads as a whole number if it is digits, at least one. -/
theorem isSome_readDigits?_iff : (Text.readDigits? cs).isSome = true ↔ IsDigits cs := by
  unfold Text.readDigits?
  split
  · rename_i h
    simpa [IsDigits] using h
  · rename_i h
    simpa [IsDigits] using h

/-- A text that begins with a letter, a digit or a point begins with no sign. -/
theorem unsigned_of_head (h : ∀ c ∈ cs.head?, c.isAlpha = true ∨ c.isDigit = true ∨ c = '.') :
    Unsigned cs := by
  intro c hc
  constructor
  · rintro rfl
    exact absurd (h _ hc) (by decide)
  · rintro rfl
    exact absurd (h _ hc) (by decide)

/-- Digits do not begin with a sign. -/
theorem IsDigits.unsigned (h : IsDigits cs) : Unsigned cs :=
  unsigned_of_head fun c hc => .inr (.inl (h.2 c (List.mem_of_mem_head? hc)))

/-- Behind the mark of an exponent stand digits, with or without a sign. -/
theorem isSome_readExponent?_cons {mark : Char} {r : List Char} (hmark : mark = 'e' ∨ mark = 'E') :
    (readExponent? (mark :: r)).isSome = true ↔ IsDigits (takeSign r).2 := by
  have hletter : (mark == 'e' || mark == 'E') = true := by simpa using hmark
  rw [readExponent?, if_pos hletter, ← isSome_readDigits?_iff]
  cases hread : Text.readDigits? (takeSign r).2 with
  | none => simp [hread]
  | some n => simp [hread]

/-- A text that is not empty and does not begin with the mark is no exponent. -/
theorem readExponent?_eq_none (hcs : cs ≠ []) (h : ∀ c ∈ cs.head?, c ≠ 'e' ∧ c ≠ 'E') :
    readExponent? cs = none := by
  obtain ⟨c, r, rfl⟩ := List.exists_cons_of_ne_nil hcs
  obtain ⟨hlower, hupper⟩ := h c rfl
  rw [readExponent?, if_neg (by simp [hlower, hupper])]

/-- **Exponents.** -/
theorem isSome_readExponent?_iff : (readExponent? cs).isSome = true ↔ IsExponent cs := by
  cases cs with
  | nil => exact iff_of_true rfl (.inl rfl)
  | cons c r =>
      by_cases hmark : c = 'e' ∨ c = 'E'
      · rw [isSome_readExponent?_cons hmark]
        constructor
        · intro hdigits
          obtain ⟨sign, hsign, hr⟩ := exists_isSign_takeSign r
          exact .inr ⟨c, sign, _, hmark, hsign, hdigits, congrArg (c :: ·) hr⟩
        · rintro (hnil | ⟨mark, sign, digits, -, hsign, hdigits, hcs⟩)
          · exact absurd hnil (List.cons_ne_nil _ _)
          · rw [(List.cons.inj hcs).2, takeSign_append hsign hdigits.unsigned]
            exact hdigits
      · rw [readExponent?_eq_none (List.cons_ne_nil _ _) fun d hd => by
          cases Option.mem_def.mp hd
          exact not_or.mp hmark]
        refine iff_of_false nofun ?_
        rintro (hnil | ⟨mark, sign, digits, hletter, -, -, hcs⟩)
        · exact absurd hnil (List.cons_ne_nil _ _)
        · rw [← (List.cons.inj hcs).1] at hletter
          exact hmark hletter

/-! ### Numbers without a sign -/

/-- An exponent begins with no digit and no point. -/
theorem IsExponent.stop (h : IsExponent cs) : ∀ c ∈ cs.head?, c.isDigit = false ∧ c ≠ '.' := by
  intro c hc
  rcases h with rfl | ⟨mark, sign, digits, rfl | rfl, -, -, rfl⟩
  · cases hc
  · cases Option.mem_def.mp hc
    decide
  · cases Option.mem_def.mp hc
    decide

/-- Digits are read up to what follows them. -/
theorem readUnsigned?_digits (hdigits : IsDigits digits)
    (hstop : ∀ c ∈ rest.head?, c.isDigit = false ∧ c ≠ '.') :
    readUnsigned? negative (digits ++ rest) =
      (readExponent? rest).map fun e => ⟨negative, digits, [], e⟩ := by
  have hend : ∀ c ∈ rest.head?, c.isDigit = false := fun c hc => (hstop c hc).1
  have hsome : digits.isEmpty = false := by simpa using hdigits.1
  rw [readUnsigned?, takeWhile_append_of_stop hdigits.2 hend,
    dropWhile_append_of_stop hdigits.2 hend]
  simp only [hsome, Bool.false_and, Bool.false_eq_true, if_false]
  split
  · exact absurd rfl (hstop '.' rfl).2
  · rfl

/-- Digits with a point among or around them are read up to what follows them. -/
theorem readUnsigned?_point (hwhole : ∀ c ∈ whole, c.isDigit = true)
    (hfraction : ∀ c ∈ fraction, c.isDigit = true) (hne : whole ≠ [] ∨ fraction ≠ [])
    (hstop : ∀ c ∈ rest.head?, c.isDigit = false) :
    readUnsigned? negative (whole ++ '.' :: (fraction ++ rest)) =
      (readExponent? rest).map fun e => ⟨negative, whole, fraction, e⟩ := by
  have hend : ∀ c ∈ ('.' :: (fraction ++ rest)).head?, c.isDigit = false := by simp
  have hsome : (whole.isEmpty && fraction.isEmpty) = false := by
    rw [Bool.eq_false_iff]
    intro hboth
    rw [Bool.and_eq_true, List.isEmpty_iff, List.isEmpty_iff] at hboth
    exact hne.elim (· hboth.1) (· hboth.2)
  rw [readUnsigned?, takeWhile_append_of_stop hwhole hend, dropWhile_append_of_stop hwhole hend]
  simp only [takeWhile_append_of_stop hfraction hstop, dropWhile_append_of_stop hfraction hstop,
    hsome, Bool.false_eq_true, if_false]

/-- **Numbers without a sign.** -/
theorem isSome_readUnsigned?_iff :
    (readUnsigned? negative cs).isSome = true ↔
      ∃ mantissa exponent, IsMantissa mantissa ∧ IsExponent exponent ∧
        cs = mantissa ++ exponent := by
  constructor
  · have hcs : cs.takeWhile Char.isDigit ++ cs.dropWhile Char.isDigit = cs :=
      List.takeWhile_append_dropWhile
    have hwhole : ∀ c ∈ cs.takeWhile Char.isDigit, c.isDigit = true :=
      fun _ => List.mem_takeWhile_imp
    intro h
    unfold readUnsigned? at h
    generalize cs.takeWhile Char.isDigit = whole at *
    generalize cs.dropWhile Char.isDigit = tail at *
    subst hcs
    simp only at h
    split at h
    · rename_i r
      simp only [Bool.and_eq_true, List.isEmpty_iff] at h
      split at h
      · cases h
      · rename_i hsome
        rw [Option.isSome_map, isSome_readExponent?_iff] at h
        refine ⟨whole ++ '.' :: r.takeWhile Char.isDigit, _, .inr ⟨_, _, hwhole,
          fun _ => List.mem_takeWhile_imp, not_and_or.mp hsome, rfl⟩, h, ?_⟩
        rw [List.append_assoc, List.cons_append, List.takeWhile_append_dropWhile]
    · simp only [Bool.and_eq_true, List.isEmpty_iff, and_true] at h
      split at h
      · cases h
      · rename_i hsome
        rw [Option.isSome_map, isSome_readExponent?_iff] at h
        exact ⟨whole, tail, .inl ⟨hsome, hwhole⟩, h, rfl⟩
  · rintro ⟨mantissa, exponent, hmantissa, hexponent, rfl⟩
    rcases hmantissa with hdigits | ⟨whole, fraction, hwhole, hfraction, hne, rfl⟩
    · rw [readUnsigned?_digits hdigits hexponent.stop, Option.isSome_map]
      exact isSome_readExponent?_iff.mpr hexponent
    · rw [List.append_assoc, List.cons_append, readUnsigned?_point hwhole hfraction hne
        fun c hc => (hexponent.stop c hc).1, Option.isSome_map]
      exact isSome_readExponent?_iff.mpr hexponent

/-! ### Literals -/

/-- A word begins with a letter. -/
theorem IsWord.isAlpha_head (h : IsWord cs) : ∀ c ∈ cs.head?, c.isAlpha = true := by
  intro c hc
  obtain ⟨r, rfl⟩ := List.head?_eq_some_iff.mp (Option.mem_def.mp hc)
  have hfirst : c.toLower = 'i' ∨ c.toLower = 'n' := by
    simp only [IsWord, List.map_cons, List.mem_cons, List.not_mem_nil, or_false] at h
    rcases h with h | h | h
    · exact .inl (List.cons.inj h).1
    · exact .inl (List.cons.inj h).1
    · exact .inr (List.cons.inj h).1
  apply isAlpha_of_isAlpha_toLower
  rcases hfirst with h | h
  · rw [h]
    decide
  · rw [h]
    decide

/-- A number without sign and exponent is not the empty text. -/
theorem IsMantissa.ne_nil (h : IsMantissa cs) : cs ≠ [] := by
  rcases h with hdigits | ⟨whole, fraction, -, -, -, rfl⟩
  · exact hdigits.1
  · exact List.append_ne_nil_of_right_ne_nil whole (List.cons_ne_nil _ _)

/-- The digits of a number may begin with the point. -/
theorem IsMantissa.head (h : IsMantissa cs) : ∀ c ∈ cs.head?, c.isDigit = true ∨ c = '.' := by
  intro c hc
  rcases h with hdigits | ⟨whole, fraction, hwhole, -, -, rfl⟩
  · exact .inl (hdigits.2 c (List.mem_of_mem_head? hc))
  · cases whole with
    | nil =>
        cases Option.mem_def.mp hc
        exact .inr rfl
    | cons d whole =>
        cases Option.mem_def.mp hc
        exact .inl (hwhole c List.mem_cons_self)

/-- It begins with a digit or the point, whatever follows it. -/
theorem IsMantissa.head_append (h : IsMantissa cs) (rest : List Char) :
    ∀ c ∈ (cs ++ rest).head?, c.isDigit = true ∨ c = '.' := by
  obtain ⟨d, r, rfl⟩ := List.exists_cons_of_ne_nil h.ne_nil
  exact h.head

/-- The reader takes a sign or none off a text, and reads what is left as a word or as a number. -/
theorem isSome_readDouble?_takeSign :
    (readDouble? cs).isSome = true ↔
      IsWord (takeSign cs).2 ∨ (readUnsigned? (takeSign cs).1 (takeSign cs).2).isSome = true := by
  have hlist : IsWord (takeSign cs).2 ↔
      ((takeSign cs).2.map Char.toLower == ['i', 'n', 'f'] ||
          (takeSign cs).2.map Char.toLower == ['i', 'n', 'f', 'i', 'n', 'i', 't', 'y']) = true ∨
        ((takeSign cs).2.map Char.toLower == ['n', 'a', 'n']) = true := by
    simp [IsWord, or_assoc]
  rw [hlist, readDouble?]
  simp only
  split
  · rename_i hinf
    exact iff_of_true rfl (.inl (.inl hinf))
  · rename_i hinf
    split
    · rename_i hnan
      exact iff_of_true rfl (.inl (.inr hnan))
    · rename_i hnan
      rw [Option.isSome_map]
      exact (or_iff_right (not_or.mpr ⟨hinf, hnan⟩)).symm

/-- **Literals.** The reader answers with a number exactly for decimal literals. -/
theorem isSome_readDouble?_iff : (readDouble? cs).isSome = true ↔ IsLiteral cs := by
  rw [isSome_readDouble?_takeSign, isSome_readUnsigned?_iff]
  constructor
  · intro h
    obtain ⟨sign, hsign, hcs⟩ := exists_isSign_takeSign cs
    exact ⟨sign, _, hsign, hcs, h⟩
  · rintro ⟨sign, body, hsign, rfl, hbody⟩
    have hunsigned : Unsigned body := by
      refine unsigned_of_head fun c hc => ?_
      rcases hbody with hword | ⟨mantissa, exponent, hmantissa, -, rfl⟩
      · exact .inl (hword.isAlpha_head c hc)
      · exact .inr (hmantissa.head_append exponent c hc)
    rw [takeSign_append hsign hunsigned]
    exact hbody

/-- A literal begins with a sign, a letter, a digit or a point. -/
theorem IsLiteral.head (h : IsLiteral cs) :
    ∀ c ∈ cs.head?, c = '+' ∨ c = '-' ∨ c.isAlpha = true ∨ c.isDigit = true ∨ c = '.' := by
  intro c hc
  obtain ⟨sign, body, rfl | rfl | rfl, rfl, hbody⟩ := h
  · rcases hbody with hword | ⟨mantissa, exponent, hmantissa, -, rfl⟩
    · exact .inr (.inr (.inl (hword.isAlpha_head c hc)))
    · exact .inr (.inr (.inr (hmantissa.head_append exponent c hc)))
  · exact .inl (Option.some.inj (Option.mem_def.mp hc)).symm
  · exact .inr (.inl (Option.some.inj (Option.mem_def.mp hc)).symm)

/-- A number that goes on with neither digit, point nor exponent is no literal. -/
theorem not_isLiteral_append {mantissa : List Char} (hmantissa : IsMantissa mantissa)
    (hrest : rest ≠ [])
    (hstop : ∀ c ∈ rest.head?, c.isDigit = false ∧ c ≠ '.' ∧ c ≠ 'e' ∧ c ≠ 'E') :
    ¬ IsLiteral (mantissa ++ rest) := by
  have hhead := hmantissa.head_append rest
  have hnone : IsSign [] := .inl rfl
  have hsign := takeSign_append hnone (unsigned_of_head fun c hc => .inr (hhead c hc))
  rw [List.nil_append] at hsign
  have hexponent : readExponent? rest = none :=
    readExponent?_eq_none hrest fun c hc => (hstop c hc).2.2
  rw [← isSome_readDouble?_iff, isSome_readDouble?_takeSign, hsign]
  rintro (hword | hread)
  · obtain ⟨d, r, rfl⟩ := List.exists_cons_of_ne_nil hmantissa.ne_nil
    have halpha := hword.isAlpha_head d rfl
    rcases hhead d rfl with hdigit | rfl
    · rw [isDigit_eq_false_of_isAlpha halpha] at hdigit
      exact absurd hdigit Bool.false_ne_true
    · exact absurd halpha (by decide)
  · rcases hmantissa with hdigits | ⟨whole, fraction, hwhole, hfraction, hne, rfl⟩
    · rw [readUnsigned?_digits hdigits fun c hc => ⟨(hstop c hc).1, (hstop c hc).2.1⟩,
        hexponent] at hread
      cases hread
    · rw [List.append_assoc, List.cons_append, readUnsigned?_point hwhole hfraction hne
        fun c hc => (hstop c hc).1, hexponent] at hread
      cases hread

end Deferral.Decimal

namespace Deferral

/-! ### Signs of floating-point results

Sums and products of numbers without a sign bit have none either, however they are rounded. The one
exception is the product of zero and an infinity, which is a number that is not one and has its sign
bit set: a factor that is finite and not zero rules it out. -/

namespace Double

variable {a b : Double} {n : Nat} {scale : Int}

/-- A natural number with a plus sign is not below zero. -/
theorem signed_false_nonneg (n : Nat) : 0 ≤ signed false n := Int.natCast_nonneg n

/-- A sum of numbers without a sign bit has none. -/
theorem isNegative_add (ha : a.isNegative = false) (hb : b.isNegative = false) :
    (a.add b).isNegative = false := by
  cases a with
  | nan s => cases b <;> exact ha
  | infinite s =>
      obtain rfl : s = false := ha
      cases b with
      | nan t => exact hb
      | infinite t =>
          obtain rfl : t = false := hb
          rfl
      | finite t n b => rfl
  | finite s m a =>
      obtain rfl : s = false := ha
      cases b with
      | nan t => exact hb
      | infinite t => exact hb
      | finite t n b =>
          obtain rfl : t = false := hb
          rw [add]
          split
          · rfl
          · have hsum := Int.add_nonneg (signed_false_nonneg (m * Nat.pow 2 (a - min a b).toNat))
              (signed_false_nonneg (n * Nat.pow 2 (b - min a b).toNat))
            rw [isNegative_ofDyadic]
            exact decide_eq_false (Int.not_lt.mpr hsum)

/-- A product of a number without a sign bit and a positive finite number has none. -/
theorem isNegative_mul_finite (ha : a.isNegative = false) (hn : n ≠ 0) :
    (a.mul (.finite false n scale)).isNegative = false := by
  cases a with
  | nan s => exact ha
  | infinite s =>
      obtain rfl : s = false := ha
      rw [mul, if_neg (by simpa using hn)]
      rfl
  | finite s m e =>
      obtain rfl : s = false := ha
      rw [mul, isNegative_ofDyadic]
      rfl

end Double

/-- A literal has the sign that it is written with. -/
theorem Decimal.Literal.isNegative_value (l : Literal) : l.value.isNegative = l.negative :=
  Double.isNegative_ofDecimal ..

end Deferral

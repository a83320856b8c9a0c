import Deferral.Proofs.Delay.Tokens
import Deferral.Regex.CharSet

/-!
# The characters of a pattern

In a pattern a digit is one of any script, and a letter without regard to case stands for every
character that folds as it does. The readers of delays only know the digits of ASCII and the letters
of units. Among the characters that a delay is written with, the two agree on digits; and what folds
to a small letter is a letter of units.

## Main results

* `toNat_of_isDecimalDigit` — where the decimal digits stand;
* `shiftBy_letter_iff` — what folds to a small letter;
* `mem_folded_letters_iff`, `mem_folded_point_iff` — the sets of letters and of the point.
-/

namespace Deferral

namespace Delay

open Text

variable {c : Char}

/-! ### Digits and letters -/

/-- A character that has a category of its own is covered by the runs of that category. -/
theorem exists_row_of_ofChar {k : Category} (h : Category.ofChar c = k) (hk : k ≠ .unassigned) :
    ∃ runs, (k, runs) ∈ Category.table ∧ Run.covers runs c.toNat = true := by
  rw [Category.ofChar, Category.ofCode] at h
  split at h
  · rename_i row hfind
    have hcovers := List.find?_some hfind
    exact ⟨row.2, h ▸ List.mem_of_find?_eq_some hfind, hcovers⟩
  · exact absurd h.symm hk

/-- Where decimal digits stand: none but those of ASCII come before the Arabic ones, and none is
among the blanks and the letters of units. -/
theorem toNat_of_isDecimalDigit (h : Text.isDigit c = true) :
    48 ≤ c.toNat ∧ c.toNat ≤ 57 ∨
      0x660 ≤ c.toNat ∧ c.toNat < 0x2000 ∧ c.toNat ≠ 0x1680 ∨ 0x3000 < c.toNat := by
  have hrows : ∀ row ∈ Category.table, row.1 = .decimalNumber → ∀ r ∈ row.2,
      48 ≤ r.1 ∧ r.2.1 ≤ 57 ∨
        0x660 ≤ r.1 ∧ r.2.1 < 0x2000 ∧ (r.2.1 < 0x1680 ∨ 0x1680 < r.1) ∨ 0x3000 < r.1 := by
    decide +kernel
  obtain ⟨runs, hrow, hcovers⟩ := exists_row_of_ofChar (beq_iff_eq.mp h) (by decide)
  obtain ⟨r, hr, hin⟩ := List.any_eq_true.mp hcovers
  simp only [Bool.and_eq_true, decide_eq_true_eq] at hin
  have hbounds := hrows _ hrow rfl r hr
  omega

/-- A digit of ASCII is a decimal digit. -/
theorem isDigit_of_isDigit (h : c.isDigit = true) : Text.isDigit c = true := by
  have hall : ∀ n ∈ List.range' 48 10, Text.isDigit (Char.ofNat n) = true := by decide +kernel
  have hbounds := toNat_of_isDigit h
  have hc := hall c.toNat (List.mem_range'_1.mpr (by omega))
  rwa [Char.ofNat_toNat] at hc

/-- Among the characters of ASCII the decimal digits are those from zero to nine. -/
theorem isDigit_eq_of_lt (h : c.toNat < 128) : Text.isDigit c = c.isDigit := by
  rw [Bool.eq_iff_iff]
  refine ⟨fun hdigit => ?_, isDigit_of_isDigit⟩
  have hbounds := toNat_of_isDecimalDigit hdigit
  exact Char.isDigit_iff_toNat.mpr (show 48 ≤ c.toNat ∧ c.toNat ≤ 57 by omega)

/-- No blank is a decimal digit of any script. -/
theorem isDigit_eq_false_of_blank (h : isBlank c = true) : Text.isDigit c = false := by
  rw [Bool.eq_false_iff]
  intro hdigit
  have hbounds := toNat_of_isDecimalDigit hdigit
  simp only [isBlank, Bool.or_eq_true, Bool.and_eq_true, decide_eq_true_eq, beq_iff_eq] at h
  omega

/-- No letter of a unit is a decimal digit of any script. -/
theorem isDigit_eq_false_of_unitLetter (h : isUnitLetter c = true) : Text.isDigit c = false := by
  rw [Bool.eq_false_iff]
  intro hdigit
  have hbounds := toNat_of_isDecimalDigit hdigit
  have hletter := toNat_of_isUnitLetter h
  omega

/-! ### Letters without regard to case -/

/-- A character that is given by its number lies in a range above zero and below the surrogates if
its number does. -/
theorem mem_range_ofNat_iff {first last : Char} {k : Nat} (hfirst : 0 < first.toNat)
    (hlast : last.toNat < 0xD800) :
    (CharSet.range first last).mem (Char.ofNat k) = true ↔ first.toNat ≤ k ∧ k ≤ last.toNat := by
  have hle (a b : Char) : a ≤ b ↔ a.toNat ≤ b.toNat := UInt32.le_iff_toNat_le
  simp only [CharSet.mem, Bool.and_eq_true, decide_eq_true_eq, hle]
  by_cases hvalid : k.isValidChar
  · have hvalue : (Char.ofNat k).toNat = k := by
      rw [Char.ofNat, dif_pos hvalid]
      rfl
    rw [hvalue]
  · have hvalue : (Char.ofNat k).toNat = 0 := by
      rw [Char.ofNat, dif_neg hvalid]
      rfl
    rw [hvalue]
    rw [Nat.isValidChar] at hvalid
    omega

/-- Where no run of the table begins in a range, folding is all that a folded range asks for. -/
theorem mem_folded_range_iff {first last : Char} (hfirst : 0 < first.toNat)
    (hlast : last.toNat < 0xD800)
    (hrows : ∀ row ∈ foldShifts, last.toNat < row.first ∨ row.last < first.toNat) :
    (CharSet.folded (.range first last)).mem c = true ↔
      first.toNat ≤ ShiftedRun.shiftBy foldShifts c.toNat ∧
        ShiftedRun.shiftBy foldShifts c.toNat ≤ last.toNat := by
  rw [CharSet.mem, variants, List.any_cons, Bool.or_eq_true, fold,
    mem_range_ofNat_iff hfirst hlast, or_iff_left]
  intro hsource
  obtain ⟨d, hd, hmem⟩ := List.any_eq_true.mp hsource
  obtain ⟨k, hk, rfl⟩ := List.mem_map.mp hd
  obtain ⟨row, hrow, hk⟩ := List.mem_filterMap.mp hk
  obtain ⟨hholds, hk⟩ := Option.ite_none_right_eq_some.mp hk
  obtain ⟨hlow, hhigh⟩ := (mem_range_ofNat_iff hfirst hlast).mp hmem
  simp only [ShiftedRun.holds, Bool.and_eq_true, decide_eq_true_eq] at hholds
  have hapart := hrows row hrow
  have hvalue := Option.some.inj hk
  omega

/-- What is sent to a small letter: the letters of units. -/
theorem shiftBy_letter_iff {k : Nat} :
    (97 ≤ ShiftedRun.shiftBy foldShifts k ∧ ShiftedRun.shiftBy foldShifts k ≤ 122) ↔
      65 ≤ k ∧ k ≤ 90 ∨ 97 ≤ k ∧ k ≤ 122 ∨ k = 0x17F ∨ k = 0x212A := by
  -- The runs that end up among the small letters, and what is known of any other.
  have hrows : ∀ row ∈ foldShifts,
      row.first = 65 ∧ row.last = 90 ∧ row.shift = 32 ∨
      row.first = 0x17F ∧ row.last = 0x17F ∧ row.shift = -268 ∨
      row.first = 0x212A ∧ row.last = 0x212A ∧ row.shift = -8383 ∨
      (row.last + row.shift < 97 ∨ 122 < row.first + row.shift) ∧
        122 < row.first ∧ (0x17F < row.first ∨ row.last < 0x17F) ∧
        (0x212A < row.first ∨ row.last < 0x212A) := by
    decide +kernel
  rw [ShiftedRun.shiftBy]
  split
  · rename_i row hfind
    have hholds := List.find?_some hfind
    simp only [ShiftedRun.holds, Bool.and_eq_true, decide_eq_true_eq] at hholds
    have hrow := hrows row (List.mem_of_find?_eq_some hfind)
    omega
  · rename_i hfind
    have hupper : ¬ (65 ≤ k ∧ k ≤ 90) := by
      have hrow := List.find?_eq_none.mp hfind ⟨0x41, 0x5A, 1, 32⟩ List.mem_cons_self
      simpa [ShiftedRun.holds, Nat.mod_one] using hrow
    have hother : ∀ n ∈ [0x17F, 0x212A], (foldShifts.find? (·.holds n)).isSome = true := by decide
    have hlong : k ≠ 0x17F := by
      rintro rfl
      exact absurd (hother _ List.mem_cons_self) (by simp [hfind])
    have hkelvin : k ≠ 0x212A := by
      rintro rfl
      exact absurd (hother _ (List.mem_cons_of_mem _ List.mem_cons_self)) (by simp [hfind])
    omega

/-- The set of a letter class without regard to case is the letters of units. -/
theorem mem_folded_letters_iff :
    (CharSet.folded (.union .none (.range 'a' 'z'))).mem c = true ↔ isUnitLetter c = true := by
  have hrange : (CharSet.folded (.union .none (.range 'a' 'z'))).mem c =
      (CharSet.folded (.range 'a' 'z')).mem c := rfl
  have hall : ∀ row ∈ foldShifts, 'z'.toNat < row.first ∨ row.last < 'a'.toNat := by
    decide +kernel
  rw [hrange, mem_folded_range_iff (by decide) (by decide) hall]
  refine shiftBy_letter_iff.trans ?_
  rw [isUnitLetter, Bool.or_eq_true, Bool.or_eq_true, beq_iff_eq, beq_iff_eq,
    Decimal.isAlpha_iff_toNat, ← Char.toNat_inj, ← Char.toNat_inj, or_assoc, or_assoc]
  exact Iff.rfl

/-- A point has no other case. -/
theorem mem_folded_point_iff : (CharSet.folded (.single '.')).mem c = true ↔ c = '.' := by
  have hapart : ∀ row ∈ foldShifts, 46 < row.first ∧ 46 < row.first + row.shift := by
    decide +kernel
  have hall : ∀ row ∈ foldShifts, '.'.toNat < row.first ∨ row.last < '.'.toNat :=
    fun row hrow => .inl (hapart row hrow).1
  rw [CharSet.single, mem_folded_range_iff (by decide) (by decide) hall, ShiftedRun.shiftBy,
    ← Char.toNat_inj]
  have hpoint : '.'.toNat = 46 := rfl
  rw [hpoint]
  split
  · rename_i row hfind
    have hholds := List.find?_some hfind
    simp only [ShiftedRun.holds, Bool.and_eq_true, decide_eq_true_eq] at hholds
    have hrow := hapart row (List.mem_of_find?_eq_some hfind)
    omega
  · omega

end Delay

end Deferral

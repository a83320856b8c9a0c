import Deferral.Delay.Grammar
import Deferral.Proofs.Text.Basic

/-!
# Numerals at the front of a text

A numeral is written as its digits, with a point before those after it if there are any. The reader
takes the longest numeral that a text begins with: it finds a numeral in front of a text exactly if
the text goes on with nothing that the numeral could take in.

## Main results

* `takeNumeral?_eq_some_iff` — the numeral that a text begins with;
* `takeNumeral?_eq_none` — a text that does not begin with a digit begins with none.
-/

namespace Deferral

namespace Delay

variable {c : Char} {cs rest : List Char} {n : Numeral}

/-- The text of a numeral. -/
def Numeral.text (n : Numeral) : List Char :=
  n.whole ++ if n.fraction = [] then [] else '.' :: n.fraction

/-- A numeral of ASCII digits, at least one of them before the point. -/
structure Numeral.IsDecimal (n : Numeral) : Prop where
  whole_ne_nil : n.whole ≠ []
  isDigit_whole : ∀ c ∈ n.whole, c.isDigit = true
  isDigit_fraction : ∀ c ∈ n.fraction, c.isDigit = true

/-- The form of a numeral, as a test. -/
theorem Numeral.isDecimal_iff : n.IsDecimal ↔
    n.whole ≠ [] ∧ n.whole.all Char.isDigit = true ∧ n.fraction.all Char.isDigit = true := by
  rw [List.all_eq_true, List.all_eq_true]
  constructor
  · exact fun h => ⟨h.whole_ne_nil, h.isDigit_whole, h.isDigit_fraction⟩
  · exact fun h => ⟨h.1, h.2.1, h.2.2⟩

instance (n : Numeral) : Decidable n.IsDecimal := decidable_of_iff _ Numeral.isDecimal_iff.symm

/-- A text that goes on with nothing that the numeral before it could take in. -/
structure Numeral.StopsBefore (n : Numeral) (rest : List Char) : Prop where
  not_digit : ∀ c ∈ rest.head?, c.isDigit = false
  not_point : n.fraction = [] → ∀ c r, rest = '.' :: c :: r → c.isDigit = false

/-- Without a fraction there is no point. -/
theorem Numeral.text_of_fraction_eq_nil (h : n.fraction = []) : n.text = n.whole := by
  rw [text, if_pos h, List.append_nil]

/-- A fraction stands behind a point. -/
theorem Numeral.text_of_fraction_ne_nil (h : n.fraction ≠ []) :
    n.text = n.whole ++ '.' :: n.fraction := by
  rw [text, if_neg h]

/-- A numeral begins with a digit. -/
theorem Numeral.IsDecimal.exists_cons_text (h : n.IsDecimal) :
    ∃ c r, n.text = c :: r ∧ c.isDigit = true := by
  obtain ⟨c, r, hwhole⟩ := List.exists_cons_of_ne_nil h.whole_ne_nil
  refine ⟨c, _, by rw [text, hwhole, List.cons_append], h.isDigit_whole c ?_⟩
  rw [hwhole]
  exact List.mem_cons_self

/-- No numeral is taken off a text that does not begin with a digit. -/
theorem takeNumeral?_eq_none (h : ∀ c ∈ cs.head?, c.isDigit = false) : takeNumeral? cs = none := by
  rw [takeNumeral?, takeWhile_eq_nil_iff_stop.mpr h]
  rfl

/-- A numeral reads back in front of what it could not take in. -/
theorem takeNumeral?_text_append (hn : n.IsDecimal) (hstop : n.StopsBefore rest) :
    takeNumeral? (n.text ++ rest) = some (n, rest) := by
  have hsome : n.whole.isEmpty = false := by simpa using hn.whole_ne_nil
  by_cases hfraction : n.fraction = []
  · rw [Numeral.text_of_fraction_eq_nil hfraction, takeNumeral?,
      takeWhile_append_of_stop hn.isDigit_whole hstop.not_digit,
      dropWhile_append_of_stop hn.isDigit_whole hstop.not_digit, hsome]
    have hself : (⟨n.whole, []⟩ : Numeral) = n := by rw [← hfraction]
    -- A point that no digit follows is left where it stands.
    have hpoint (r : List Char) (hr : rest = '.' :: r) : r.takeWhile Char.isDigit = [] :=
      takeWhile_eq_nil_iff_stop.mpr fun c hc => by
        obtain ⟨r', rfl⟩ := List.head?_eq_some_iff.mp (Option.mem_def.mp hc)
        exact hstop.not_point hfraction c r' hr
    rw [hself]
    simp only [Bool.false_eq_true, if_false]
    split
    · rename_i r
      rw [hpoint r rfl]
      rfl
    · rfl
  · have hend : ∀ c ∈ ('.' :: (n.fraction ++ rest)).head?, c.isDigit = false := by simp
    have hmore : n.fraction.isEmpty = false := by simpa using hfraction
    rw [Numeral.text_of_fraction_ne_nil hfraction, List.append_assoc, List.cons_append,
      takeNumeral?, takeWhile_append_of_stop hn.isDigit_whole hend,
      dropWhile_append_of_stop hn.isDigit_whole hend, hsome]
    simp only [Bool.false_eq_true, if_false]
    rw [takeWhile_append_of_stop hn.isDigit_fraction hstop.not_digit,
      dropWhile_append_of_stop hn.isDigit_fraction hstop.not_digit, hmore]
    rfl

/-- What the reader takes is a numeral at the front of the text. -/
theorem isDecimal_of_takeNumeral? (h : takeNumeral? cs = some (n, rest)) :
    n.IsDecimal ∧ n.StopsBefore rest ∧ cs = n.text ++ rest := by
  have hcs : cs.takeWhile Char.isDigit ++ cs.dropWhile Char.isDigit = cs :=
    List.takeWhile_append_dropWhile
  have hstop := stop_dropWhile Char.isDigit cs
  have hwhole : ∀ c ∈ cs.takeWhile Char.isDigit, c.isDigit = true := fun _ => List.mem_takeWhile_imp
  unfold takeNumeral? at h
  generalize cs.takeWhile Char.isDigit = whole at *
  generalize cs.dropWhile Char.isDigit = tail at *
  subst hcs
  simp only [List.isEmpty_iff] at h
  split at h
  · cases h
  · rename_i hsome
    split at h
    · rename_i r
      split at h
      · rename_i hfraction
        cases h
        refine ⟨⟨hsome, hwhole, nofun⟩, ⟨hstop, fun _ c r' hr => ?_⟩, ?_⟩
        · obtain rfl := (List.cons.inj hr).2
          exact takeWhile_eq_nil_iff_stop.mp hfraction c rfl
        · rw [Numeral.text_of_fraction_eq_nil rfl]
      · rename_i hfraction
        cases h
        have hr : r.takeWhile Char.isDigit ++ r.dropWhile Char.isDigit = r :=
          List.takeWhile_append_dropWhile
        refine ⟨⟨hsome, hwhole, fun _ => List.mem_takeWhile_imp⟩,
          ⟨stop_dropWhile _ _, fun hnil => absurd hnil hfraction⟩, ?_⟩
        rw [Numeral.text_of_fraction_ne_nil hfraction, List.append_assoc, List.cons_append, hr]
    · rename_i hpoint
      cases h
      refine ⟨⟨hsome, hwhole, nofun⟩, ⟨hstop, fun _ c r hr => absurd hr (hpoint _)⟩, ?_⟩
      rw [Numeral.text_of_fraction_eq_nil rfl]

/-- **Numerals.** The reader takes the numeral that a text begins with, and all of it. -/
theorem takeNumeral?_eq_some_iff :
    takeNumeral? cs = some (n, rest) ↔ n.IsDecimal ∧ n.StopsBefore rest ∧ cs = n.text ++ rest := by
  constructor
  · exact isDecimal_of_takeNumeral?
  · rintro ⟨hn, hstop, rfl⟩
    exact takeNumeral?_text_append hn hstop

end Delay

end Deferral

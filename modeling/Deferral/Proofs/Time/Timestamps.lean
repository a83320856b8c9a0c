import Deferral.Proofs.Json.Roundtrip
import Deferral.Proofs.Text.Basic
import Deferral.Proofs.Time.Calendar
import Deferral.Time.Rfc3339
import Mathlib.Data.Nat.Digits.Defs

/-!
# Timestamps that read back

The timestamp of an instant reads back as the instant. The reader takes one part after another, and
each part was written with as many digits as the reader takes at most, or is followed by a character
that is no digit.

## Main results

* `takeNumber?_padded`, `takeYear?_yearText`, `takeFraction?_fractionText` — the parts, each in
  front of what can follow it;
* `read?_render` — timestamps.
-/

namespace Deferral

/-- An instant is the instant of its nanoseconds. -/
theorem Instant.ofNanos?_nanos (t : Instant) : ofNanos? t.nanos = some t :=
  dif_pos ⟨t.first_le, t.le_last⟩

namespace Timestamp

open Text Decimal

variable {width n : Nat} {cs : List Char}

/-! ### Padded numbers -/

/-- A padded number is written in digits. -/
theorem isDigit_of_mem_padded {c : Char} (hc : c ∈ padded width n) : c.isDigit = true := by
  rcases List.mem_append.mp hc with hzero | htext
  · rw [List.eq_of_mem_replicate hzero]
    decide
  · exact isDigit_of_mem_natText htext

/-- A padded number is not the empty text. -/
theorem padded_ne_nil (width n : Nat) : padded width n ≠ [] := fun h =>
  Nat.toDigits_ne_nil (List.append_eq_nil_iff.mp h).2

/-- It begins with a digit. -/
theorem exists_cons_padded (width n : Nat) :
    ∃ c ds, padded width n = c :: ds ∧ c.isDigit = true := by
  obtain ⟨c, ds, htext⟩ := List.exists_cons_of_ne_nil (padded_ne_nil width n)
  exact ⟨c, ds, htext, isDigit_of_mem_padded (htext ▸ List.mem_cons_self)⟩

/-- A number with no more digits than it is padded to has just as many. -/
theorem length_padded (hwidth : 0 < width) (hn : n < 10 ^ width) :
    (padded width n).length = width := by
  have hle : (natText n).length ≤ width := Nat.toDigits_length 10 n width hwidth hn
  rw [padded, List.length_append, List.length_replicate]
  omega

/-- The zeros in front do not count. -/
theorem digitsValue_padded (width n : Nat) : digitsValue 0 (padded width n) = n := by
  have hzeros (k : Nat) : digitsValue 0 (List.replicate k '0') = 0 := by
    induction k with
    | zero => rfl
    | succ k ih => exact ih
  rw [padded, digitsValue, List.foldl_append]
  exact (congrArg (digitsValue · (natText n)) (hzeros _)).trans (digitsValue_natText n)

/-- A padded number reads back. -/
theorem readDigits?_padded (width n : Nat) : readDigits? (padded width n) = some n := by
  rw [readDigits?_of_isDigit (padded_ne_nil width n) fun _ => isDigit_of_mem_padded,
    digitsValue_padded]

/-- No white space stands before a padded number. -/
theorem trimStart_padded (width n : Nat) (cs : List Char) :
    trimStart (padded width n ++ cs) = padded width n ++ cs := by
  obtain ⟨c, ds, htext, hc⟩ := exists_cons_padded width n
  rw [htext]
  exact trimStart_cons (isBlank_eq_false_of_isDigit hc) _

/-- A padded number begins with nothing but a digit. -/
theorem padded_append_ne_cons {c : Char} (hc : c.isDigit = false) (ds : List Char) :
    padded width n ++ cs ≠ c :: ds := by
  intro h
  obtain ⟨d, rest, htext, hd⟩ := exists_cons_padded width n
  rw [htext, List.cons_append] at h
  rw [(List.cons.inj h).1, hc] at hd
  cases hd

/-- **Numbers.** A number that was padded to the most digits that are read reads back. -/
theorem takeNumber?_padded (hwidth : 0 < width) (hn : n < 10 ^ width) (cs : List Char) :
    takeNumber? width (padded width n ++ cs) = some (n, cs) := by
  have hlength := length_padded hwidth hn
  have hdigits : (padded width n).takeWhile Char.isDigit = padded width n :=
    List.takeWhile_eq_self_iff.mpr fun c hc => isDigit_of_mem_padded hc
  simp only [takeNumber?, trimStart_padded, List.take_left' hlength, hdigits, readDigits?_padded,
    Option.map_some, List.drop_left]

/-! ### Parts of a timestamp -/

/-- A mark that is no white space is taken off. -/
theorem takeMark?_cons {mark : Char} (hmark : isBlank mark = false) (cs : List Char) :
    takeMark? mark (mark :: cs) = some cs := by
  simp only [takeMark?, trimStart_cons hmark, beq_self_eq_true, if_true]

/-- **Years.** A year reads back in front of a character that is no digit. -/
theorem takeYear?_yearText (year : Int) (hcs : ∀ c ∈ cs.head?, c.isDigit = false) :
    takeYear? (yearText year ++ cs) = some (year, cs) := by
  have hdigits (n : Nat) : (padded 4 n ++ cs).takeWhile Char.isDigit = padded 4 n :=
    takeWhile_append_of_stop (fun c hc => isDigit_of_mem_padded hc) hcs
  rw [yearText]
  split
  · next hyear =>
      have hfits : year.toNat < 10 ^ 4 := by omega
      have hcast : (year.toNat : Int) = year := by omega
      simp only [takeYear?, trimStart_padded]
      split
      · next h => exact absurd h (padded_append_ne_cons (by decide) _)
      · next h => exact absurd h (padded_append_ne_cons (by decide) _)
      · rw [takeNumber?_padded (by decide) hfits, Option.map_some, hcast]
  · split
    · next hneg =>
        have hcast : -(year.natAbs : Int) = year := by omega
        have hsign : isBlank '-' = false := by decide
        simp only [takeYear?, List.cons_append, trimStart_cons hsign, hdigits, readDigits?_padded,
          Option.map_some, List.drop_left, hcast]
    · next hnonneg =>
        have hcast : Int.ofNat year.natAbs = year := by
          rw [Int.ofNat_eq_natCast]
          omega
        have hsign : isBlank '+' = false := by decide
        simp only [takeYear?, List.cons_append, trimStart_cons hsign, hdigits, readDigits?_padded,
          Option.map_some, List.drop_left, hcast]

/-- A fraction of as many digits as were kept of it. -/
theorem takeFraction?_padded (hwidth : 0 < width) (hmost : width ≤ 9) (hn : n < 10 ^ width)
    (hcs : ∀ c ∈ cs.head?, c.isDigit = false) :
    takeFraction? ('.' :: padded width n ++ cs) = some (n * 10 ^ (9 - width), cs) := by
  have hlength := length_padded hwidth hn
  have hdigits : (padded width n ++ cs).takeWhile Char.isDigit = padded width n :=
    takeWhile_append_of_stop (fun c hc => isDigit_of_mem_padded hc) hcs
  have hkept : (padded width n).take 9 = padded width n := List.take_of_length_le (by omega)
  simp only [takeFraction?, List.cons_append, hdigits, hkept, readDigits?_padded, Option.map_some,
    List.drop_left' hlength, hlength, Nat.pow_eq]

/-- **Fractions.** A fraction of a second reads back in front of a letter. -/
theorem takeFraction?_fractionText (hn : n < nanosPerSecond)
    (hcs : ∀ c ∈ cs.head?, c.isDigit = false ∧ c ≠ '.') :
    takeFraction? (fractionText n ++ cs) = some (n, cs) := by
  have hstop : ∀ c ∈ cs.head?, c.isDigit = false := fun c hc => (hcs c hc).1
  rw [nanosPerSecond] at hn
  rw [fractionText]
  split
  · next hzero =>
      rw [beq_iff_eq.mp hzero, List.nil_append, takeFraction?]
      exact fun r h => (hcs '.' (by rw [h]; rfl)).2 rfl
  · split
    · next hmillis =>
        have hexact : n / 1000000 * 10 ^ (9 - 3) = n :=
          Nat.div_mul_cancel (Nat.dvd_of_mod_eq_zero (beq_iff_eq.mp hmillis))
        rw [takeFraction?_padded (by decide) (by decide) (by omega) hstop, hexact]
    · split
      · next hmicros =>
          have hexact : n / 1000 * 10 ^ (9 - 6) = n :=
            Nat.div_mul_cancel (Nat.dvd_of_mod_eq_zero (beq_iff_eq.mp hmicros))
          rw [takeFraction?_padded (by decide) (by decide) (by omega) hstop, hexact]
      · rw [takeFraction?_padded (by decide) (by decide) (by omega) hstop, Nat.sub_self,
          Nat.pow_zero, Nat.mul_one]

/-- The letter for universal time is an offset of nothing. -/
theorem takeOffset?_Z : takeOffset? ['Z'] = some (0, []) := by decide

/-! ### Whole timestamps -/

/-- The timestamp of a date and a time of the day. -/
def text (date : Date) (hour minute second nanos : Nat) : List Char :=
  yearText date.year ++ ('-' :: (padded 2 date.month ++ ('-' :: (padded 2 date.day ++ ('T' ::
    (padded 2 hour ++ (':' :: (padded 2 minute ++ (':' :: (padded 2 second ++
      (fractionText nanos ++ ['Z'])))))))))))

/-- The text of an instant is that of its date and its time of day. -/
theorem render_eq (t : Instant) :
    render t =
      let second := (t.nanos % nanosPerDay).toNat / nanosPerSecond
      text (Date.ofDays (t.nanos / nanosPerDay)) (second / 3600) (second / 60 % 60) (second % 60)
        ((t.nanos % nanosPerDay).toNat % nanosPerSecond) := by
  simp only [render, text, List.append_assoc, List.cons_append]

/-- The timestamp of a date and a time of the day reads as the instant that they stand for. -/
theorem read?_text {date : Date} {hour minute second nanos : Nat} {t : Instant}
    (hdate : date.isValid = true) (hhour : hour ≤ 23) (hminute : minute ≤ 59)
    (hsecond : second ≤ 60) (hnanos : nanos < nanosPerSecond)
    (ht : (date.toDays * 86400 + hour * 3600 + minute * 60 + second) * nanosPerSecond + nanos =
      t.nanos) :
    read? (text date hour minute second nanos) = some t := by
  obtain ⟨hmonth, hday⟩ := Date.le_of_isValid hdate
  have hpair {n : Nat} (hn : n < 100) (r : List Char) :
      takeNumber? 2 (padded 2 n ++ r) = some (n, r) := takeNumber?_padded (by decide) hn r
  have hdash (r : List Char) : takeMark? '-' ('-' :: r) = some r := takeMark?_cons (by decide) r
  have hcolon (r : List Char) : takeMark? ':' (':' :: r) = some r := takeMark?_cons (by decide) r
  -- One step for each part that is read, in front of what follows it.
  rw [read?, text]
  refine Option.bind_eq_some_iff.mpr ⟨_, takeYear?_yearText _ (by simp), ?_⟩
  refine Option.bind_eq_some_iff.mpr ⟨_, hdash _, ?_⟩
  refine Option.bind_eq_some_iff.mpr ⟨_, hpair (by omega) _, ?_⟩
  refine Option.bind_eq_some_iff.mpr ⟨_, hdash _, ?_⟩
  refine Option.bind_eq_some_iff.mpr ⟨_, hpair (by omega) _, ?_⟩
  refine Option.bind_eq_some_iff.mpr ⟨_, rfl, ?_⟩
  refine Option.bind_eq_some_iff.mpr ⟨_, hpair (by omega) _, ?_⟩
  refine Option.bind_eq_some_iff.mpr ⟨_, hcolon _, ?_⟩
  refine Option.bind_eq_some_iff.mpr ⟨_, hpair (by omega) _, ?_⟩
  refine Option.bind_eq_some_iff.mpr ⟨_, hcolon _, ?_⟩
  refine Option.bind_eq_some_iff.mpr ⟨_, hpair (by omega) _, ?_⟩
  refine Option.bind_eq_some_iff.mpr ⟨_, takeFraction?_fractionText hnanos (by simp), ?_⟩
  refine Option.bind_eq_some_iff.mpr ⟨_, takeOffset?_Z, ?_⟩
  have hchecks : (date.isValid && hour ≤ 23 && minute ≤ 59 && second ≤ 60) = true := by
    simp only [hdate, hhour, hminute, hsecond, decide_true, Bool.and_true]
  show (if (!(date.isValid && hour ≤ 23 && minute ≤ 59 && second ≤ 60)) = true then none
    else Instant.ofNanos? _) = some t
  rw [hchecks, Int.sub_zero, ht]
  exact t.ofNanos?_nanos

/-- **Timestamps.** The timestamp of an instant reads back. -/
theorem read?_render (t : Instant) : read? (render t) = some t := by
  obtain ⟨inDay, hinDay⟩ : ∃ inDay, inDay = (t.nanos % nanosPerDay).toNat := ⟨_, rfl⟩
  obtain ⟨second, hsecond⟩ : ∃ second, second = inDay / nanosPerSecond := ⟨_, rfl⟩
  have hdays := Date.toDays_ofDays (t.nanos / nanosPerDay)
  have hlt : second < 86400 := by
    simp only [nanosPerDay, nanosPerSecond] at hinDay hsecond
    omega
  simp only [render_eq, ← hinDay, ← hsecond]
  refine read?_text (Date.isValid_ofDays _) (by omega) (by omega) (by omega)
    (Nat.mod_lt _ (by decide)) ?_
  -- Hours, minutes and seconds make up the time of the day.
  have htime : second / 3600 * 3600 + second / 60 % 60 * 60 + second % 60 = second := by omega
  rw [hdays]
  simp only [nanosPerDay, nanosPerSecond] at *
  omega

end Timestamp

end Deferral

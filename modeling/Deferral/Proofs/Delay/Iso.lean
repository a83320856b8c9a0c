import Deferral.Proofs.Delay.Tokens
import Mathlib.Logic.Function.Basic

/-!
# Delays in the ISO 8601 form

An ISO 8601 delay gives a numeral for some of the units, in the order of the units and each with the
letter of its unit behind it. The same letter stands for months before the `T` and for minutes
behind it. A text is read as amounts exactly if it is the ISO text of a choice of numerals, at least
one, and the amounts are those of the choice.

## Main results

* `takeComponents_textOf` — the components written in the order of the letters read back;
* `exists_parts_of_takeComponents` — what is read as components was written as such;
* `isoComponents?_eq_some_iff` — the texts that are read as amounts.
-/

namespace Deferral

namespace Delay

/-! ### The form -/

/-- The numeral that is given for each unit, or none. -/
abbrev Parts : Type := TimeUnit → Option Numeral

variable {cs rest : List Char} {n : Numeral} {u : TimeUnit} {as : List Amount}
  {parts parts' : Parts} {mark : Char} {marks : List (Char × TimeUnit)}

/-- Every numeral that is given has ASCII digits only, at least one of them before the point. -/
def Parts.IsDecimal (parts : Parts) : Prop := ∀ u, ∀ n ∈ parts u, n.IsDecimal

/-- The text of one component: its numeral and its letter, or nothing. -/
def Parts.componentText (parts : Parts) (mark : Char) (unit : TimeUnit) : List Char :=
  match parts unit with
  | some n => n.text ++ [mark]
  | none => []

/-- The text of the components with the given letters. -/
def Parts.textOf (parts : Parts) (marks : List (Char × TimeUnit)) : List Char :=
  marks.flatMap fun row => parts.componentText row.1 row.2

/-- The amounts of the components with the given letters. -/
def Parts.amountsOf (parts : Parts) (marks : List (Char × TimeUnit)) : List Amount :=
  marks.filterMap fun row => (parts row.2).map fun n => ⟨n, row.2⟩

/-- The amounts of all components: the date before the time. -/
def Parts.amounts (parts : Parts) : List Amount := parts.amountsOf (dateMarks ++ timeMarks)

/-- The ISO 8601 text of all components, with a `T` before those of the time if there are any. -/
def Parts.isoText (parts : Parts) : List Char :=
  'P' :: (parts.textOf dateMarks ++
    if parts.textOf timeMarks = [] then [] else 'T' :: parts.textOf timeMarks)

/-- What holds of the numerals of a choice still does when that of one unit is replaced. -/
theorem Parts.forall_update {P : Numeral → Prop} {n? : Option Numeral}
    (h : ∀ u, ∀ n ∈ parts u, P n) (hn : ∀ n ∈ n?, P n) :
    ∀ v, ∀ n ∈ Function.update parts u n? v, P n := by
  intro v m hm
  by_cases hv : v = u
  · subst hv
    rw [Function.update_self] at hm
    exact hn m hm
  · rw [Function.update_of_ne hv] at hm
    exact h v m hm

/-- Without marks there is no text. -/
@[simp] theorem Parts.textOf_nil : parts.textOf [] = [] := rfl

/-- Without marks there are no amounts. -/
@[simp] theorem Parts.amountsOf_nil : parts.amountsOf [] = [] := rfl

/-- A unit that is given is written before its mark. -/
theorem Parts.textOf_cons_of_some (h : parts u = some n) :
    parts.textOf ((mark, u) :: marks) = n.text ++ mark :: parts.textOf marks := by
  simp [textOf, componentText, h]

/-- A unit that is not given is left out. -/
theorem Parts.textOf_cons_of_none (h : parts u = none) :
    parts.textOf ((mark, u) :: marks) = parts.textOf marks := by
  simp [textOf, componentText, h]

/-- A unit that is given comes first among the amounts. -/
theorem Parts.amountsOf_cons_of_some (h : parts u = some n) :
    parts.amountsOf ((mark, u) :: marks) = ⟨n, u⟩ :: parts.amountsOf marks := by
  simp [amountsOf, h]

/-- A unit that is not given is no amount. -/
theorem Parts.amountsOf_cons_of_none (h : parts u = none) :
    parts.amountsOf ((mark, u) :: marks) = parts.amountsOf marks := by
  simp [amountsOf, h]

/-- Text and amounts depend on the numerals of the units with a letter only. -/
theorem Parts.textOf_congr (h : ∀ row ∈ marks, parts row.2 = parts' row.2) :
    parts.textOf marks = parts'.textOf marks := by
  induction marks with
  | nil => rfl
  | cons row marks ih =>
      have hrest := ih fun r hr => h r (List.mem_cons_of_mem _ hr)
      have hrow := h row List.mem_cons_self
      rw [textOf, textOf, List.flatMap_cons, List.flatMap_cons, componentText, componentText, hrow]
      exact congrArg _ hrest

/-- The amounts depend on the units of the marks only. -/
theorem Parts.amountsOf_congr (h : ∀ row ∈ marks, parts row.2 = parts' row.2) :
    parts.amountsOf marks = parts'.amountsOf marks :=
  List.filterMap_congr fun row hrow => by rw [h row hrow]

/-- The numeral of a unit without a letter makes no difference to either. -/
theorem Parts.textOf_update (hu : ∀ row ∈ marks, row.2 ≠ u) (n? : Option Numeral) :
    Parts.textOf (Function.update parts u n?) marks = parts.textOf marks :=
  textOf_congr fun row hrow => Function.update_of_ne (hu row hrow) n? parts

/-- A change to another unit leaves the amounts alone. -/
theorem Parts.amountsOf_update (hu : ∀ row ∈ marks, row.2 ≠ u) (n? : Option Numeral) :
    Parts.amountsOf (Function.update parts u n?) marks = parts.amountsOf marks :=
  amountsOf_congr fun row hrow => Function.update_of_ne (hu row hrow) n? parts

/-- The amounts are those before the `T` and those behind it. -/
theorem Parts.amounts_eq_append :
    parts.amounts = parts.amountsOf dateMarks ++ parts.amountsOf timeMarks :=
  List.filterMap_append

/-- A text without components has no amounts, and only such a text. -/
theorem Parts.amountsOf_eq_nil_iff : parts.amountsOf marks = [] ↔ parts.textOf marks = [] := by
  induction marks with
  | nil => simp
  | cons row marks ih =>
      obtain ⟨mark, u⟩ := row
      cases hu : parts u with
      | none => rw [amountsOf_cons_of_none hu, textOf_cons_of_none hu, ih]
      | some n =>
          rw [amountsOf_cons_of_some hu, textOf_cons_of_some hu]
          exact iff_of_false (List.cons_ne_nil _ _)
            (List.append_ne_nil_of_right_ne_nil _ (List.cons_ne_nil _ _))

/-! ### Components one after another -/

/-- Letters that tell components apart: each is a letter, and no letter or unit is there twice. -/
structure IsLegend (marks : List (Char × TimeUnit)) : Prop where
  isAlpha : ∀ row ∈ marks, row.1.isAlpha = true
  nodup_marks : (marks.map (·.1)).Nodup
  nodup_units : (marks.map (·.2)).Nodup

/-- The marks before the `T` are different letters, each for a unit of its own. -/
theorem isLegend_dateMarks : IsLegend dateMarks := ⟨by decide, by decide, by decide⟩

/-- So are the marks behind it. -/
theorem isLegend_timeMarks : IsLegend timeMarks := ⟨by decide, by decide, by decide⟩

/-- Without the first of them, letters tell components apart as before. -/
theorem IsLegend.tail {row : Char × TimeUnit} (h : IsLegend (row :: marks)) : IsLegend marks :=
  ⟨fun r hr => h.isAlpha r (List.mem_cons_of_mem _ hr), (List.nodup_cons.mp h.nodup_marks).2,
    (List.nodup_cons.mp h.nodup_units).2⟩

/-- The unit of the first letter is not that of another. -/
theorem IsLegend.ne_of_mem (h : IsLegend ((mark, u) :: marks)) : ∀ row ∈ marks, row.2 ≠ u :=
  fun row hrow heq => (List.nodup_cons.mp h.nodup_units).1 (List.mem_map.mpr ⟨row, hrow, heq⟩)

/-- A numeral stops before a letter. -/
theorem stopsBefore_mark (n : Numeral) (h : mark.isAlpha = true) (rest : List Char) :
    n.StopsBefore (mark :: rest) := by
  have hletter : ∀ c ∈ [mark], isUnitLetter c = true := by simp [isUnitLetter, h]
  exact stopsBefore_pad n (List.forall_mem_nil _) (List.cons_ne_nil _ _) hletter rest

/-- **Components.** A component is taken off a text that begins with a number and its mark. -/
theorem takeComponent?_eq_some_iff (h : mark.isAlpha = true) :
    takeComponent? mark cs = some (n, rest) ↔ n.IsDecimal ∧ cs = n.text ++ mark :: rest := by
  constructor
  · intro hread
    unfold takeComponent? at hread
    split at hread
    · rename_i m c r hnumeral
      split at hread
      · rename_i hc
        obtain ⟨hm, -, hcs⟩ := takeNumeral?_eq_some_iff.mp hnumeral
        cases hread
        rw [beq_iff_eq.mp hc] at hcs
        exact ⟨hm, hcs⟩
      · cases hread
    · cases hread
  · rintro ⟨hn, rfl⟩
    rw [takeComponent?, takeNumeral?_text_append hn (stopsBefore_mark n h rest)]
    simp

/-- A component with another letter is left where it stands. -/
theorem takeComponent?_eq_none_of_ne {other : Char} (hn : n.IsDecimal) (h : other.isAlpha = true)
    (hne : other ≠ mark) : takeComponent? mark (n.text ++ other :: rest) = none := by
  rw [takeComponent?, takeNumeral?_text_append hn (stopsBefore_mark n h rest)]
  simp [hne]

/-- No component is taken off a text that does not begin with a digit. -/
theorem takeComponent?_eq_none (h : ∀ c ∈ cs.head?, c.isDigit = false) :
    takeComponent? mark cs = none := by
  rw [takeComponent?, takeNumeral?_eq_none h]

/-- The text of components is empty or begins with the first component that is there. -/
theorem Parts.textOf_eq_nil_or (parts : Parts) (marks : List (Char × TimeUnit)) :
    parts.textOf marks = [] ∨ ∃ row ∈ marks, ∃ n more, parts row.2 = some n ∧
      parts.textOf marks = n.text ++ row.1 :: more := by
  induction marks with
  | nil => exact .inl rfl
  | cons row marks ih =>
      obtain ⟨mark, u⟩ := row
      cases hu : parts u with
      | some n => exact .inr ⟨(mark, u), List.mem_cons_self, n, _, hu, textOf_cons_of_some hu⟩
      | none =>
          rw [textOf_cons_of_none hu]
          rcases ih with hnil | ⟨row, hrow, n, more, hn, htext⟩
          · exact .inl hnil
          · exact .inr ⟨row, List.mem_cons_of_mem _ hrow, n, more, hn, htext⟩

/-- Components written in the order of their letters read back, in front of what is no digit. -/
theorem takeComponents_textOf (hmarks : IsLegend marks) (hparts : parts.IsDecimal)
    (hstop : ∀ c ∈ rest.head?, c.isDigit = false) :
    takeComponents marks (parts.textOf marks ++ rest) = (parts.amountsOf marks, rest) := by
  induction marks with
  | nil => rfl
  | cons row marks ih =>
      obtain ⟨mark, u⟩ := row
      have hrest := ih hmarks.tail
      cases hu : parts u with
      | some n =>
          have hread : takeComponent? mark (n.text ++ mark :: (parts.textOf marks ++ rest)) =
              some (n, parts.textOf marks ++ rest) :=
            (takeComponent?_eq_some_iff (hmarks.isAlpha _ List.mem_cons_self)).mpr
              ⟨hparts u n hu, rfl⟩
          rw [Parts.textOf_cons_of_some hu, Parts.amountsOf_cons_of_some hu, List.append_assoc,
            List.cons_append, takeComponents, hread]
          simp only [hrest]
      | none =>
          -- What is there begins with a later letter's component, or is no component at all.
          have hread : takeComponent? mark (parts.textOf marks ++ rest) = none := by
            rcases parts.textOf_eq_nil_or marks with hnil | ⟨row, hrow, n, more, hn, htext⟩
            · rw [hnil]
              exact takeComponent?_eq_none hstop
            · have hne : row.1 ≠ mark := fun heq =>
                (List.nodup_cons.mp hmarks.nodup_marks).1 (List.mem_map.mpr ⟨row, hrow, heq⟩)
              rw [htext, List.append_assoc, List.cons_append]
              exact takeComponent?_eq_none_of_ne (hparts _ n hn)
                (hmarks.tail.isAlpha row hrow) hne
          rw [Parts.textOf_cons_of_none hu, Parts.amountsOf_cons_of_none hu, takeComponents, hread]
          exact hrest

/-- What is read as components was written as such, in the order of their letters. -/
theorem exists_parts_of_takeComponents (hmarks : IsLegend marks)
    (h : takeComponents marks cs = (as, rest)) :
    ∃ parts : Parts, parts.IsDecimal ∧ cs = parts.textOf marks ++ rest ∧
      as = parts.amountsOf marks := by
  induction marks generalizing cs as with
  | nil =>
      cases h
      exact ⟨fun _ => none, nofun, rfl, rfl⟩
  | cons row marks ih =>
      obtain ⟨mark, u⟩ := row
      have hfresh := hmarks.ne_of_mem
      rw [takeComponents] at h
      split at h
      · rename_i n r hread
        obtain ⟨hn, rfl⟩ :=
          (takeComponent?_eq_some_iff (hmarks.isAlpha _ List.mem_cons_self)).mp hread
        cases h
        obtain ⟨parts, hparts, hr, has⟩ := ih hmarks.tail rfl
        have hu : Function.update parts u (some n) u = some n := Function.update_self ..
        refine ⟨Function.update parts u (some n), Parts.forall_update hparts (by simpa using hn),
          ?_, ?_⟩
        · rw [Parts.textOf_cons_of_some hu, Parts.textOf_update hfresh, List.append_assoc,
            List.cons_append, ← hr]
        · rw [Parts.amountsOf_cons_of_some hu, Parts.amountsOf_update hfresh, ← has]
      · obtain ⟨parts, hparts, hr, has⟩ := ih hmarks.tail h
        have hu : Function.update parts u none u = none := Function.update_self ..
        refine ⟨Function.update parts u none, Parts.forall_update hparts nofun, ?_, ?_⟩
        · rw [Parts.textOf_cons_of_none hu, Parts.textOf_update hfresh, hr]
        · rw [Parts.amountsOf_cons_of_none hu, Parts.amountsOf_update hfresh, has]

/-! ### The whole text -/

/-- One choice for the date and another for the time, put together. -/
def Parts.join (date time : Parts) : Parts := fun u =>
  if u ∈ dateMarks.map (·.2) then date u else time u

/-- What holds of the numerals of both holds of those of the two together. -/
theorem Parts.forall_join {P : Numeral → Prop} {date time : Parts}
    (hdate : ∀ u, ∀ n ∈ date u, P n) (htime : ∀ u, ∀ n ∈ time u, P n) :
    ∀ u, ∀ n ∈ date.join time u, P n := by
  intro u n hn
  rw [Parts.join] at hn
  split at hn
  · exact hdate u n hn
  · exact htime u n hn

/-- The joined parts have the date of the first. -/
theorem Parts.join_of_mem_dateMarks {date time : Parts} :
    ∀ row ∈ dateMarks, date.join time row.2 = date row.2 := by
  intro row hrow
  rw [join, if_pos (List.mem_map_of_mem hrow)]

/-- The joined parts have the time of the second. -/
theorem Parts.join_of_mem_timeMarks {date time : Parts} :
    ∀ row ∈ timeMarks, date.join time row.2 = time row.2 := by
  intro row hrow
  have hother : ∀ row ∈ timeMarks, row.2 ∉ dateMarks.map (·.2) := by decide
  rw [join, if_neg (hother row hrow)]

/-- The ISO text of a date and a time that are put together. -/
theorem Parts.isoText_join (date time : Parts) :
    (date.join time).isoText = 'P' :: (date.textOf dateMarks ++
      if time.textOf timeMarks = [] then [] else 'T' :: time.textOf timeMarks) := by
  rw [isoText, textOf_congr join_of_mem_dateMarks, textOf_congr join_of_mem_timeMarks]

/-- The amounts of joined parts are those of the date and then those of the time. -/
theorem Parts.amounts_join (date time : Parts) :
    (date.join time).amounts = date.amountsOf dateMarks ++ time.amountsOf timeMarks := by
  rw [amounts_eq_append, amountsOf_congr join_of_mem_dateMarks,
    amountsOf_congr join_of_mem_timeMarks]

/-- What is read as amounts is the ISO text of a choice with these amounts. -/
theorem exists_parts_of_isoComponents? (h : isoComponents? cs = some as) :
    ∃ parts : Parts, parts.IsDecimal ∧ parts.amounts ≠ [] ∧ 'P' :: cs = parts.isoText ∧
      as = parts.amounts := by
  unfold isoComponents? at h
  split at h
  · rename_i date hdate
    obtain ⟨parts, hparts, hcs, rfl⟩ := exists_parts_of_takeComponents isLegend_dateMarks hdate
    split at h
    · cases h
    · rename_i hsome
      cases h
      have hamounts : (parts.join fun _ => none).amounts = parts.amountsOf dateMarks := by
        rw [Parts.amounts_join]
        exact List.append_nil _
      refine ⟨parts.join fun _ => none, Parts.forall_join hparts nofun, ?_, ?_, hamounts.symm⟩
      · rw [hamounts]
        simpa using hsome
      · rw [Parts.isoText_join, hcs]
        rfl
  · rename_i date r hdate
    obtain ⟨dates, hdates, hcs, rfl⟩ := exists_parts_of_takeComponents isLegend_dateMarks hdate
    split at h
    · rename_i time htime
      obtain ⟨times, htimes, hr, rfl⟩ := exists_parts_of_takeComponents isLegend_timeMarks htime
      rw [List.append_nil] at hr
      split at h
      · cases h
      · rename_i hsome
        cases h
        have hne : times.amountsOf timeMarks ≠ [] := by simpa using hsome
        refine ⟨dates.join times, Parts.forall_join hdates htimes, ?_, ?_,
          (Parts.amounts_join _ _).symm⟩
        · rw [Parts.amounts_join]
          exact List.append_ne_nil_of_right_ne_nil _ hne
        · rw [Parts.isoText_join, if_neg (Parts.amountsOf_eq_nil_iff.not.mp hne), hcs, hr]
    · cases h
  · cases h

/-- The ISO text of a choice is read as its amounts, if there are any. -/
theorem isoComponents?_of_isoText {parts : Parts} (hparts : parts.IsDecimal)
    (hne : parts.amounts ≠ []) (h : 'P' :: cs = parts.isoText) :
    isoComponents? cs = some parts.amounts := by
  obtain rfl := (List.cons.inj h).2
  rw [Parts.amounts_eq_append] at hne ⊢
  by_cases htime : parts.textOf timeMarks = []
  · have hnil : parts.amountsOf timeMarks = [] := Parts.amountsOf_eq_nil_iff.mpr htime
    rw [hnil, List.append_nil] at hne ⊢
    have hsome : (parts.amountsOf dateMarks).isEmpty = false := by simpa using hne
    rw [if_pos htime, isoComponents?,
      takeComponents_textOf isLegend_dateMarks hparts (by simp)]
    simp only [hsome, Bool.false_eq_true, if_false]
  · have hread : takeComponents timeMarks (parts.textOf timeMarks) =
        (parts.amountsOf timeMarks, []) := by
      have hend : ∀ c ∈ ([] : List Char).head?, c.isDigit = false := by simp
      simpa using takeComponents_textOf isLegend_timeMarks hparts hend
    have hsome : (parts.amountsOf timeMarks).isEmpty = false := by
      simpa using Parts.amountsOf_eq_nil_iff.not.mpr htime
    rw [if_neg htime, isoComponents?,
      takeComponents_textOf isLegend_dateMarks hparts (by simp)]
    simp only [hread, hsome, Bool.false_eq_true, if_false]

/-- **ISO delays.** The texts that are read are the ISO texts of a choice of numerals, at least one,
and they are read as its amounts. -/
theorem isoComponents?_eq_some_iff :
    isoComponents? cs = some as ↔
      ∃ parts : Parts, parts.IsDecimal ∧ parts.amounts ≠ [] ∧ 'P' :: cs = parts.isoText ∧
        as = parts.amounts := by
  constructor
  · exact exists_parts_of_isoComponents?
  · rintro ⟨parts, hparts, hne, hcs, rfl⟩
    exact isoComponents?_of_isoText hparts hne hcs

end Delay

end Deferral

import Deferral.Proofs.Json.Legible
import Deferral.Proofs.Json.Members
import Deferral.Json.Decode

/-!
# Values that read back

A value reads back from its text if it has no binary numbers, its integers fit 64 bits, its objects
have their members in order, and it is nested no deeper than the reader goes. The proof goes by the
form of the value, one lemma for each form, in front of any text that can follow a value. The fields
of a shape are then read from the object that was made for them.

## Main results

* `PlainWithin.takeValue?_render` — the round trip, in front of what can follow a value;
* `PlainWithin.parse?_render` — a text that is the text of such a value reads as it;
* `fields?_ofMembers` — the fields of an object that was made with one member for each;
* `PlainWithin.ofMembers` — when such an object reads back from its text.
-/

namespace Deferral

/-! ### Natural numbers and integers -/

namespace Decimal

variable {n : Nat} {r : List Char}

/-- The text of zero. -/
theorem natText_zero : natText 0 = ['0'] := by decide

/-- The text of a natural number is not empty. -/
theorem exists_cons_natText (n : Nat) : ∃ c cs, natText n = c :: cs :=
  List.exists_cons_of_ne_nil Nat.toDigits_ne_nil

/-- An integer begins with a digit or a minus sign. -/
theorem exists_cons_intText (n : Int) : ∃ c cs, intText n = c :: cs ∧ isIntChar c = true := by
  obtain ⟨c, cs, htext⟩ := List.exists_cons_of_ne_nil (intText_ne_nil (n := n))
  exact ⟨c, cs, htext, isIntChar_of_mem_intText (htext ▸ List.mem_cons_self)⟩

/-- Only the text of zero begins with a zero. -/
theorem eq_zero_of_natText_eq_cons (h : natText n = '0' :: r) : n = 0 := by
  induction n using Nat.strongRecOn generalizing r with
  | ind n ih =>
      rw [natText, Nat.toDigits_eq_if (by decide)] at h
      split at h
      · rename_i hlt
        have hall : ∀ k : Fin 10, Nat.digitChar k = '0' → k.val = 0 := by decide
        exact hall ⟨n, hlt⟩ (List.cons.inj h).1
      · rename_i hge
        have hfewer : n / 10 < n := by omega
        obtain ⟨c, cs, hq⟩ := exists_cons_natText (n / 10)
        rw [← natText, hq, List.cons_append] at h
        rw [(List.cons.inj h).1] at hq
        have hzero := ih (n / 10) hfewer hq
        omega

/-- The digits of a natural number stand for it. -/
theorem digitsValue_natText (n : Nat) : Text.digitsValue 0 (natText n) = n := by
  have hread : Nat.ofDigitChars 10 (natText n) 0 = n := Nat.ofDigitChars_ten_toDigits
  simpa only [Nat.ofDigitChars, Text.digitsValue, Nat.mul_comm] using hread

/-- Digits read as the number that they stand for. -/
theorem readDigits?_of_isDigit {cs : List Char} (hne : cs ≠ [])
    (hcs : ∀ c ∈ cs, c.isDigit = true) : Text.readDigits? cs = some (Text.digitsValue 0 cs) := by
  rw [Text.readDigits?, List.all_eq_true.mpr hcs]
  simp [hne]

/-- A natural number reads back. -/
theorem readDigits?_natText (n : Nat) : Text.readDigits? (natText n) = some n := by
  have hne : natText n ≠ [] := Nat.toDigits_ne_nil
  rw [readDigits?_of_isDigit hne fun _ => isDigit_of_mem_natText, digitsValue_natText]

end Decimal

namespace Json

open Decimal

variable {u : List Char} {j : Json}

/-! ### Numbers -/

/-- What can follow a value is no digit. -/
theorem isDigit_eq_false_of_follows {c : Char} (hu : Follows u) (hc : c ∈ u.head?) :
    c.isDigit = false := by
  rcases hu c hc with rfl | rfl | rfl <;> decide

/-- The digits of a number end where the number ends. -/
theorem takeWhile_natText (n : Nat) (hu : Follows u) :
    (natText n ++ u).takeWhile Char.isDigit = natText n ∧
      (natText n ++ u).dropWhile Char.isDigit = u := by
  have hdigits : ∀ c ∈ natText n, c.isDigit = true := fun c hc => isDigit_of_mem_natText hc
  rw [List.takeWhile_append_of_pos hdigits, List.dropWhile_append_of_pos hdigits]
  cases u with
  | nil => exact ⟨List.append_nil _, rfl⟩
  | cons c u =>
      have hc : c.isDigit = false := isDigit_eq_false_of_follows hu rfl
      rw [List.takeWhile_cons_of_neg (by simp [hc]), List.dropWhile_cons_of_neg (by simp [hc])]
      exact ⟨List.append_nil _, rfl⟩

/-- A natural number is taken off what can follow it. -/
theorem takeWhole?_natText (n : Nat) (hu : Follows u) :
    takeWhole? (natText n ++ u) = some (natText n, u) := by
  unfold takeWhole?
  split
  · rename_i c r h
    -- A zero in front is all there is of the number.
    have hzero : n = 0 := by
      obtain ⟨d, ds, htext⟩ := exists_cons_natText n
      rw [htext, List.cons_append] at h
      rw [(List.cons.inj h).1] at htext
      exact eq_zero_of_natText_eq_cons htext
    subst hzero
    rw [natText_zero, List.singleton_append] at h
    obtain rfl : u = c :: r := (List.cons.inj h).2
    rw [isDigit_eq_false_of_follows hu rfl, natText_zero]
    rfl
  · obtain ⟨htake, hdrop⟩ := takeWhile_natText n hu
    have hsome : (natText n).isEmpty = false := by
      rw [List.isEmpty_eq_false_iff]
      exact Nat.toDigits_ne_nil
    simp only [htake, hdrop, hsome, Bool.false_eq_true, if_false]

/-- What can follow a value is no fraction. -/
theorem takeFraction?_of_follows (hu : Follows u) : takeFraction? u = some (none, u) := by
  cases u with
  | nil => rfl
  | cons c u => rcases hu c rfl with rfl | rfl | rfl <;> rfl

/-- Nor is it an exponent. -/
theorem takeExponent?_of_follows (hu : Follows u) : takeExponent? u = some (none, u) := by
  cases u with
  | nil => rfl
  | cons c u => rcases hu c rfl with rfl | rfl | rfl <;> rfl

/-- Whether an integer fits 64 bits, with or without a sign. -/
def Fits (n : Int) : Prop := -(Text.maxSigned64 + 1 : Int) ≤ n ∧ n ≤ Text.maxUnsigned64

/-- **Numbers.** An integer that fits reads back. -/
theorem takeNumber?_intText {n : Int} (hn : Fits n) (hu : Follows u) :
    takeNumber? (intText n ++ u) = some (int n, u) := by
  obtain ⟨hlow, hhigh⟩ := hn
  have hwhole := takeWhole?_natText n.natAbs hu
  by_cases hneg : n < 0
  · have hint : integer? true (natText n.natAbs) = some n := by
      have hpos : (n.natAbs == 0) = false := beq_eq_false_iff_ne.mpr (by omega)
      have hmax : ¬ Text.maxSigned64 + 1 < n.natAbs := by omega
      have habs : -(n.natAbs : Int) = n := by omega
      simp only [integer?, digitsValue_natText, hpos, hmax, habs, if_true, decide_false,
        Bool.or_false, Bool.false_eq_true, if_false]
    rw [intText, if_pos hneg, List.cons_append, takeNumber?]
    simp [hwhole, takeFraction?_of_follows hu, takeExponent?_of_follows hu, hint]
  · have hint : integer? false (natText n.natAbs) = some n := by
      have hmax : n.natAbs ≤ Text.maxUnsigned64 := by omega
      have habs : (n.natAbs : Int) = n := by omega
      simp only [integer?, digitsValue_natText, hmax, habs, Bool.false_eq_true, if_false, if_true]
    have hsign : ∀ r, natText n.natAbs ++ u ≠ '-' :: r := by
      intro r h
      obtain ⟨d, ds, htext⟩ := exists_cons_natText n.natAbs
      rw [htext, List.cons_append] at h
      rw [(List.cons.inj h).1] at htext
      exact natText_ne_minus htext
    rw [intText, if_neg hneg, takeNumber?]
    · simp [hwhole, takeFraction?_of_follows hu, takeExponent?_of_follows hu, hint]
    · exact hsign

/-! ### Values -/

/-- A value without binary numbers, of integers that fit, with members in the order of their keys,
and nested at most so deep. -/
inductive PlainWithin : Nat → Json → Prop where
  | null (depth : Nat) : PlainWithin depth null
  | bool (depth : Nat) (b : Bool) : PlainWithin depth (bool b)
  | int (depth : Nat) {n : Int} (hn : Fits n) : PlainWithin depth (int n)
  | str (depth : Nat) (s : String) : PlainWithin depth (str s)
  | arr {depth : Nat} {items : List Json} (h : ∀ j ∈ items, PlainWithin depth j) :
      PlainWithin (depth + 1) (arr items)
  | obj {depth : Nat} {members : List (String × Json)} (hsorted : KeysSorted members)
      (h : ∀ m ∈ members, PlainWithin depth m.2) : PlainWithin (depth + 1) (obj members)

/-- What a reader finds where a text begins with a thing and goes on with what can follow it. -/
def Reads {α : Type} (read : Reader α) (write : α → List Char) (a : α) : Prop :=
  ∀ u, Follows u → read (write a ++ u) = some (a, u)

/-- Nothing is passed over in front of a character that is no blank. -/
theorem skipBlanks_cons {c : Char} (hc : isBlank c = false) (u : List Char) :
    skipBlanks (c :: u) = c :: u := by
  rw [skipBlanks, List.dropWhile_cons_of_neg (by simp [hc])]

/-- No character of an integer is a blank. -/
theorem isBlank_eq_false_of_isIntChar {c : Char} (hc : isIntChar c = true) :
    isBlank c = false := by
  rw [isBlank]
  by_contra hblank
  simp only [Bool.not_eq_false, Bool.or_eq_true, beq_iff_eq] at hblank
  rcases hblank with ((rfl | rfl) | rfl) | rfl <;> exact absurd hc (by decide)

/-- A value that reads back has no binary numbers. -/
theorem PlainWithin.floatFree {depth : Nat} (h : PlainWithin depth j) : FloatFree j := by
  induction h with
  | null => exact .null
  | bool _ b => exact .bool b
  | int _ hn => exact .int _
  | str _ s => exact .str s
  | arr _ ih => exact .arr ih
  | obj _ _ ih => exact .obj ih

/-- The text of a value begins with no blank. -/
theorem PlainWithin.skipBlanks_render {depth : Nat} (h : PlainWithin depth j) (u : List Char) :
    skipBlanks (render j ++ u) = render j ++ u := by
  cases h with
  | null => rfl
  | bool _ b => cases b <;> rfl
  | @int _ n hn =>
      obtain ⟨c, cs, htext, hc⟩ := exists_cons_intText n
      rw [render, htext, List.cons_append]
      exact skipBlanks_cons (isBlank_eq_false_of_isIntChar hc) _
  | str _ s => rw [render, renderString]; rfl
  | arr h => rw [render_arr]; rfl
  | obj hsorted h => rw [render_obj]; rfl

/-! ### Items and members -/

section Elements

variable {item : Reader Json} {fuel : Nat}

/-- The further items of a list stand behind commas. -/
theorem moreText_cons {α : Type} (write : α → List Char) (a : α) (as : List α) (u : List Char) :
    moreText write (a :: as) ++ u = ',' :: (write a ++ (moreText write as ++ u)) := by
  rw [moreText, List.flatMap_cons, List.cons_append, List.cons_append, List.append_assoc]
  rfl

/-- **Items.** Items with commas between them read back. -/
theorem takeItems?_listText {items : List Json} (hj : Reads item render j)
    (hitems : ∀ k ∈ items, Reads item render k) (hfuel : items.length < fuel) :
    takeItems? item fuel (render j ++ (moreText render items ++ ']' :: u)) =
      some (j :: items, u) := by
  induction items generalizing j fuel with
  | nil =>
      obtain ⟨fuel, rfl⟩ := Nat.exists_eq_succ_of_ne_zero (Nat.ne_of_gt hfuel)
      rw [takeItems?, hj _ (follows_moreText (.inl rfl) [] u)]
      rfl
  | cons k items ih =>
      obtain ⟨fuel, rfl⟩ := Nat.exists_eq_succ_of_ne_zero (Nat.ne_of_gt (Nat.zero_lt_of_lt hfuel))
      have hrest := ih (hitems k List.mem_cons_self)
        (fun x hx => hitems x (List.mem_cons_of_mem _ hx)) (Nat.lt_of_succ_lt_succ hfuel)
      rw [takeItems?, hj _ (follows_moreText (.inl rfl) (k :: items) u), moreText_cons]
      simp [skipBlanks_cons, isBlank, hrest]

/-- A member is a key between quotes, a colon and a value. -/
theorem renderMember_append (m : String × Json) (u : List Char) :
    renderMember m ++ u =
      '"' :: ((renderString m.1.toList).tail ++ ':' :: (render m.2 ++ u)) := by
  rw [renderMember, List.append_assoc, List.cons_append]
  rfl

/-- The last member is followed by the closing brace. -/
theorem takeMembers?_last {m : String × Json} (hm : Reads item render m.2) (u : List Char) :
    takeMembers? item (fuel + 1) (renderMember m ++ '}' :: u) = some ([m], u) := by
  have hkey := takeString?_renderString m.1.toList (':' :: (render m.2 ++ '}' :: u))
  have hvalue := hm ('}' :: u) (.cons (.inr (.inr rfl)) u)
  rw [renderMember_append, takeMembers?]
  simp [skipBlanks_cons, isBlank, hkey, hvalue]

/-- Any other member is followed by a comma. -/
theorem takeMembers?_more {m : String × Json} (hm : Reads item render m.2) (u : List Char) :
    takeMembers? item (fuel + 1) (renderMember m ++ ',' :: u) =
      (takeMembers? item fuel u).bind fun (ms, r) => some (m :: ms, r) := by
  have hkey := takeString?_renderString m.1.toList (':' :: (render m.2 ++ ',' :: u))
  have hvalue := hm (',' :: u) (.cons (.inl rfl) u)
  rw [renderMember_append, takeMembers?]
  simp [skipBlanks_cons, isBlank, hkey, hvalue]

/-- **Members.** Members with commas between them read back. -/
theorem takeMembers?_listText {m : String × Json} {members : List (String × Json)}
    (hm : Reads item render m.2) (hmembers : ∀ k ∈ members, Reads item render k.2)
    (hfuel : members.length < fuel) :
    takeMembers? item fuel (renderMember m ++ (moreText renderMember members ++ '}' :: u)) =
      some (m :: members, u) := by
  induction members generalizing m fuel with
  | nil =>
      obtain ⟨fuel, rfl⟩ := Nat.exists_eq_succ_of_ne_zero (Nat.ne_of_gt hfuel)
      exact takeMembers?_last hm u
  | cons k members ih =>
      obtain ⟨fuel, rfl⟩ := Nat.exists_eq_succ_of_ne_zero (Nat.ne_of_gt (Nat.zero_lt_of_lt hfuel))
      have hrest := ih (hmembers k List.mem_cons_self)
        (fun x hx => hmembers x (List.mem_cons_of_mem _ hx)) (Nat.lt_of_succ_lt_succ hfuel)
      rw [moreText_cons, takeMembers?_more hm, hrest]
      rfl

end Elements

/-! ### Each form of values -/

variable {depth : Nat}

/-- A text that begins like an integer is read as a number. -/
theorem takeValue?_of_isIntChar {c : Char} (hc : isIntChar c = true) (u : List Char) :
    takeValue? depth (c :: u) = takeNumber? (c :: u) := by
  have hother : ∀ d : Char, isIntChar d = false → c ≠ d := by
    rintro d hd rfl
    exact absurd (hc.symm.trans hd) nofun
  unfold takeValue?
  rw [skipBlanks_cons (isBlank_eq_false_of_isIntChar hc)]
  split
  case h_7 => rfl
  all_goals
    rename_i h
    exact absurd (List.cons.inj h).1 (hother _ (by decide))

/-- An integer of 64 bits reads back. -/
theorem reads_int {n : Int} (hn : Fits n) : Reads (takeValue? depth) render (int n) := by
  intro u hu
  have hnumber := takeNumber?_intText hn hu
  obtain ⟨c, cs, htext, hc⟩ := exists_cons_intText n
  rw [htext, List.cons_append] at hnumber
  rw [render, htext, List.cons_append, takeValue?_of_isIntChar hc, hnumber]

/-- A string reads back in front of what can follow it. -/
theorem reads_str (s : String) : Reads (takeValue? depth) render (str s) := by
  intro u _
  have hread := takeString?_renderString s.toList u
  have hcons : render (str s) ++ u = '"' :: ((renderString s.toList).tail ++ u) := by
    rw [render, renderString]
    rfl
  rw [hcons, takeValue?]
  simp [skipBlanks_cons, isBlank, hread, text]

/-- Behind an opening bracket come items, or the closing bracket at once. -/
theorem takeValue?_openBracket (u : List Char) :
    takeValue? (depth + 1) ('[' :: u) =
      match skipBlanks u with
      | ']' :: r => some (arr [], r)
      | r => (takeItems? (takeValue? depth) r.length r).map fun (js, r) => (arr js, r) := rfl

/-- Behind an opening brace come members, or the closing brace at once. -/
theorem takeValue?_openBrace (u : List Char) :
    takeValue? (depth + 1) ('{' :: u) =
      match skipBlanks u with
      | '}' :: r => some (obj [], r)
      | r => (takeMembers? (takeValue? depth) r.length r).map fun (ms, r) => (ofMembers ms, r) :=
  rfl

/-- There are no more items than characters, so that the fuel of the reader lasts. -/
theorem length_le_moreText {α : Type} (write : α → List Char) (as : List α) :
    as.length ≤ (moreText write as).length := by
  induction as with
  | nil => exact Nat.le_refl 0
  | cons a as ih =>
      rw [moreText, List.flatMap_cons, List.length_append, List.length_cons, List.length_cons]
      rw [moreText] at ih
      omega

/-- An array reads back if its items do with one level less. -/
theorem reads_arr {items : List Json} (hitems : ∀ j ∈ items, PlainWithin depth j)
    (ih : ∀ j ∈ items, Reads (takeValue? depth) render j) :
    Reads (takeValue? (depth + 1)) render (arr items) := by
  intro u _
  rw [render_arr, List.cons_append, List.append_assoc, List.singleton_append]
  cases items with
  | nil => rfl
  | cons j items =>
      have hj := hitems j List.mem_cons_self
      have htext : listText render (j :: items) ++ ']' :: u =
          render j ++ (moreText render items ++ ']' :: u) := List.append_assoc _ _ _
      have hopen : ∀ r, render j ++ (moreText render items ++ ']' :: u) ≠ ']' :: r :=
        hj.floatFree.render_append_ne (.inl rfl) _
      have hfuel : items.length < (render j ++ (moreText render items ++ ']' :: u)).length := by
        have hlong := length_le_moreText render items
        simp only [List.length_append, List.length_cons]
        omega
      have hread := takeItems?_listText (ih j List.mem_cons_self)
        (fun k hk => ih k (List.mem_cons_of_mem _ hk)) hfuel (u := u)
      have hblanks := hj.skipBlanks_render (moreText render items ++ ']' :: u)
      rw [takeValue?_openBracket, htext, hblanks]
      split
      · rename_i r h
        exact absurd h (hopen r)
      · rw [hread]
        rfl

/-- An object with its members in order reads back if their values do with one level less. -/
theorem reads_obj {members : List (String × Json)} (hsorted : KeysSorted members)
    (ih : ∀ m ∈ members, Reads (takeValue? depth) render m.2) :
    Reads (takeValue? (depth + 1)) render (obj members) := by
  intro u _
  rw [render_obj, List.cons_append, List.append_assoc, List.singleton_append]
  cases members with
  | nil => rfl
  | cons m members =>
      have htext : listText renderMember (m :: members) ++ '}' :: u =
          renderMember m ++ (moreText renderMember members ++ '}' :: u) := List.append_assoc _ _ _
      have hfuel : members.length <
          (renderMember m ++ (moreText renderMember members ++ '}' :: u)).length := by
        have hlong := length_le_moreText renderMember members
        simp only [List.length_append, List.length_cons]
        omega
      have hread := takeMembers?_listText (ih m List.mem_cons_self)
        (fun k hk => ih k (List.mem_cons_of_mem _ hk)) hfuel (u := u)
      have hmade : ofMembers (m :: members) = obj (m :: members) := by
        have hall : KeysSorted ([] ++ m :: members) := hsorted
        rw [ofMembers_eq, insertMembers_of_keysSorted hall, List.nil_append]
      have hblanks : skipBlanks (renderMember m ++ (moreText renderMember members ++ '}' :: u)) =
          renderMember m ++ (moreText renderMember members ++ '}' :: u) := by
        rw [renderMember_append]
        exact skipBlanks_cons (by decide) _
      rw [takeValue?_openBrace, htext, hblanks]
      split
      · rename_i r h
        exact absurd h (renderMember_append_ne m _ r)
      · rw [hread, ← hmade]
        rfl

/-- **Values.** A value reads back in front of what can follow it. -/
theorem PlainWithin.takeValue?_render (h : PlainWithin depth j) :
    Reads (takeValue? depth) render j := by
  induction h with
  | null depth => intro u _; cases depth <;> rfl
  | bool depth b => intro u _; cases b <;> cases depth <;> rfl
  | int _ hn => exact reads_int hn
  | str _ s => exact reads_str s
  | arr h ih => exact reads_arr h ih
  | obj hsorted _ ih => exact reads_obj hsorted ih

/-- **Texts.** The text of a value that the reader goes deep enough for reads as the value. -/
theorem PlainWithin.parse?_render (h : PlainWithin maxDepth j) : parse? (render j) = some j := by
  have hread := h.takeValue?_render [] follows_nil
  rw [List.append_nil] at hread
  rw [parse?, hread]
  rfl

end Json

end Deferral

namespace Deferral.Json

/-! ### Fields that read back

An object that was made with one member for each field of a shape has the values of the fields in
the order of the shape. Values that may be absent, and lists of values, read back if the values
do. -/

variable {α : Type} {write : α → Json} {read : Json → Option α} {ms : List (String × Json)}
  {shape : List Field} {depth : Nat}

/-- Members of different keys are all found. -/
theorem map_member?_keys (hms : (ms.map (·.1)).Nodup) :
    (ms.map (·.1)).map (fun key => member? key ms) = ms.map fun m => some m.2 := by
  rw [List.map_map]
  exact List.map_congr_left fun m hm => (member?_eq_some_iff hms).mpr hm

/-- **Fields.** An object that was made with one member for each field, in their order, has the
values of the members for fields. -/
theorem fields?_ofMembers (hshape : shape.map (·.name) = ms.map (·.1))
    (hms : (ms.map (·.1)).Nodup) :
    fields? shape (ofMembers ms) = some (ms.map fun m => some m.2) := by
  have hfound (f : Field) : member? f.name (insertMembers [] ms) = member? f.name ms := by
    rw [member?_insertMembers hms]
    exact Option.or_none
  rw [ofMembers_eq, fields?, ← map_member?_keys hms, ← hshape, List.map_map]
  exact congrArg some (List.map_congr_left fun f _ => hfound f)

/-- A string reads back. -/
theorem asString?_str (s : String) : asString? (str s) = some s := rfl

/-- A flag reads back. -/
theorem asBool?_bool (b : Bool) : asBool? (bool b) = some b := rfl

/-- A natural number up to the limit reads back. -/
theorem asNat?_nat {limit n : Nat} (hn : n ≤ limit) : asNat? limit (nat n) = some n := by
  rw [nat, asNat?, if_pos (by omega), Int.toNat_natCast]

/-- A value that may be absent reads back if the value itself does, and is not written as null. -/
theorem optional_ofOption (hread : ∀ a, read (write a) = some a) (hnull : ∀ a, write a ≠ null)
    (o : Option α) : optional read (some (ofOption write o)) = some o := by
  cases o with
  | none => rfl
  | some a =>
      rw [ofOption, optional, hread, Option.map_some]
      exact hnull a

/-- A list of values reads back if the values do. -/
theorem asList?_map (hread : ∀ a, read (write a) = some a) (as : List α) :
    asList? read (arr (as.map write)) = some as := by
  induction as with
  | nil => rfl
  | cons a as ih =>
      rw [asList?] at ih
      rw [List.map_cons, asList?, List.mapM_cons, hread, ih]
      rfl

/-- An object that was made of members reads back from its text if the values of the members do. -/
theorem PlainWithin.ofMembers (h : ∀ m ∈ ms, PlainWithin depth m.2) :
    PlainWithin (depth + 1) (ofMembers ms) := by
  rw [ofMembers_eq]
  refine .obj (KeysSorted.insertMembers List.Pairwise.nil ms) fun m hm => ?_
  rcases mem_or_mem_of_mem_insertMembers hm with hm | hm
  · exact h m hm
  · exact absurd hm List.not_mem_nil

/-- A value that may be absent reads back from its text if the value itself does. -/
theorem PlainWithin.ofOption (h : ∀ a, PlainWithin depth (write a)) (o : Option α) :
    PlainWithin depth (ofOption write o) := by
  cases o with
  | none => exact .null depth
  | some a => exact h a

end Deferral.Json

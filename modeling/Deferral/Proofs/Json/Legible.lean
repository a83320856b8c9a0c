import Deferral.Json.Parser
import Deferral.Json.Value
import Deferral.Proofs.Text.Basic
import Mathlib.Data.List.TakeWhile

/-!
# Values and their texts

The text of a value without binary numbers tells where it ends and what the value is, if what
follows it is what can follow a value in a text: nothing, a comma or a closing bracket. The proof
goes by the first character of the text, and is one lemma for each form of values. Strings come
first: a written string reads back whatever follows it, so that its text tells where it ends and
which characters it holds.

## Main results

* `takeString?_renderString` — the round trip, in front of any text;
* `renderString_append_inj` — texts that begin with strings are equal only if the strings are;
* `FloatFree.legible` — texts that begin with such values are equal only if the values are;
* `FloatFree.render_inj` — such values have different texts if they differ.
-/

namespace Deferral.Json

variable {c : Char} {cs ds rest u v : List Char} {fuel : Nat}

/-! ### Escapes -/

/-- The digits of a number of 16 bits read back. -/
theorem takeUnit?_hexDigits {n : Nat} (hn : n < 0x10000) (rest : List Char) :
    takeUnit? (Text.hexDigits 4 n ++ rest) = some (n, rest) := by
  have hread : Text.readHex? 0 (Text.hexDigits 4 n) = some n := Text.readHex?_hexDigits_of_lt hn
  simp only [Text.hexDigits, List.cons_append, List.nil_append] at hread ⊢
  simp only [takeUnit?, hread, Option.map_some]

/-- A control character is read from its four hexadecimal digits. -/
theorem takeEscape?_hexDigits (hc : c.toNat < 0x20) (rest : List Char) :
    takeEscape? ('u' :: Text.hexDigits 4 c.toNat ++ rest) = some (c, rest) := by
  -- A control character is no half of a pair, so the reader does not look for another.
  have hlow : ¬ 0xDC00 ≤ c.toNat := by omega
  have hhigh : ¬ 0xD800 ≤ c.toNat := by omega
  have hunit := takeUnit?_hexDigits (show c.toNat < 0x10000 by omega) rest
  simp [takeEscape?, takeCodePoint?, hunit, hlow, hhigh, Char.ofNat_toNat]

/-- A character is written as it is, or as an escape that stands for it. -/
theorem escapeChar_cases (c : Char) :
    (escapeChar c = [c] ∧ c ≠ '"' ∧ c ≠ '\\' ∧ ¬ c.toNat < 0x20) ∨
      ∃ r, escapeChar c = '\\' :: r ∧ ∀ rest, takeEscape? (r ++ rest) = some (c, rest) := by
  unfold escapeChar
  split
  -- All other cases are escapes of one letter.
  case h_8 hquote hslash _ _ _ _ _ =>
      split
      · rename_i hc
        exact .inr ⟨_, rfl, takeEscape?_hexDigits hc⟩
      · rename_i hc
        exact .inl ⟨rfl, hquote, hslash, hc⟩
  all_goals exact .inr ⟨_, rfl, fun rest => rfl⟩

/-! ### Characters one after another -/

/-- A character of a string reads back. -/
theorem takeChars?_escapeChar_append (c : Char) (fuel : Nat) (rest : List Char) :
    takeChars? (fuel + 1) (escapeChar c ++ rest) =
      (takeChars? fuel rest).bind fun (cs, r) => some (c :: cs, r) := by
  rcases escapeChar_cases c with ⟨hplain, hquote, hslash, hc⟩ | ⟨r, hescape, htake⟩
  · simp [hplain, takeChars?, hquote, hslash, hc]
  · simp [hescape, takeChars?, htake]

/-- The characters of a string read back, if the fuel suffices for them and the closing quote. -/
theorem takeChars?_flatMap_escapeChar (hfuel : cs.length < fuel) :
    takeChars? fuel (cs.flatMap escapeChar ++ '"' :: rest) = some (cs, rest) := by
  induction cs generalizing fuel with
  | nil =>
      obtain ⟨n, rfl⟩ := Nat.exists_eq_succ_of_ne_zero (Nat.ne_of_gt hfuel)
      simp [takeChars?]
  | cons c cs ih =>
      obtain ⟨n, rfl⟩ := Nat.exists_eq_succ_of_ne_zero (Nat.ne_of_gt (Nat.zero_lt_of_lt hfuel))
      have hleft : cs.length < n := Nat.lt_of_succ_lt_succ hfuel
      rw [List.flatMap_cons, List.append_assoc, takeChars?_escapeChar_append, ih hleft]
      rfl

/-- No character is lost when a text is escaped. -/
theorem length_le_flatMap_escapeChar (cs : List Char) :
    cs.length ≤ (cs.flatMap escapeChar).length := by
  induction cs with
  | nil => exact Nat.le_refl 0
  | cons c cs ih =>
      have hone : 0 < (escapeChar c).length := by
        rcases escapeChar_cases c with ⟨hplain, -⟩ | ⟨r, hescape, -⟩
        · simp [hplain]
        · simp [hescape]
      rw [List.flatMap_cons, List.length_append, List.length_cons]
      omega

/-- **Strings.** A written string, after its opening quote, reads back in front of any text. -/
theorem takeString?_renderString (cs rest : List Char) :
    takeString? ((renderString cs).tail ++ rest) = some (cs, rest) := by
  have hlong := length_le_flatMap_escapeChar cs
  rw [renderString, List.tail_cons, List.append_assoc, List.singleton_append, takeString?]
  refine takeChars?_flatMap_escapeChar ?_
  rw [List.length_append, List.length_cons]
  omega

/-- The text of a string tells where it ends and what it holds. -/
theorem renderString_append_inj (h : renderString cs ++ u = renderString ds ++ v) :
    cs = ds ∧ u = v := by
  have htail : (renderString cs).tail ++ u = (renderString ds).tail ++ v := by
    simpa [renderString] using h
  have hread := takeString?_renderString cs u
  rw [htail, takeString?_renderString ds v] at hread
  simpa [eq_comm] using hread

end Deferral.Json

namespace Deferral

/-! ### Integers -/

namespace Decimal

/-- A character of the text of an integer. -/
def isIntChar (c : Char) : Bool := c == '-' || c.isDigit

variable {m n : Int} {u v : List Char}

/-- A natural number is written in digits. -/
theorem isDigit_of_mem_natText {n : Nat} {c : Char} (hc : c ∈ natText n) : c.isDigit = true :=
  Nat.isDigit_of_mem_toDigits (by decide) (by decide) hc

/-- Different natural numbers have different texts. -/
theorem natText_inj {m n : Nat} (h : natText m = natText n) : m = n := by
  have hread := congrArg (Nat.ofDigitChars 10 · 0) h
  simpa [natText, Nat.ofDigitChars_ten_toDigits] using hread

/-- An integer is written in digits and a minus sign. -/
theorem isIntChar_of_mem_intText {c : Char} (hc : c ∈ intText n) : isIntChar c = true := by
  unfold intText at hc
  split at hc
  · rcases List.mem_cons.mp hc with rfl | hc
    · rfl
    · simp [isIntChar, isDigit_of_mem_natText hc]
  · simp [isIntChar, isDigit_of_mem_natText hc]

/-- A natural number does not begin with a minus sign. -/
theorem natText_ne_minus {k : Nat} {r : List Char} : natText k ≠ '-' :: r := fun h =>
  absurd (isDigit_of_mem_natText (h ▸ List.mem_cons_self)) (by decide)

/-- Different integers have different texts. -/
theorem intText_inj (h : intText m = intText n) : m = n := by
  unfold intText at h
  split at h <;> split at h
  · have habs := natText_inj (List.cons.inj h).2
    omega
  · exact absurd h.symm natText_ne_minus
  · exact absurd h natText_ne_minus
  · have habs := natText_inj h
    omega

/-- The text of an integer is not empty. -/
theorem intText_ne_nil : intText n ≠ [] := by
  unfold intText
  split
  · exact List.cons_ne_nil _ _
  · exact Nat.toDigits_ne_nil

end Decimal

namespace Json

open Decimal

/-! ### What follows a value -/

/-- A text that can follow a value: nothing, or one that begins with a comma or a closing
bracket. -/
def Follows (u : List Char) : Prop := ∀ c ∈ u.head?, c = ',' ∨ c = ']' ∨ c = '}'

variable {u v : List Char} {j k : Json}

/-- The end of a text can follow a value. -/
theorem follows_nil : Follows [] := by simp [Follows]

/-- A comma or a closing bracket can follow a value, whatever comes then. -/
theorem Follows.cons {c : Char} (hc : c = ',' ∨ c = ']' ∨ c = '}') (u : List Char) :
    Follows (c :: u) := by simpa [Follows] using hc

/-- What follows an integer is no part of it. -/
theorem takeWhile_intText (n : Int) (hu : Follows u) :
    (intText n ++ u).takeWhile isIntChar = intText n := by
  rw [List.takeWhile_append_of_pos fun c hc => isIntChar_of_mem_intText hc]
  have hnone : u.takeWhile isIntChar = [] := by
    cases u with
    | nil => rfl
    | cons c u =>
        have hc : isIntChar c = false := by
          rcases hu c rfl with rfl | rfl | rfl <;> decide
        rw [List.takeWhile_cons_of_neg (by simp [hc])]
  rw [hnone, List.append_nil]

/-- **Integers.** The text of an integer tells where it ends. -/
theorem intText_append_inj {m n : Int} (hu : Follows u) (hv : Follows v)
    (h : intText m ++ u = intText n ++ v) : m = n ∧ u = v := by
  have htext : intText m = intText n := by
    rw [← takeWhile_intText m hu, h, takeWhile_intText n hv]
  rw [htext] at h
  exact ⟨intText_inj htext, List.append_cancel_left h⟩

/-- A text that begins with another character is not that of an integer. -/
theorem intText_append_ne_cons {n : Int} {c : Char} (hc : isIntChar c = false) :
    intText n ++ u ≠ c :: v := by
  intro h
  cases htext : intText n with
  | nil => exact intText_ne_nil htext
  | cons d ds =>
      rw [htext, List.cons_append] at h
      have hd : isIntChar d = true := isIntChar_of_mem_intText (htext ▸ List.mem_cons_self)
      rw [(List.cons.inj h).1, hc] at hd
      exact Bool.false_ne_true hd

/-! ### Elements between commas -/

section Elements

variable {α : Type} {write : α → List Char} {valid : α → Prop} {as bs : List α} {close : Char}

/-- Where the text of a thing is followed by what can follow a value, it tells where it ends, and
which of the valid things it stands for. -/
def Legible (write : α → List Char) (valid : α → Prop) (a : α) : Prop :=
  ∀ b, valid b → ∀ u v, Follows u → Follows v → write a ++ u = write b ++ v → a = b ∧ u = v

/-- Elements after the first, each after a comma. -/
def moreText (write : α → List Char) (as : List α) : List Char :=
  as.flatMap fun a => ',' :: write a

/-- Elements with commas between them. -/
def listText (write : α → List Char) : List α → List Char
  | [] => []
  | a :: r => write a ++ moreText write r

/-- What stands behind the first item of a list can follow a value. -/
theorem follows_moreText (hclose : close = ']' ∨ close = '}') (as : List α) (u : List Char) :
    Follows (moreText write as ++ close :: u) := by
  cases as with
  | nil => exact .cons (.inr hclose) u
  | cons a r => exact .cons (.inl rfl) _

/-- The items after the first are told from their text if each item is. -/
theorem moreText_append_inj (hclose : close = ']' ∨ close = '}')
    (has : ∀ a ∈ as, Legible write valid a) (hbs : ∀ b ∈ bs, valid b)
    (h : moreText write as ++ close :: u = moreText write bs ++ close :: v) :
    as = bs ∧ u = v := by
  have hcomma : close ≠ ',' := by rcases hclose with rfl | rfl <;> decide
  -- Where one list ends and the other does not, a bracket would have to be a comma.
  induction as generalizing bs with
  | nil =>
      cases bs with
      | nil => exact ⟨rfl, (List.cons.inj h).2⟩
      | cons b bs => exact absurd (List.cons.inj h).1 hcomma
  | cons a as ih =>
      cases bs with
      | nil => exact absurd (List.cons.inj h).1.symm hcomma
      | cons b bs =>
          simp only [moreText, List.flatMap_cons, List.cons_append, List.append_assoc,
            List.cons.injEq, true_and] at h
          obtain ⟨rfl, hrest⟩ := has a List.mem_cons_self b (hbs b List.mem_cons_self) _ _
            (follows_moreText hclose as u) (follows_moreText hclose bs v) h
          obtain ⟨rfl, rfl⟩ := ih (fun x hx => has x (List.mem_cons_of_mem _ hx))
            (fun x hx => hbs x (List.mem_cons_of_mem _ hx)) hrest
          exact ⟨rfl, rfl⟩

/-- Elements between brackets, if no text of an element begins with a closing bracket. -/
theorem listText_append_inj (hclose : close = ']' ∨ close = '}')
    (hopen : ∀ a, valid a → ∀ u v, write a ++ u ≠ close :: v) (hvalid : ∀ a ∈ as, valid a)
    (has : ∀ a ∈ as, Legible write valid a) (hbs : ∀ b ∈ bs, valid b)
    (h : listText write as ++ close :: u = listText write bs ++ close :: v) :
    as = bs ∧ u = v := by
  cases as with
  | nil =>
      cases bs with
      | nil => exact ⟨rfl, (List.cons.inj h).2⟩
      | cons b bs =>
          rw [listText, listText, List.append_assoc] at h
          exact absurd h.symm (hopen b (hbs b List.mem_cons_self) _ _)
  | cons a as =>
      cases bs with
      | nil =>
          rw [listText, listText, List.append_assoc] at h
          exact absurd h (hopen a (hvalid a List.mem_cons_self) _ _)
      | cons b bs =>
          rw [listText, listText, List.append_assoc, List.append_assoc] at h
          obtain ⟨rfl, hrest⟩ := has a List.mem_cons_self b (hbs b List.mem_cons_self) _ _
            (follows_moreText hclose as u) (follows_moreText hclose bs v) h
          obtain ⟨rfl, rfl⟩ := moreText_append_inj hclose
            (fun x hx => has x (List.mem_cons_of_mem _ hx))
            (fun x hx => hbs x (List.mem_cons_of_mem _ hx)) hrest
          exact ⟨rfl, rfl⟩

end Elements

/-! ### Values -/

/-- A value without binary numbers. -/
inductive FloatFree : Json → Prop where
  | null : FloatFree null
  | bool (b : Bool) : FloatFree (bool b)
  | int (n : Int) : FloatFree (int n)
  | str (s : String) : FloatFree (str s)
  | arr {items : List Json} (h : ∀ j ∈ items, FloatFree j) : FloatFree (arr items)
  | obj {members : List (String × Json)} (h : ∀ m ∈ members, FloatFree m.2) :
      FloatFree (obj members)

-- The equations of the printer are made here, since the proofs below would all wait for them at
-- once.
attribute [local simp] render in
/-- The text of a member. -/
def renderMember (m : String × Json) : List Char := renderString m.1.toList ++ ':' :: render m.2

/-- The printer writes the further items of an array as those of any list. -/
theorem renderMoreItems_eq (items : List Json) : renderMoreItems items = moreText render items := by
  induction items with
  | nil => rw [renderMoreItems, moreText, List.flatMap_nil]
  | cons j r ih => rw [renderMoreItems, ih, moreText, moreText, List.flatMap_cons, List.cons_append]

/-- It writes the items of an array as those of any list. -/
theorem renderItems_eq (items : List Json) : renderItems items = listText render items := by
  cases items with
  | nil => rw [renderItems, listText]
  | cons j r => rw [renderItems, listText, renderMoreItems_eq]

/-- It writes the further members of an object as those of any list. -/
theorem renderMoreMembers_eq (members : List (String × Json)) :
    renderMoreMembers members = moreText renderMember members := by
  induction members with
  | nil => rw [renderMoreMembers, moreText, List.flatMap_nil]
  | cons m r ih =>
      rw [renderMoreMembers, ih, moreText, moreText, List.flatMap_cons, renderMember,
        List.cons_append, List.append_assoc, List.cons_append]

/-- It writes the members of an object as those of any list. -/
theorem renderMembers_eq (members : List (String × Json)) :
    renderMembers members = listText renderMember members := by
  cases members with
  | nil => rw [renderMembers, listText]
  | cons m r =>
      rw [renderMembers, listText, renderMoreMembers_eq, renderMember, List.append_assoc,
        List.cons_append]

/-- The text of an array is the list of its items in brackets. -/
theorem render_arr (items : List Json) :
    render (arr items) = '[' :: (listText render items ++ [']']) := by
  rw [render, renderItems_eq]

/-- The text of an object is the list of its members in braces. -/
theorem render_obj (members : List (String × Json)) :
    render (obj members) = '{' :: (listText renderMember members ++ ['}']) := by
  rw [render, renderMembers_eq]

/-- No text of a value or of a member begins with a closing bracket. -/
theorem FloatFree.render_append_ne {close : Char} (hclose : close = ']' ∨ close = '}')
    (hj : FloatFree j) (u v : List Char) : render j ++ u ≠ close :: v := by
  cases hj with
  | int n => exact intText_append_ne_cons (by rcases hclose with rfl | rfl <;> decide)
  | bool b => cases b <;> rcases hclose with rfl | rfl <;> simp [render]
  | _ => rcases hclose with rfl | rfl <;> simp [render, renderString]

/-- A member does not begin with a closing brace. -/
theorem renderMember_append_ne (m : String × Json) (u v : List Char) :
    renderMember m ++ u ≠ '}' :: v := by
  simp [renderMember, renderString]

/-- The word for null is legible. -/
theorem legible_null : Legible render FloatFree null := by
  intro k hk u v _ _ h
  cases hk with
  | int n => exact absurd h.symm (intText_append_ne_cons (by decide))
  | bool b => cases b <;> simp [render] at h
  | _ => simp_all [render, renderString]

/-- The words for the two truth values are legible. -/
theorem legible_bool (b : Bool) : Legible render FloatFree (bool b) := by
  intro k hk u v _ _ h
  cases hk with
  | int n => cases b <;> exact absurd h.symm (intText_append_ne_cons (by decide))
  | bool b' => cases b <;> cases b' <;> simp_all [render]
  | _ => cases b <;> simp_all [render, renderString]

/-- The text of an integer is legible. -/
theorem legible_int (n : Int) : Legible render FloatFree (int n) := by
  intro k hk u v hu hv h
  cases hk with
  | int n' =>
      rw [render, render] at h
      obtain ⟨rfl, rfl⟩ := intText_append_inj hu hv h
      exact ⟨rfl, rfl⟩
  | bool b => cases b <;> exact absurd h (intText_append_ne_cons (by decide))
  | _ => exact absurd h (intText_append_ne_cons (by decide))

/-- The text of a string is legible. -/
theorem legible_str (s : String) : Legible render FloatFree (str s) := by
  intro k hk u v _ _ h
  cases hk with
  | int n => exact absurd h.symm (intText_append_ne_cons (by decide))
  | bool b => cases b <;> simp [render, renderString] at h
  | str s' =>
      rw [render, render] at h
      obtain ⟨hs, rfl⟩ := renderString_append_inj h
      rw [String.toList_inj.mp hs]
      exact ⟨rfl, rfl⟩
  | _ => simp [render, renderString] at h

/-- The text of an array is legible if its items are. -/
theorem legible_arr {items : List Json} (hitems : ∀ j ∈ items, FloatFree j)
    (ih : ∀ j ∈ items, Legible render FloatFree j) : Legible render FloatFree (arr items) := by
  intro k hk u v _ _ h
  rw [render_arr] at h
  cases hk with
  | int n => exact absurd h.symm (intText_append_ne_cons (by decide))
  | bool b => cases b <;> simp [render] at h
  | @arr items' hitems' =>
      rw [render_arr] at h
      simp only [List.cons_append, List.append_assoc, List.nil_append, List.cons.injEq,
        true_and] at h
      obtain ⟨rfl, rfl⟩ := listText_append_inj (.inl rfl)
        (fun _ hj => hj.render_append_ne (.inl rfl)) hitems ih hitems' h
      exact ⟨rfl, rfl⟩
  | _ => simp [render, renderString] at h

/-- A member tells where it ends if its value does. -/
theorem legible_member {m : String × Json} (hm : Legible render FloatFree m.2) :
    Legible renderMember (fun m => FloatFree m.2) m := by
  rintro ⟨key, value⟩ hvalue u v hu hv h
  simp only [renderMember, List.append_assoc, List.cons_append] at h
  obtain ⟨hkey, hrest⟩ := renderString_append_inj h
  obtain ⟨heq, rfl⟩ := hm value hvalue u v hu hv (List.cons.inj hrest).2
  exact ⟨Prod.ext (String.toList_inj.mp hkey) heq, rfl⟩

/-- The text of an object is legible if the values of its members are. -/
theorem legible_obj {members : List (String × Json)} (hmembers : ∀ m ∈ members, FloatFree m.2)
    (ih : ∀ m ∈ members, Legible render FloatFree m.2) :
    Legible render FloatFree (obj members) := by
  intro k hk u v _ _ h
  rw [render_obj] at h
  cases hk with
  | int n => exact absurd h.symm (intText_append_ne_cons (by decide))
  | bool b => cases b <;> simp [render] at h
  | @obj members' hmembers' =>
      rw [render_obj] at h
      simp only [List.cons_append, List.append_assoc, List.nil_append, List.cons.injEq,
        true_and] at h
      obtain ⟨rfl, rfl⟩ := listText_append_inj (.inr rfl)
        (fun m _ => renderMember_append_ne m) hmembers
        (fun m hm => legible_member (ih m hm)) hmembers' h
      exact ⟨rfl, rfl⟩
  | _ => simp [render, renderString] at h

/-- **Values.** The text of a value tells where it ends and what the value is. -/
theorem FloatFree.legible (hj : FloatFree j) : Legible render FloatFree j := by
  induction hj with
  | null => exact legible_null
  | bool b => exact legible_bool b
  | int n => exact legible_int n
  | str s => exact legible_str s
  | arr h ih => exact legible_arr h ih
  | obj h ih => exact legible_obj h ih

/-- Different values have different texts. -/
theorem FloatFree.render_inj (hj : FloatFree j) (hk : FloatFree k) (h : render j = render k) :
    j = k :=
  (hj.legible k hk [] [] follows_nil follows_nil (by rw [h])).1

end Json

end Deferral

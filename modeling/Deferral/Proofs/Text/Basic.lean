import Deferral.Text.Basic
import Mathlib.Data.List.TakeWhile
import Mathlib.Order.Defs.LinearOrder
import Mathlib.Data.List.Lex
import Mathlib.Data.Char
import Mathlib.Tactic.SplitIfs

/-!
# Texts taken apart

Spans of characters of one kind, hexadecimal numbers, and the order of texts by their bytes.

## Main results

* `takeWhile_append_of_stop`, `dropWhile_append_of_stop` — the two parts;
* `stop_dropWhile` — what follows a span is of another kind;
* `readHex?_hexDigits` — the digits of a number read as the number, up to those that were left out;
* `utf8EncodeChar_append_lt` — a smaller character comes first by its bytes, whatever follows;
* `bytes_lt_bytes_iff` — strings stand in the order of their bytes.
-/

namespace Deferral

/-! ### Spans of a text

A span of characters of one kind ends where the next character is of another kind. A text that was
put together of a span and what follows it is taken apart into the two again. -/

variable {α : Type} {p : α → Bool} {as bs : List α}

/-- A span ends where the next element is not of its kind. -/
theorem takeWhile_append_of_stop (has : ∀ a ∈ as, p a = true) (hbs : ∀ b ∈ bs.head?, p b = false) :
    (as ++ bs).takeWhile p = as := by
  rw [List.takeWhile_append_of_pos has]
  cases bs with
  | nil => exact List.append_nil as
  | cons b bs => rw [List.takeWhile_cons_of_neg (by simp [hbs b rfl]), List.append_nil]

/-- The rest begins where the next element is not of the kind. -/
theorem dropWhile_append_of_stop (has : ∀ a ∈ as, p a = true) (hbs : ∀ b ∈ bs.head?, p b = false) :
    (as ++ bs).dropWhile p = bs := by
  rw [List.dropWhile_append_of_pos has]
  cases bs with
  | nil => rfl
  | cons b bs => rw [List.dropWhile_cons_of_neg (by simp [hbs b rfl])]

/-- What follows a span does not begin with an element of its kind. -/
theorem stop_dropWhile (p : α → Bool) (as : List α) :
    ∀ a ∈ (as.dropWhile p).head?, p a = false := by
  intro a ha
  have hstop := List.head?_dropWhile_not p as
  rwa [Option.mem_def.mp ha] at hstop

/-- A span is empty if the first element is not of its kind. -/
theorem takeWhile_eq_nil_iff_stop : as.takeWhile p = [] ↔ ∀ a ∈ as.head?, p a = false := by
  cases as with
  | nil => simp
  | cons a as => cases hp : p a <;> simp [hp]

end Deferral

namespace Deferral.Text

/-! ### Hexadecimal numbers that read back -/

/-- The digit of a number stands for it. -/
theorem hexValue?_hexDigit {n : Nat} (hn : n < 16) : hexValue? (hexDigit n) = some n := by
  have hall : ∀ k : Fin 16, hexValue? (hexDigit k) = some k.val := by decide
  exact hall ⟨n, hn⟩

/-- As many digits are written as were asked for. -/
theorem length_hexDigits (width n : Nat) : (hexDigits width n).length = width := by
  induction width generalizing n with
  | zero => rfl
  | succ width ih => rw [hexDigits, List.length_append, ih, List.length_singleton]

/-- Digits read one part after another. -/
theorem readHex?_append (start : Nat) (as bs : List Char) :
    readHex? start (as ++ bs) = (readHex? start as).bind fun n => readHex? n bs := by
  induction as generalizing start with
  | nil => rfl
  | cons c as ih =>
      rw [List.cons_append, readHex?, readHex?, Option.bind_assoc]
      exact congrArg _ (funext fun v => ih _)

/-- **Numbers.** The digits of a number read as the number, up to those that were left out, after
the digits already read. -/
theorem readHex?_hexDigits (start width n : Nat) :
    readHex? start (hexDigits width n) =
      some (start * Nat.pow 16 width + n % Nat.pow 16 width) := by
  induction width generalizing n with
  | zero =>
      have hone : Nat.pow 16 0 = 1 := rfl
      rw [hexDigits, readHex?, hone, Nat.mod_one, Nat.mul_one, Nat.add_zero]
  | succ width ih =>
      have hlast : n % 16 < 16 := Nat.mod_lt n (by decide)
      have hpow : Nat.pow 16 (width + 1) = 16 * Nat.pow 16 width := Nat.mul_comm _ _
      have hsplit : n % Nat.pow 16 (width + 1) = n % 16 + 16 * (n / 16 % Nat.pow 16 width) := by
        rw [hpow, Nat.mod_mul]
      have hstart : start * Nat.pow 16 (width + 1) = start * Nat.pow 16 width * 16 := by
        rw [hpow, Nat.mul_comm 16, Nat.mul_assoc]
      rw [hexDigits, readHex?_append, ih, Option.bind_some, readHex?, hexValue?_hexDigit hlast,
        Option.bind_some, readHex?, hsplit, hstart]
      congr 1
      omega

/-- A number with no more digits than were written reads back. -/
theorem readHex?_hexDigits_of_lt {width n : Nat} (hn : n < Nat.pow 16 width) :
    readHex? 0 (hexDigits width n) = some n := by
  rw [readHex?_hexDigits, Nat.zero_mul, Nat.zero_add, Nat.mod_eq_of_lt hn]

/-! ### Strings in the order of their bytes

Strings are ordered by their characters, one after another, and a character by its code point. The
bytes of UTF-8 give the same order: the first byte of a character tells how many follow, a longer
form stands for a larger code point, and within one length the bytes are the digits of the code
point. -/

variable {c d : Char} {cs ds : List Char} {s t : String} {u v : List UInt8}

/-- The bytes of a string in UTF-8. -/
def bytes (s : String) : List UInt8 := s.toUTF8.data.toList

/-- The bytes of a string are those of its characters. -/
theorem bytes_eq (s : String) : bytes s = s.toList.flatMap String.utf8EncodeChar := by
  have hbytes : s.toUTF8 = s.toList.utf8Encode := by
    rw [← String.toByteArray_ofList, String.ofList_toList]
    rfl
  rw [bytes, hbytes, List.utf8Encode, List.data_toByteArray, List.toList_toArray]

/-- A smaller byte comes first, and after equal bytes the order is that of the rest. -/
theorem ofNat_cons_lt_iff {m n : Nat} (hm : m < 256) (hn : n < 256) :
    UInt8.ofNat m :: u < UInt8.ofNat n :: v ↔ m < n ∨ m = n ∧ u < v := by
  rw [List.cons_lt_cons_iff, UInt8.lt_iff_toNat_lt, ← UInt8.toNat_inj,
    UInt8.toNat_ofNat_of_lt' hm, UInt8.toNat_ofNat_of_lt' hn]

/-- A code point is below 0x110000. -/
theorem toNat_val_lt (c : Char) : c.val.toNat < 0x110000 := by
  rcases c.valid with h | ⟨-, h⟩
  · exact Nat.lt_trans h (by decide)
  · exact h

/-- Of two numbers the smaller has the smaller last digit to the base 64, or it is smaller already
without the last digits. -/
theorem lt_cases_div {m n : Nat} (h : m < n) :
    m / 64 < n / 64 ∨ m / 64 = n / 64 ∧ m % 64 < n % 64 := by
  omega

/-- **Characters.** A smaller character comes first by its bytes, whatever follows. -/
theorem utf8EncodeChar_append_lt (h : c < d) (u v : List UInt8) :
    String.utf8EncodeChar c ++ u < String.utf8EncodeChar d ++ v := by
  have hlt : c.val.toNat < d.val.toNat := UInt32.lt_iff_toNat_lt.mp h
  have hd : d.val.toNat < 0x110000 := toNat_val_lt d
  have hfirst (n : Nat) : n / 4096 = n / 64 / 64 ∧ n / 262144 = n / 64 / 64 / 64 := by
    rw [Nat.div_div_eq_div_mul, Nat.div_div_eq_div_mul]
    exact ⟨rfl, rfl⟩
  -- One case for each pair of lengths; the smaller character is never the longer one.
  simp only [String.utf8EncodeChar, hfirst]
  split_ifs <;> simp (disch := omega) only [List.cons_append, List.nil_append, ofNat_cons_lt_iff]
  all_goals
    rcases lt_cases_div hlt with hlt₁ | ⟨hlast, hlt₁⟩
    · rcases lt_cases_div hlt₁ with hlt₂ | ⟨hlast, hlt₂⟩
      · rcases lt_cases_div hlt₂ with hlt₃ | ⟨hlast, hlt₃⟩ <;> omega
      · omega
    · omega

/-- Bytes of characters stand in the order of the characters. -/
theorem flatMap_utf8EncodeChar_lt (h : cs < ds) :
    cs.flatMap String.utf8EncodeChar < ds.flatMap String.utf8EncodeChar := by
  induction cs generalizing ds with
  | nil =>
      cases ds with
      | nil => exact absurd h (List.lt_irrefl _)
      | cons d ds =>
          obtain ⟨b, bs, hb⟩ := List.exists_cons_of_ne_nil (String.utf8EncodeChar_ne_nil (c := d))
          rw [List.flatMap_cons, hb]
          exact List.nil_lt_cons _ _
  | cons c cs ih =>
      cases ds with
      | nil => exact absurd h (List.not_lt_nil _)
      | cons d ds =>
          rw [List.flatMap_cons, List.flatMap_cons]
          rcases List.cons_lt_cons_iff.mp h with hlt | ⟨rfl, hrest⟩
          · exact utf8EncodeChar_append_lt hlt _ _
          · exact List.append_left_lt (ih hrest)

/-- **Strings.** Strings stand in the order of their bytes. -/
theorem bytes_lt_bytes_iff : bytes s < bytes t ↔ s < t := by
  rw [bytes_eq, bytes_eq, String.lt_iff]
  constructor
  · intro h
    rcases lt_trichotomy s.toList t.toList with hlt | heq | hgt
    · exact hlt
    · rw [heq] at h
      exact absurd h (List.lt_irrefl _)
    · exact absurd h (List.lt_asymm (flatMap_utf8EncodeChar_lt hgt))
  · exact flatMap_utf8EncodeChar_lt

end Deferral.Text

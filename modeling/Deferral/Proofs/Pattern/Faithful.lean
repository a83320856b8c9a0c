import Deferral.Proofs.Pattern.KeyHeads

/-!
# Globs read by themselves

What a glob without brackets stands for can be told from its own text, one character after another,
without the elements that it is split into and without a regular expression. The pattern written for
the glob says the same. A text stands for itself alone if a backslash is put before each of its
characters, whatever they are, or if there are no special characters in it.

## Main results

* `accepts_items` — the elements of a glob stand for what its text stands for;
* `translation_faithful` — so does the pattern that is written for it;
* `exists_parse?_text` — what the matcher of a text without special characters accepts.
-/

namespace Deferral

namespace Glob

variable {c : Char} {cs glob key text : List Char}

/-- Whether a glob without brackets stands for a text. A star stands for any run of characters that
has no line feed in it, a question mark for any one character but a line feed, a backslash and the
character after it for that character, and a backslash at the end for a backslash. Every other
character stands for itself, and the text has to end with the glob. -/
def stands : List Char → List Char → Bool
  | [], key => key.isEmpty
  | '*' :: glob, key => afterRun (stands glob) key
  | '?' :: glob, d :: key => d != '\n' && stands glob key
  | ['\\'], key => key == ['\\']
  | '\\' :: c :: glob, d :: key => d == c && stands glob key
  | c :: glob, d :: key => d == c && stands glob key
  | _ :: _, [] => false

/-- A text with a backslash before each of its characters. -/
def backslashed (text : List Char) : List Char := text.flatMap fun c => ['\\', c]

/-! ### Elements and texts -/

/-- The elements of a glob without brackets stand for what the glob stands for. -/
theorem accepts_items (h : '[' ∉ glob) (key : List Char) :
    accepts (items glob) key = stands glob key := by
  fun_induction items glob generalizing key with
  | case1 => rfl
  | case2 c r hstar ih =>
      obtain rfl := beq_iff_eq.mp hstar
      rw [accepts, stands, funext (ih fun hmem => h (.tail _ hmem))]
  | case3 c r _ hquestion ih =>
      obtain rfl := beq_iff_eq.mp hquestion
      cases key with
      | nil => rfl
      | cons d key => rw [accepts, stands, ih fun hmem => h (.tail _ hmem)]
  | case4 c _ _ hslash =>
      obtain rfl := beq_iff_eq.mp hslash
      cases key with
      | nil => rfl
      | cons d key =>
          rw [accepts, stands, accepts]
          cases key <;> simp
  | case5 c _ _ hslash d r ih =>
      obtain rfl := beq_iff_eq.mp hslash
      cases key with
      | nil => rfl
      | cons e key => rw [accepts, stands, ih fun hmem => h (.tail _ (.tail _ hmem))]
  | case6 c r _ _ _ hbracket | case7 c r _ _ _ hbracket =>
      rw [beq_iff_eq.mp hbracket] at h
      exact absurd List.mem_cons_self h
  | case8 c r hstar hquestion hslash _ ih =>
      rw [beq_iff_eq] at hstar hquestion hslash
      have hrest := ih fun hmem => h (.tail _ hmem)
      cases key with
      | nil => rw [accepts, stands] <;> simp_all
      | cons d key => rw [accepts, stands, hrest] <;> simp_all

/-! ### Texts that stand for themselves -/

/-- Literals stand for their characters and nothing else. -/
theorem accepts_map_literal_iff : accepts (text.map .literal) key = true ↔ key = text := by
  rw [← List.append_nil (text.map GlobItem.literal), accepts_literals_iff]
  simp [accepts]

/-- A text with a backslash before each character is a glob of literals. -/
theorem items_backslashed (text : List Char) : items (backslashed text) = text.map .literal := by
  induction text with
  | nil => rw [backslashed, List.flatMap_nil, items]; rfl
  | cons c text ih => rw [List.map_cons, ← ih]; exact items_escape c (backslashed text)

/-- A text without special characters is read as it stands. -/
theorem items_of_plain (hwild : ∀ c ∈ text, isWild c = false) (hbracket : '[' ∉ text) :
    items text = text.map .literal := by
  induction text with
  | nil => rw [items]; rfl
  | cons c text ih =>
      rw [items_cons (classFree_items hbracket) (hwild c List.mem_cons_self), List.map_cons,
        ih (fun d hd => hwild d (.tail _ hd)) fun hmem => hbracket (.tail _ hmem)]

/-- Literals are no classes. -/
theorem classFree_map_literal (text : List Char) : ClassFree (text.map .literal) := by
  simp [ClassFree]

/-! ### Patterns -/

/-- **Translation.** The pattern that is written for a glob without brackets is a regular
expression, and that matches the texts which the glob stands for. If the glob is a text with a
backslash before each of its characters, brackets or not, then it matches that text and no other. -/
theorem translation_faithful :
    (∀ glob, '[' ∉ glob → ∃ r, Regex.parse? .plain (pattern glob) = some r ∧
      ∀ key, r.isMatch key = stands glob key) ∧
    ∀ text, ∃ r, Regex.parse? .plain (pattern (backslashed text)) = some r ∧
      ∀ key, r.isMatch key = true ↔ key = text := by
  constructor
  · intro glob hbracket
    obtain ⟨r, hr, hmatch⟩ := exists_regex_accepts (classFree_items hbracket)
    exact ⟨r, hr, fun key => (hmatch key).trans (accepts_items hbracket key)⟩
  · intro text
    have hitems := items_backslashed text
    obtain ⟨r, hr, hmatch⟩ := exists_regex_accepts (hitems ▸ classFree_map_literal text)
    refine ⟨r, hr, fun key => ?_⟩
    rw [hmatch, hitems, accepts_map_literal_iff]

/-- A glob with a star, a question mark, an escaped star, a backslash at the end and characters that
are operators of regular expressions, and a text with a class in it. -/
theorem translation_faithful_operators :
    let glob := "p:*.(x)?\\*^]\\".toList
    let text := "[a-c]".toList
    '[' ∉ glob ∧
      (∃ r, Regex.parse? .plain (pattern glob) = some r ∧
        r.isMatch "p:a.b.(x)é*^]\\".toList = true ∧
        r.isMatch "p:a\nb.(x)é*^]\\".toList = false ∧
        r.isMatch "p:a.b.(x)éé^]\\".toList = false) ∧
      ∃ r, Regex.parse? .plain (pattern (backslashed text)) = some r ∧
        r.isMatch text = true ∧ ¬ r.isMatch ['b'] = true := by
  intro glob text
  have hbracket : '[' ∉ glob := by decide
  obtain ⟨r, hr, hmatch⟩ := translation_faithful.1 glob hbracket
  obtain ⟨q, hq, hself⟩ := translation_faithful.2 text
  refine ⟨hbracket, ⟨r, hr, ?_, ?_, ?_⟩, q, hq, (hself text).mpr rfl, ?_⟩
  · rw [hmatch]; decide
  · rw [hmatch]; decide
  · rw [hmatch]; decide
  · rw [hself]; decide

end Glob

namespace KeyMatcher

variable {head : Option String} {s : String}

/-- **Texts.** The matcher of a text that is no regular expression accepts just one key, if no
special character is in it after it was scoped: what it then is. -/
theorem exists_parse?_text (hliteral : literalRegex? s.toList = none)
    (hwild : ∀ c ∈ scopedGlob (keyHead? head) s.toList, Glob.isWild c = false)
    (hbracket : '[' ∉ scopedGlob (keyHead? head) s.toList) :
    ∃ m, parse? (.text s) head = some m ∧
      ∀ key, m.isMatch key = true ↔ key.toList = scopedGlob (keyHead? head) s.toList := by
  have hitems := Glob.items_of_plain hwild hbracket
  obtain ⟨r, hr, hmatch⟩ := Glob.exists_regex_accepts (hitems ▸ Glob.classFree_map_literal _)
  refine ⟨glob (scopedGlob (keyHead? head) s.toList) r, ?_, fun key => ?_⟩
  · simp only [parse?, hliteral, hr, Option.map_some]
  · rw [isMatch, hmatch, hitems, Glob.accepts_map_literal_iff]

end KeyMatcher

end Deferral

import Deferral.Proofs.Pattern.Globs

/-!
# Key heads as globs

The keys of a cache are found with its key head as a glob and a star after it. A key head without
wildcards makes a glob for the texts that begin with it, as long as no line feed follows. Any other
key head without classes makes one that also matches a text which does not begin with it: a shortest
one, in which stars stand for nothing.

## Main results

* `accepts_under_iff` — what the glob of a key head without wildcards matches;
* `exists_accepts_foreign` — every other key head, if it has no class, matches foreign texts;
* `exists_parse?_star` — the matcher of a cache for all its keys.
-/

namespace Deferral

namespace Glob

variable {c d : Char} {cs r head key : List Char} {is : List GlobItem} {pick : List Char → Char}

/-- The characters by which a glob matches other texts than itself. Brackets are left out. -/
def isWild (c : Char) : Bool := c == '*' || c == '?' || c == '\\'

/-! ### Elements of a glob -/

/-- A star is an item of its own. -/
theorem items_star (r : List Char) : items ('*' :: r) = .anyRun :: items r := by
  rw [items.eq_def]
  rfl

/-- So is a question mark. -/
theorem items_question (r : List Char) : items ('?' :: r) = .anyChar :: items r := by
  rw [items.eq_def]
  rfl

/-- A backslash and the character behind it are one literal. -/
theorem items_escape (d : Char) (r : List Char) :
    items ('\\' :: d :: r) = .literal d :: items r := by
  rw [items.eq_def]
  rfl

/-- A bracket that closes nothing, and any character that is not wild, stand for themselves. -/
theorem items_cons (hfree : ClassFree (items (c :: r))) (hc : isWild c = false) :
    items (c :: r) = .literal c :: items r := by
  simp only [isWild, Bool.or_eq_false_iff] at hc
  obtain ⟨⟨hstar, hquestion⟩, hslash⟩ := hc
  rw [items.eq_def (c :: r)] at hfree ⊢
  simp only [hstar, hquestion, hslash, Bool.false_eq_true, if_false] at hfree ⊢
  split
  · rename_i hbracket
    rw [if_pos hbracket] at hfree
    split at hfree
    · exact absurd List.mem_cons_self (hfree _)
    · rw [beq_iff_eq.mp hbracket]
  · rfl

/-- An item that is no class is added to a glob without classes. -/
theorem ClassFree.cons {i : GlobItem} (hi : ∀ body, i ≠ .members body) (h : ClassFree is) :
    ClassFree (i :: is) := by
  intro body hmem
  rcases List.mem_cons.mp hmem with heq | hmem
  · exact hi body heq.symm
  · exact h body hmem

/-- A glob without opening brackets has no classes. -/
theorem classFree_items {glob : List Char} (h : '[' ∉ glob) : ClassFree (items glob) := by
  fun_induction items glob with
  | case1 => exact fun body => List.not_mem_nil
  | case2 c r _ ih | case3 c r _ _ ih | case8 c r _ _ _ _ ih =>
      exact (ih fun hmem => h (.tail _ hmem)).cons nofun
  | case4 => exact .cons nofun fun body => List.not_mem_nil
  | case5 c _ _ _ d r ih => exact (ih fun hmem => h (.tail _ (.tail _ hmem))).cons nofun
  | case6 c r _ _ _ hbracket | case7 c r _ _ _ hbracket =>
      rw [beq_iff_eq.mp hbracket] at h
      exact absurd List.mem_cons_self h

/-! ### Key heads without wildcards -/

/-- The glob of all keys with a key head. -/
def under (head : List Char) : List Char := head ++ ['*']

/-- A glob has no classes if there is no opening bracket in it. -/
theorem classFree_under (h : ∀ c ∈ head, c ≠ '[') : ClassFree (items (under head)) := by
  refine classFree_items fun hmem => ?_
  rcases List.mem_append.mp hmem with hmem | hmem
  · exact h _ hmem rfl
  · exact absurd hmem (by decide)

/-- The glob of all keys is a star. -/
theorem items_under_nil : items (under []) = [.anyRun] := by
  rw [under, List.nil_append, items_star, items.eq_def]

/-- A key head without wildcards is read as it stands. -/
theorem items_under (hfree : ClassFree (items (under head)))
    (hwild : ∀ c ∈ head, isWild c = false) :
    items (under head) = head.map .literal ++ [.anyRun] := by
  induction head with
  | nil => exact items_under_nil
  | cons c head ih =>
      have hfirst : items (under (c :: head)) = .literal c :: items (under head) :=
        items_cons hfree (hwild c List.mem_cons_self)
      rw [hfirst] at hfree ⊢
      rw [ih hfree.tail fun d hd => hwild d (.tail _ hd)]
      rfl

/-- A star alone accepts the texts without a line feed. -/
theorem accepts_anyRun_iff : accepts [.anyRun] cs = true ↔ '\n' ∉ cs := by
  rw [accepts]
  induction cs with
  | nil => simp [afterRun, accepts]
  | cons d cs ih =>
      rw [afterRun, Bool.or_eq_true, Bool.and_eq_true, ih, bne_iff_ne, List.mem_cons, not_or,
        ne_comm]
      simp [accepts]

/-- A star after a star makes no difference. -/
theorem accepts_star_star : accepts (.anyRun :: .anyRun :: is) cs = accepts (.anyRun :: is) cs := by
  rw [accepts, accepts]
  induction cs with
  | nil => rfl
  | cons d cs ih =>
      rw [afterRun, ih, accepts, afterRun, Bool.or_assoc, Bool.or_self]

/-- Literals accept themselves in front of what the other items accept. -/
theorem accepts_literals_iff :
    accepts (head.map .literal ++ is) key = true ↔
      ∃ rest, key = head ++ rest ∧ accepts is rest = true := by
  induction head generalizing key with
  | nil => simp
  | cons c head ih =>
      cases key with
      | nil => simp [accepts]
      | cons d key =>
          rw [List.map_cons, List.cons_append, accepts, Bool.and_eq_true, beq_iff_eq, ih]
          constructor
          · rintro ⟨rfl, rest, rfl, hrest⟩
            exact ⟨rest, rfl, hrest⟩
          · rintro ⟨rest, hkey, hrest⟩
            obtain ⟨rfl, rfl⟩ := List.cons.inj hkey
            exact ⟨rfl, rest, rfl, hrest⟩

/-- **Key heads without wildcards.** Their glob matches the texts that begin with them, if no line
feed follows. -/
theorem accepts_under_iff (hfree : ClassFree (items (under head)))
    (hwild : ∀ c ∈ head, isWild c = false) :
    accepts (items (under head)) key = true ↔ ∃ rest, key = head ++ rest ∧ '\n' ∉ rest := by
  rw [items_under hfree hwild, accepts_literals_iff]
  simp only [accepts_anyRun_iff]

/-! ### Key heads with wildcards -/

/-- A shortest text that elements stand for. For a question mark it takes a letter, and for a class
the character that is picked for it. -/
def shortest (pick : List Char → Char) : List GlobItem → List Char
  | .literal c :: is => c :: shortest pick is
  | .anyChar :: is => 'x' :: shortest pick is
  | .anyRun :: is => shortest pick is
  | .members body :: is => pick body :: shortest pick is
  | [] => []

/-- The shortest text of a glob without classes is accepted, whichever characters are picked for
question marks. -/
theorem accepts_shortest (h : ClassFree is) : accepts is (shortest pick is) = true := by
  induction is with
  | nil => rfl
  | cons i is ih =>
      have hrest := ih h.tail
      cases i with
      | literal c => simp [shortest, accepts, hrest]
      | anyChar => simp [shortest, accepts, hrest]
      | anyRun =>
          rw [shortest, accepts]
          cases hshort : shortest pick is with
          | nil => rw [afterRun, ← hshort, hrest]
          | cons d cs => rw [afterRun, ← hshort, hrest, Bool.true_or]
      | members body => exact absurd List.mem_cons_self (h body)

/-- How the glob of a key head begins, by the first character of the key head. -/
theorem items_under_cons (hfree : ClassFree (items (under (c :: head)))) :
    (c = '*' ∧ items (under (c :: head)) = .anyRun :: items (under head)) ∨
      (c = '?' ∧ items (under (c :: head)) = .anyChar :: items (under head)) ∨
      (c = '\\' ∧ head = [] ∧ items (under (c :: head)) = [.literal '*']) ∨
      (c = '\\' ∧ ∃ d r, head = d :: r ∧
        items (under (c :: head)) = .literal d :: items (under r)) ∨
      (isWild c = false ∧ items (under (c :: head)) = .literal c :: items (under head)) := by
  by_cases hwild : isWild c = true
  · simp only [isWild, Bool.or_eq_true, beq_iff_eq] at hwild
    rcases hwild with (rfl | rfl) | rfl
    · exact .inl ⟨rfl, items_star _⟩
    · exact .inr (.inl ⟨rfl, items_question _⟩)
    · cases head with
      | nil =>
          refine .inr (.inr (.inl ⟨rfl, rfl, ?_⟩))
          rw [under, List.singleton_append, items_escape, items.eq_def]
      | cons d r => exact .inr (.inr (.inr (.inl ⟨rfl, d, r, rfl, items_escape d _⟩)))
  · have hplain := Bool.eq_false_iff.mpr hwild
    exact .inr (.inr (.inr (.inr ⟨hplain, items_cons hfree hplain⟩)))

/-- A shortest text of a glob is no longer than its key head. -/
theorem length_shortest_le (pick : List Char → Char) (head : List Char)
    (hfree : ClassFree (items (under head))) :
    (shortest pick (items (under head))).length ≤ head.length := by
  match head with
  | [] =>
      rw [items_under_nil]
      exact Nat.le_refl 0
  | c :: head =>
      rcases items_under_cons hfree with ⟨-, hitems⟩ | ⟨-, hitems⟩ | ⟨-, -, hitems⟩ |
        ⟨-, d, r, rfl, hitems⟩ | ⟨-, hitems⟩ <;> rw [hitems] at hfree ⊢
      · exact Nat.le_succ_of_le (length_shortest_le pick head hfree.tail)
      · exact Nat.succ_le_succ (length_shortest_le pick head hfree.tail)
      · exact Nat.le_add_left 1 _
      · exact Nat.succ_le_succ (Nat.le_succ_of_le (length_shortest_le pick r hfree.tail))
      · exact Nat.succ_le_succ (length_shortest_le pick head hfree.tail)

/-- A shortest text that begins with the key head tells that this has no wildcards. -/
theorem isWild_eq_false_of_isPrefix (hfree : ClassFree (items (under head)))
    (h : head <+: shortest pick (items (under head))) (hc : c ∈ head) : isWild c = false := by
  induction head with
  | nil => exact absurd hc List.not_mem_nil
  | cons first head ih =>
      rcases items_under_cons hfree with ⟨-, hitems⟩ | ⟨rfl, hitems⟩ | ⟨rfl, -, hitems⟩ |
        ⟨-, d, r, rfl, hitems⟩ | ⟨hplain, hitems⟩ <;> rw [hitems] at hfree h
      · -- The star stands for nothing, so what is left is too short.
        have hlong := h.length_le
        have hshort := length_shortest_le pick head hfree.tail
        simp only [shortest, List.length_cons] at hlong
        omega
      · exact absurd (List.cons_prefix_cons.mp h).1 (by decide)
      · exact absurd (List.cons_prefix_cons.mp h).1 (by decide)
      · have hlong := h.length_le
        have hshort := length_shortest_le pick r hfree.tail
        simp only [shortest, List.length_cons] at hlong
        omega
      · rcases List.mem_cons.mp hc with rfl | hc
        · exact hplain
        · exact ih hfree.tail (List.cons_prefix_cons.mp h).2 hc

/-- **Key heads with wildcards.** Their glob matches a text that does not begin with them. -/
theorem exists_accepts_foreign (hfree : ClassFree (items (under head))) (hc : c ∈ head)
    (hwild : isWild c = true) :
    ∃ key, accepts (items (under head)) key = true ∧ ¬ head <+: key := by
  refine ⟨shortest (fun _ => 'x') _, accepts_shortest hfree, fun h => ?_⟩
  rw [isWild_eq_false_of_isPrefix hfree h hc] at hwild
  exact Bool.false_ne_true hwild

end Glob

namespace KeyMatcher

variable {head : String}

/-- A key head occurs in a star only if it is one. -/
theorem occursIn_star_iff {h : List Char} (hh : h ≠ []) :
    Text.occursIn h ['*'] = true ↔ h = ['*'] := by
  match h with
  | [] => exact absurd rfl hh
  | [c] => simp [Text.occursIn]
  | c :: d :: r => simp [Text.occursIn]

/-- A key head that is not empty is one. -/
theorem keyHead?_some (hhead : head ≠ "") : keyHead? (some head) = some head.toList := by
  have hne : head.toList ≠ [] := mt String.toList_eq_nil_iff.mp hhead
  simp [keyHead?, hne]

/-- The matcher of a cache for all its keys is a glob: the key head with a star behind it, or just a
star if the key head is one. -/
theorem parse?_star_eq (hhead : head ≠ "") :
    parse? (.text "*") (some head) =
      (Regex.parse? .plain (Glob.pattern (scopedGlob (some head.toList) ['*']))).map
        (glob (scopedGlob (some head.toList) ['*'])) := by
  have hliteral : literalRegex? "*".toList = none := rfl
  simp only [parse?, keyHead?_some hhead, hliteral]
  rfl

/-- **The keys of a cache.** The matcher of a cache for all its keys is a glob; it matches what the
glob of the key head stands for. -/
theorem exists_parse?_star (hhead : head ≠ "")
    (hfree : Glob.ClassFree (Glob.items (Glob.under head.toList))) :
    ∃ m, parse? (.text "*") (some head) = some m ∧
      ∀ key, m.isMatch key = Glob.accepts (Glob.items (Glob.under head.toList)) key.toList := by
  have hne : head.toList ≠ [] := mt String.toList_eq_nil_iff.mp hhead
  rw [parse?_star_eq hhead, scopedGlob]
  split
  · -- The key head is a star itself and is not written before the star.
    rename_i hoccurs
    have hstar := (occursIn_star_iff hne).mp hoccurs
    have hfree' : Glob.ClassFree (Glob.items ['*']) := by
      rw [← List.nil_append ['*'], ← Glob.under, Glob.items_under_nil]
      simp [Glob.ClassFree]
    obtain ⟨r, hr, haccepts⟩ := Glob.exists_regex_accepts hfree'
    refine ⟨_, by rw [hr]; rfl, fun key => ?_⟩
    rw [isMatch, haccepts, hstar, Glob.under, List.singleton_append]
    simp only [Glob.items_star, Glob.accepts_star_star]
  · obtain ⟨r, hr, haccepts⟩ := Glob.exists_regex_accepts hfree
    refine ⟨_, by rw [← Glob.under, hr]; rfl, fun key => ?_⟩
    rw [isMatch, haccepts]

end KeyMatcher

end Deferral

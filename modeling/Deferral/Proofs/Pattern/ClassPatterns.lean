import Deferral.Proofs.Pattern.Globs
import Mathlib.Data.List.Chain

/-!
# How the pattern of a class is read

Between the brackets of a class stand characters, with or without a backslash before them, and
ranges. They are copied into a class of a regular expression, where some characters have a meaning
of their own: what would be an operator by itself gets a backslash, but nothing is done about a
backslash that was there before and about hyphens. The class is read as the same characters and
ranges if behind a backslash only characters stand that are read as themselves there, and if no two
hyphens stand next to each other, which would be an operator.

## Main results

* `takeMember?_pattern`, `takeRange?_single`, `takeRange?_range` — characters and ranges;
* `takeMembers?_chars` — the members of a class;
* `takeClass?_chars` — the class, with a sign that turns it around or without.
-/

namespace Deferral

open Regex

namespace Glob

/-! ### Characters and ranges -/

/-- A character of a class as it is written: by itself, or with a backslash before it. -/
inductive ClassChar where
  | plain (c : Char)
  | escaped (c : Char)
deriving DecidableEq, Repr

/-- The character that stands there. -/
def ClassChar.char : ClassChar → Char
  | plain c | escaped c => c

/-- The characters between the brackets. A backslash takes the next character along, and one at the
end, which no bracket can follow, takes none. -/
def classChars : List Char → List ClassChar
  | [] => []
  | ['\\'] => []
  | '\\' :: c :: r => .escaped c :: classChars r
  | c :: r => .plain c :: classChars r

/-- The ranges of a class, from left to right: a hyphen between two characters makes a range of
them, and any other character is one by itself. -/
def ranges : List ClassChar → List (Char × Char)
  | a :: .plain '-' :: b :: r => (a.char, b.char) :: ranges r
  | a :: r => (a.char, a.char) :: ranges r
  | [] => []

/-- Whether a character is in one of several ranges. -/
def inRanges (rs : List (Char × Char)) (c : Char) : Bool := rs.any fun r => r.1 ≤ c && c ≤ r.2

/-! ### Characters of the pattern -/

/-- What is written into the pattern for a character. -/
def ClassChar.pattern : ClassChar → List Char
  | plain c => if ['[', ']', '&', '~', '^'].contains c then ['\\', c] else [c]
  | escaped c => ['\\', c]

/-- A character that is read as itself in the pattern: no backslash by itself, and behind a
backslash only a character that means nothing else there. -/
def ClassChar.IsSafe : ClassChar → Prop
  | plain c => c ≠ '\\'
  | escaped c => Escape.isPlain c = true

/-- No two hyphens without a backslash stand next to each other. -/
def HyphensApart (chars : List ClassChar) : Prop :=
  chars.IsChain fun a b => ¬ (a = .plain '-' ∧ b = .plain '-')

instance (chars : List ClassChar) : Decidable (HyphensApart chars) :=
  inferInstanceAs (Decidable (List.IsChain _ _))

variable {fuel : Nat} {a b : ClassChar} {c : Char} {chars : List ClassChar} {cs rest : List Char}
  {m : Members} {s : CharSet}

/-- The pattern of a class is written character by character. -/
theorem memberPattern_eq (cs : List Char) :
    memberPattern cs = (classChars cs).flatMap ClassChar.pattern := by
  fun_induction memberPattern cs with
  | case1 => rfl
  | case2 => rfl
  | case3 c r ih => rw [classChars, List.flatMap_cons, ih]; rfl
  | case4 c r hend hescape hspecial ih =>
      rw [classChars, List.flatMap_cons, ih, ClassChar.pattern, if_pos hspecial]
      · rfl
      · exact hend
      · exact hescape
  | case5 c r hend hescape hspecial ih =>
      rw [classChars, List.flatMap_cons, ih, ClassChar.pattern, if_neg hspecial]
      · rfl
      · exact hend
      · exact hescape

/-- A backslash does not stand for itself in a class. -/
theorem ne_of_plain_mem_classChars (h : .plain c ∈ classChars cs) : c ≠ '\\' := by
  fun_induction classChars cs with
  | case1 => cases h
  | case2 => cases h
  | case3 d r ih =>
      rcases List.mem_cons.mp h with heq | hmem
      · cases heq
      · exact ih hmem
  | case4 d r hend hescape ih =>
      rcases List.mem_cons.mp h with heq | hmem
      · cases heq
        rintro rfl
        cases r with
        | nil => exact hend rfl rfl
        | cons e r => exact hescape e r rfl rfl
      · exact ih hmem

/-- The pattern of a character begins with no operator but the hyphen, and with that only if it is
one. -/
theorem ClassChar.exists_cons_pattern (a : ClassChar) :
    ∃ c r, a.pattern = c :: r ∧ c ∉ ['[', ']', '&', '~', '^'] ∧ (c = '-' → a = .plain '-') := by
  cases a with
  | plain c =>
      by_cases hspecial : ['[', ']', '&', '~', '^'].contains c = true
      · exact ⟨'\\', [c], by rw [pattern, if_pos hspecial], by decide, nofun⟩
      · refine ⟨c, [], by rw [pattern, if_neg hspecial], by simpa using hspecial, ?_⟩
        rintro rfl
        rfl
  | escaped c => exact ⟨'\\', [c], rfl, by decide, nofun⟩

/-- A character without a meaning of its own is read as itself. -/
theorem take?_of_isPlain (h : Escape.isPlain c = true) (rest : List Char) :
    Escape.take? false (c :: rest) = some (.literal c, rest) := by
  rw [Escape.take?, if_pos h]
  -- What names something of its own is no plain character.
  all_goals
    rintro rfl
    exact absurd h (by decide)

/-- A safe character is read as itself. -/
theorem takeMember?_pattern (h : a.IsSafe) (rest : List Char) :
    takeMember? .plain (a.pattern ++ rest) = some (.literal a.char, rest) := by
  cases a with
  | plain c =>
      by_cases hspecial : ['[', ']', '&', '~', '^'].contains c = true
      · rw [ClassChar.pattern, if_pos hspecial]
        refine take?_of_isPlain ?_ rest
        have hmember := List.mem_of_elem_eq_true hspecial
        simp only [List.mem_cons, List.not_mem_nil, or_false] at hmember
        rcases hmember with rfl | rfl | rfl | rfl | rfl <;> decide
      · rw [ClassChar.pattern, if_neg hspecial, List.singleton_append, takeMember?]
        · rfl
        · exact h
  | escaped c => exact take?_of_isPlain h rest

/-- A character before no hyphen, or before a hyphen that closes the class, is a member by itself.
-/
theorem takeRange?_single (h : a.IsSafe) (hrest : rest ≠ [])
    (hhyphen : ∀ r, rest = '-' :: r → r.head? = some ']') :
    takeRange? .plain (a.pattern ++ rest) = some (.single a.char, rest) := by
  have hsingle : memberSet? .plain (.literal a.char) = some (.single a.char) := rfl
  rw [takeRange?, takeMember?_pattern h]
  simp only [Flags.plain, skip_false, Option.bind_eq_bind, Option.bind_some]
  split
  · exact absurd rfl hrest
  · rename_i r
    obtain ⟨r', rfl⟩ := List.head?_eq_some_iff.mp (hhyphen r rfl)
    rfl
  · rfl

/-- Two characters with a hyphen between them are a range. -/
theorem takeRange?_range (ha : a.IsSafe) (hb : b.IsSafe) (hhyphen : b ≠ .plain '-')
    (hle : a.char ≤ b.char) (rest : List Char) :
    takeRange? .plain (a.pattern ++ '-' :: (b.pattern ++ rest)) =
      some (.range a.char b.char, rest) := by
  obtain ⟨c, r, hpattern, hspecial, hminus⟩ := b.exists_cons_pattern
  have hread := takeMember?_pattern hb rest
  have hclose : (c == ']' || c == '-') = false := by
    rw [Bool.or_eq_false_iff, beq_eq_false_iff_ne, beq_eq_false_iff_ne]
    exact ⟨by rintro rfl; exact hspecial (by decide), fun h => hhyphen (hminus h)⟩
  rw [takeRange?, takeMember?_pattern ha]
  rw [hpattern, List.cons_append] at hread ⊢
  simp only [Flags.plain, skip_false, Option.bind_eq_bind, Option.bind_some, hclose,
    Bool.false_eq_true, if_false] at hread ⊢
  rw [hread]
  simp [hle]

/-! ### Members of the pattern -/

/-- What begins with no operator is read as a member or a range. -/
theorem takeMembers?_step (left : Option (SetOp × Members)) (hne : cs ≠ [])
    (hfirst : ∀ c ∈ cs.head?, c ∉ ['[', ']', '&', '~']) (hhyphens : ∀ r, cs ≠ '-' :: '-' :: r)
    (hrange : takeRange? .plain cs = some (s, rest)) :
    takeMembers? .plain (fuel + 1) left m cs = takeMembers? .plain fuel left (m.add s 0) rest := by
  rw [takeMembers?]
  simp only [Flags.plain, skip_false] at hrange ⊢
  split
  · exact absurd rfl hne
  · exact absurd (by decide) (hfirst ']' rfl)
  · exact absurd (by decide) (hfirst '[' rfl)
  · exact absurd (by decide) (hfirst '&' rfl)
  · exact absurd rfl (hhyphens _)
  · exact absurd (by decide) (hfirst '~' rfl)
  · rw [hrange]

/-- What the pattern of a class may begin with, with regard to the signs that would be read as
something else. -/
theorem head?_patterns (chars : List ClassChar) (rest : List Char) :
    ∀ c ∈ (chars.flatMap ClassChar.pattern ++ ']' :: rest).head?,
      c ∉ ['[', '&', '~', '^'] ∧ (c = '-' → ∃ r, chars = .plain '-' :: r) ∧
        (c = ']' → chars = []) := by
  intro c hc
  cases chars with
  | nil =>
      cases Option.mem_def.mp hc
      exact ⟨by decide, nofun, fun _ => rfl⟩
  | cons a chars =>
      obtain ⟨d, r, hpattern, hspecial, hminus⟩ := a.exists_cons_pattern
      rw [List.flatMap_cons, hpattern] at hc
      cases Option.mem_def.mp hc
      refine ⟨fun h => hspecial (by simp_all), fun h => ⟨chars, by rw [hminus h]⟩, ?_⟩
      rintro rfl
      exact absurd (by decide) hspecial

/-- Without the first character, no two hyphens stand together either. -/
theorem HyphensApart.tail (h : HyphensApart (a :: chars)) : HyphensApart chars :=
  List.IsChain.tail h

/-- A hyphen does not follow a hyphen. -/
theorem HyphensApart.ne (h : HyphensApart (a :: b :: chars)) (hb : b = .plain '-') :
    a ≠ .plain '-' := by
  intro ha
  exact (List.isChain_cons_cons.mp h).1 ⟨ha, hb⟩

/-- A member or range that the pattern goes on with is read, since no operator stands there. -/
theorem takeMembers?_cons {more : List Char} (hhyphens : HyphensApart (a :: chars))
    (hrange : takeRange? .plain (a.pattern ++ (chars.flatMap ClassChar.pattern ++ ']' :: rest)) =
      some (s, more)) :
    takeMembers? .plain (fuel + 1) none m
        (a.pattern ++ (chars.flatMap ClassChar.pattern ++ ']' :: rest)) =
      takeMembers? .plain fuel none (m.add s 0) more := by
  obtain ⟨c, r, hpattern, hspecial, hminus⟩ := a.exists_cons_pattern
  refine takeMembers?_step none ?_ ?_ ?_ hrange
  · rw [hpattern]
    exact List.cons_ne_nil _ _
  · intro d hd
    rw [hpattern] at hd
    cases Option.mem_def.mp hd
    exact fun h => hspecial (by simp_all)
  · intro r' hr'
    -- The first hyphen would be a character by itself, and so would the second.
    have ha : a = .plain '-' := by
      rw [hpattern] at hr'
      exact hminus (List.cons.inj hr').1
    subst ha
    have htail : chars.flatMap ClassChar.pattern ++ ']' :: rest = '-' :: r' := (List.cons.inj hr').2
    obtain ⟨chars', rfl⟩ := (head?_patterns chars rest '-' (by rw [htail]; rfl)).2.1 rfl
    exact hhyphens.ne rfl rfl

/-- **Members.** The members of a class are read as its characters and ranges. -/
theorem takeMembers?_chars (hsafe : ∀ a ∈ chars, a.IsSafe) (hhyphens : HyphensApart chars)
    (hordered : ∀ r ∈ ranges chars, r.1 ≤ r.2) (hfuel : chars.length < fuel) (rest : List Char) :
    ∃ m', takeMembers? .plain fuel none m (chars.flatMap ClassChar.pattern ++ ']' :: rest) =
        some (m', rest) ∧ m'.depth = m.depth ∧
      ∀ c, m'.set.mem c = (m.set.mem c || inRanges (ranges chars) c) := by
  fun_induction ranges chars generalizing m fuel with
  | case1 a b r ih =>
      obtain ⟨k, rfl⟩ : ∃ k, fuel = k + 1 := Nat.exists_eq_add_of_le' (by omega)
      have hb : b ≠ .plain '-' := fun hb => hhyphens.tail.ne hb rfl
      have hrange := takeRange?_range (hsafe a (by simp)) (hsafe b (by simp)) hb
        (hordered (a.char, b.char) List.mem_cons_self)
        (r.flatMap ClassChar.pattern ++ ']' :: rest)
      obtain ⟨m', hread, hdepth, hmem⟩ := ih (m := m.add (.range a.char b.char) 0)
        (fun d hd => hsafe d (by simp [hd])) hhyphens.tail.tail.tail
        (fun d hd => hordered d (List.mem_cons_of_mem _ hd))
        (show r.length < k by simp only [List.length_cons] at hfuel; omega)
      refine ⟨m', ?_, ?_, fun c => ?_⟩
      · rw [List.flatMap_cons, List.append_assoc, ← hread]
        refine takeMembers?_cons hhyphens ?_
        rw [List.flatMap_cons, List.flatMap_cons, List.append_assoc, List.append_assoc]
        exact hrange
      · rw [hdepth]
        simp [Members.add]
      · rw [hmem]
        simp [Members.add, CharSet.mem, inRanges, Bool.or_assoc]
  | case2 a r hapart ih =>
      obtain ⟨k, rfl⟩ : ∃ k, fuel = k + 1 := Nat.exists_eq_add_of_le' (by omega)
      have hrange : takeRange? .plain (a.pattern ++ (r.flatMap ClassChar.pattern ++ ']' :: rest)) =
          some (.single a.char, r.flatMap ClassChar.pattern ++ ']' :: rest) := by
        refine takeRange?_single (hsafe a List.mem_cons_self) (by simp) fun r' hr' => ?_
        obtain ⟨chars', rfl⟩ := (head?_patterns r rest '-' (by rw [hr']; rfl)).2.1 rfl
        cases chars' with
        | nil =>
            obtain rfl := (List.cons.inj hr').2
            rfl
        | cons b chars' => exact absurd rfl (hapart b chars')
      obtain ⟨m', hread, hdepth, hmem⟩ := ih (m := m.add (.single a.char) 0)
        (fun d hd => hsafe d (by simp [hd])) hhyphens.tail
        (fun d hd => hordered d (List.mem_cons_of_mem _ hd))
        (show r.length < k by simp only [List.length_cons] at hfuel; omega)
      refine ⟨m', ?_, ?_, fun c => ?_⟩
      · rw [List.flatMap_cons, List.append_assoc, ← hread]
        exact takeMembers?_cons hhyphens hrange
      · rw [hdepth]
        simp [Members.add]
      · rw [hmem]
        simp [Members.add, CharSet.mem, CharSet.single, inRanges, Bool.or_assoc]
  | case3 =>
      obtain ⟨k, rfl⟩ : ∃ k, fuel = k + 1 := Nat.exists_eq_add_of_le' (by omega)
      exact ⟨m, rfl, rfl, fun c => (Bool.or_false _).symm⟩

/-! ### The class of the pattern -/

/-- A character that no hyphen follows is a range by itself. -/
theorem ranges_cons (h : ∀ r, chars ≠ .plain '-' :: r) :
    ranges (a :: chars) = (a.char, a.char) :: ranges chars := by
  rw [ranges]
  intro b r hr
  exact absurd hr (h _)

/-- Hyphens at the front are taken apart from the other members, but only one can stand there. -/
theorem exists_takeFront_eq (hne : chars ≠ []) (hhyphens : HyphensApart chars) (n : Nat)
    (rest : List Char) :
    ∃ front left, takeFront .plain n .none (chars.flatMap ClassChar.pattern ++ ']' :: rest) =
        (front, left.flatMap ClassChar.pattern ++ ']' :: rest) ∧
      left <:+ chars ∧ front.depth = 0 ∧ (∀ r ∈ ranges left, r ∈ ranges chars) ∧
      ∀ c, (front.set.mem c || inRanges (ranges left) c) = inRanges (ranges chars) c := by
  have hkeep (m : Members) (n : Nat) (left : List ClassChar) (hleft : ∀ r, left ≠ .plain '-' :: r)
      (hcount : left = [] → m.count ≠ 0) :
      takeFront .plain n m (left.flatMap ClassChar.pattern ++ ']' :: rest) =
        (m, left.flatMap ClassChar.pattern ++ ']' :: rest) := by
    have hhead := head?_patterns left rest
    generalize left.flatMap ClassChar.pattern ++ ']' :: rest = text at hhead ⊢
    cases n with
    | zero => rfl
    | succ n =>
        unfold takeFront
        split
        · obtain ⟨r, hr⟩ := (hhead '-' rfl).2.1 rfl
          exact absurd hr (hleft r)
        · rw [if_neg (by simpa using hcount ((hhead ']' rfl).2.2 rfl))]
        · rfl
  by_cases hfirst : ∃ r, chars = .plain '-' :: r
  · obtain ⟨r, rfl⟩ := hfirst
    have hr : ∀ r', r ≠ .plain '-' :: r' := by
      rintro r' rfl
      exact hhyphens.ne rfl rfl
    cases n with
    | zero => exact ⟨.none, _, rfl, List.suffix_refl _, rfl, fun _ => id, fun c => Bool.false_or _⟩
    | succ n =>
        refine ⟨Members.none.add (.single '-') 0, r, ?_, List.suffix_cons _ _, rfl, ?_, fun c => ?_⟩
        · exact hkeep _ n r hr fun _ => by decide
        · rw [ranges_cons hr]
          exact fun d hd => List.mem_cons_of_mem _ hd
        · rw [ranges_cons hr]
          simp [Members.add, Members.none, CharSet.mem, CharSet.single, inRanges, ClassChar.char]
  · exact ⟨.none, chars, hkeep _ n chars (fun r hr => hfirst ⟨r, hr⟩) fun hnil => absurd hnil hne,
      List.suffix_refl _, rfl, fun _ => id, fun c => Bool.false_or _⟩

/-- A class is read by its front, its members and its closing bracket. -/
theorem takeClass?_step {text left : List Char} {front : Members} (sign : Bool)
    (htext : text.head? ≠ some '^')
    (hfront : takeFront .plain text.length .none text = (front, left))
    (hread : takeMembers? .plain fuel none front left = some (m, rest)) :
    takeClass? .plain (fuel + 1) ((if sign then ['^'] else []) ++ text) =
      some ((if sign then .compl m.set else m.set, m.joinedDepth + 1), rest) := by
  have hfold : Flags.plain.foldSet m.set = m.set := rfl
  cases sign with
  | true =>
      rw [takeClass?]
      simp only [Flags.plain, skip_false, if_true, List.singleton_append] at hfront hread ⊢
      rw [hfront]
      simp only [hread]
      rfl
  | false =>
      have hnone : ∀ r, text ≠ '^' :: r := by
        rintro r rfl
        exact htext rfl
      simp only [Flags.plain] at hfront hread ⊢
      simp only [Bool.false_eq_true, if_false, List.nil_append, takeClass?, skip_false, hfront,
        hread]
      rfl

/-- **The class.** With a sign in front or without, the class is read as the set of its ranges or of
all other characters. -/
theorem takeClass?_chars (hne : chars ≠ []) (hsafe : ∀ a ∈ chars, a.IsSafe)
    (hhyphens : HyphensApart chars) (hordered : ∀ r ∈ ranges chars, r.1 ≤ r.2)
    (hfuel : chars.length < fuel) (sign : Bool) (rest : List Char) :
    ∃ s depth, takeClass? .plain (fuel + 1) ((if sign then ['^'] else []) ++
        (chars.flatMap ClassChar.pattern ++ ']' :: rest)) = some ((s, depth), rest) ∧
      depth ≤ 2 ∧ ∀ c, s.mem c = (inRanges (ranges chars) c != sign) := by
  obtain ⟨front, left, hfront, hsuffix, hdepth, hsub, hset⟩ := exists_takeFront_eq hne hhyphens
    (chars.flatMap ClassChar.pattern ++ ']' :: rest).length rest
  obtain ⟨m, hread, hm, hmem⟩ := takeMembers?_chars (m := front)
    (fun a ha => hsafe a (hsuffix.subset ha)) (hhyphens.suffix hsuffix)
    (fun r hr => hordered r (hsub r hr)) (Nat.lt_of_le_of_lt hsuffix.length_le hfuel) rest
  have hhead : (chars.flatMap ClassChar.pattern ++ ']' :: rest).head? ≠ some '^' := fun h =>
    (head?_patterns chars rest '^' h).1 (by decide)
  refine ⟨_, _, takeClass?_step sign hhead hfront hread, ?_, fun c => ?_⟩
  · rw [Members.joinedDepth, hm, hdepth]
    split <;> omega
  · cases sign with
    | true => rw [if_pos rfl, CharSet.mem, hmem, hset, Bool.bne_true]
    | false => rw [if_neg Bool.false_ne_true, hmem, hset, Bool.bne_false]

end Glob

end Deferral

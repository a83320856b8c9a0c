import Deferral.Proofs.Pattern.ClassPatterns

/-!
# Classes of globs

What a class stands for can be told from what is between its brackets: a sign, if there is one,
turns it around, and what follows are characters and ranges. The matcher of a glob that is one class
takes the texts of one character that the class stands for, under two provisos: behind a backslash
only characters stand that a regular expression takes for themselves there, and no two hyphens stand
next to each other.

## Main results

* `matchesOne_class` — the matcher of a class takes what the class stands for;
* `matchesOne_escape_iff` — the characters that are taken for themselves behind a backslash;
* `classes_faithful` — both together;
* `not_matchesOne_class` — neither proviso can be left out.
-/

namespace Deferral

open Regex

namespace Glob

/-! ### What a class stands for -/

/-- Whether a class has a sign in front that turns it around. -/
def hasSign (body : List Char) : Bool := body.head? == some '^' || body.head? == some '!'

/-- What stands between the brackets without the sign. -/
def afterSign (body : List Char) : List Char := if hasSign body then body.tail else body

/-- The characters of a class without its sign. -/
def classMembers (body : List Char) : List ClassChar := classChars (afterSign body)

/-- Whether a class stands for a character. -/
def classAccepts (body : List Char) (c : Char) : Bool :=
  inRanges (ranges (classMembers body)) c != hasSign body

/-- A glob is a matcher, and its keys are the texts of one character that is accepted. -/
def MatchesOne (glob : String) (accepts : Char → Bool) : Prop :=
  ∃ m, KeyMatcher.parse? (.text glob) none = some m ∧
    ∀ key, m.isMatch key = true ↔ ∃ c, key.toList = [c] ∧ accepts c = true

variable {c : Char} {cs body rest : List Char} {s : CharSet}

/-- The pattern of a class is a bracket, the sign if there is one, and the members. -/
theorem classPattern_eq (body : List Char) :
    classPattern body = '[' :: ((if hasSign body then ['^'] else []) ++
      ((classMembers body).flatMap ClassChar.pattern ++ [']'])) := by
  unfold classPattern
  split
  · simp [hasSign, classMembers, afterSign, memberPattern_eq]
  · simp [hasSign, classMembers, afterSign, memberPattern_eq]
  · rename_i hcaret hmark
    have hsign : hasSign body = false := by
      cases body with
      | nil => rfl
      | cons c r =>
          have hfirst : c ≠ '^' ∧ c ≠ '!' :=
            ⟨fun h => hcaret r (h ▸ rfl), fun h => hmark r (h ▸ rfl)⟩
          simpa [hasSign] using hfirst
    rw [classMembers, afterSign, hsign, memberPattern_eq]
    rfl

/-! ### The matcher -/

/-- What stands before the closing bracket of a class, and what follows it. -/
theorem eq_of_takeBody? {front : Bool} (h : takeBody? front cs = some (body, rest)) :
    cs = body ++ ']' :: rest := by
  fun_induction takeBody? front cs generalizing body rest with
  | case1 => cases h
  | case2 => cases h
  | case3 front c hslash d r ih =>
      obtain ⟨⟨body', rest'⟩, htaken, hpair⟩ := Option.map_eq_some_iff.mp h
      cases hpair
      rw [ih htaken]
      rfl
  | case4 front c r hslash hclose =>
      cases h
      rw [Bool.and_eq_true, beq_iff_eq] at hclose
      rw [hclose.1]
      rfl
  | case5 front c r hslash hclose ih =>
      obtain ⟨⟨body', rest'⟩, htaken, hpair⟩ := Option.map_eq_some_iff.mp h
      cases hpair
      rw [ih htaken]
      rfl

/-- A glob without items is the empty text. -/
theorem eq_nil_of_items_eq_nil (h : items cs = []) : cs = [] := by
  fun_induction items cs with
  | case1 => rfl
  | _ => cases h

/-- A glob that is one class is that class between brackets. -/
theorem eq_of_items_eq_members (h : items cs = [.members body]) : cs = '[' :: (body ++ [']']) := by
  fun_induction items cs with
  | case6 c r hstar hquestion hslash hbracket body' rest htaken hshorter ih =>
      obtain ⟨hbody, hrest⟩ := List.cons.inj h
      cases hbody
      rw [beq_iff_eq.mp hbracket, eq_of_takeBody? htaken, eq_nil_of_items_eq_nil hrest]
  | case1 => cases h
  | _ => cases (List.cons.inj h).1

/-- A class is read as one set. -/
theorem readParts_class {n : Nat} {b : Builder} (hplain : b.flags = .plain) (r : List Char) :
    readParts (n + 1) b ('[' :: r) =
      (takeClass? .plain (r.length + 1) r).bind fun ((s, depth), rest) =>
        readParts n (b.push ⟨.set s, depth, true⟩) rest := by
  rw [readParts]
  simp only [hplain, Flags.plain, skip_false]
  rfl

/-- One set between the start and the end of a text. -/
def oneOf (s : CharSet) : Regex := .seq (.look .textStart) (.seq (.set s) (.look .textEnd))

/-- A pattern of one class between anchors is read if the class is. -/
theorem parse?_of_takeClass? {r : List Char} {depth : Nat} (hdepth : depth ≤ 2)
    (h : takeClass? .plain (r.length + 1) r = some ((s, depth), ['$'])) :
    Regex.parse? .plain ('^' :: '[' :: r) = some (oneOf s) := by
  let opened := (Builder.start .plain).pushLeaf (.look .textStart)
  let filled := opened.push ⟨.set s, depth, true⟩
  have hread : readParts (r.length + 2) (.start .plain) ('^' :: '[' :: r) =
      some (filled.pushLeaf (.look .textEnd)) := by
    obtain ⟨d, r, rfl⟩ : ∃ d r', r = d :: r' := List.exists_cons_of_ne_nil (by rintro rfl; cases h)
    have hclass := readParts_class (n := (d :: r).length) (b := opened) rfl (d :: r)
    rw [h] at hclass
    exact hclass.trans (readParts_nil rfl)
  have hwhole : (filled.pushLeaf (.look .textEnd)).whole.depth ≤ maxDepth := by
    have hpieces : ∀ p ∈ [Piece.leaf (.look .textEnd), ⟨.set s, depth, true⟩,
        .leaf (.look .textStart)], p.depth ≤ 2 := by
      simpa [Piece.leaf] using hdepth
    exact Nat.le_trans (depth_sequence_le hpieces) (by decide)
  rw [Regex.parse?, List.length_cons, List.length_cons, hread]
  exact if_pos (decide_eq_true hwhole)

/-- One set between the start and the end matches the texts of one character of the set. -/
theorem isMatch_oneOf_iff : (oneOf s).isMatch cs = true ↔ ∃ c, cs = [c] ∧ s.mem c = true := by
  rw [isMatch_iff]
  constructor
  · rintro ⟨p, hp, q, _, ⟨rfl, hstart⟩, m, ⟨⟨c, hrest, hbefore⟩, hmem⟩, rfl, hend⟩
    obtain rfl := hp.eq_of_before_eq_none (Option.isNone_iff_eq_none.mp hstart)
    have hlast : q.rest = [] := by simpa [Look.holds] using hend
    rw [hlast] at hrest
    rw [hbefore] at hmem
    exact ⟨c, hrest, hmem⟩
  · rintro ⟨c, rfl, hmem⟩
    exact ⟨⟨none, [c]⟩, .refl, ⟨some c, []⟩, _, ⟨rfl, rfl⟩, _, ⟨Place.next_cons none c [], hmem⟩,
      rfl, rfl⟩

/-- No character of a class is lost in its pattern. -/
theorem length_le_flatMap_pattern (chars : List ClassChar) :
    chars.length ≤ (chars.flatMap ClassChar.pattern).length := by
  induction chars with
  | nil => exact Nat.le_refl _
  | cons a chars ih =>
      obtain ⟨c, r, hpattern, -⟩ := a.exists_cons_pattern
      rw [List.flatMap_cons, hpattern, List.length_append, List.length_cons, List.length_cons]
      omega

/-- The matcher of a class is the expression that is read from the pattern of the class. -/
theorem parse?_eq_of_classPattern {glob : String} {r : List Char}
    (hclass : items glob.toList = [.members body])
    (hpattern : classPattern body ++ ['$'] = '[' :: r) :
    KeyMatcher.parse? (.text glob) none =
      (Regex.parse? .plain ('^' :: '[' :: r)).map (.glob glob.toList) := by
  have hliteral : KeyMatcher.literalRegex? glob.toList = none := by
    rw [eq_of_items_eq_members hclass]
    rfl
  have hwhole : pattern glob.toList = '^' :: '[' :: r := by
    rw [pattern, hclass, ← hpattern]
    simp [GlobItem.pattern]
  have hscoped : KeyMatcher.scopedGlob (KeyMatcher.keyHead? none) glob.toList = glob.toList := rfl
  simp only [KeyMatcher.parse?, hliteral, hscoped, hwhole]

/-- A glob that is one closed class is a matcher, and its keys are the characters that the class
stands for, provided that it has members, that its ranges are in order, that behind each backslash
stands a character which stands for itself there, and that no two hyphens are next to each other. -/
theorem matchesOne_class {glob : String}
    (hclass : items glob.toList = [.members body]) (hmembers : classMembers body ≠ [])
    (hordered : ∀ r ∈ ranges (classMembers body), r.1 ≤ r.2)
    (hescapes : ∀ c, .escaped c ∈ classMembers body → Escape.isPlain c = true)
    (hhyphens : HyphensApart (classMembers body)) : MatchesOne glob (classAccepts body) := by
  have hsafe : ∀ a ∈ classMembers body, a.IsSafe := by
    intro a ha
    cases a with
    | plain c => exact ne_of_plain_mem_classChars ha
    | escaped c => exact hescapes c ha
  let r := (if hasSign body then ['^'] else []) ++
    ((classMembers body).flatMap ClassChar.pattern ++ [']', '$'])
  have hfuel : (classMembers body).length < r.length := by
    have hlength := length_le_flatMap_pattern (classMembers body)
    simp only [r, List.length_append, List.length_cons]
    omega
  obtain ⟨s, depth, hread, hdepth, hmem⟩ := takeClass?_chars hmembers hsafe hhyphens hordered hfuel
    (hasSign body) ['$']
  have hpattern : classPattern body ++ ['$'] = '[' :: r := by
    simp [classPattern_eq, r]
  refine ⟨.glob glob.toList (oneOf s), ?_, fun key => ?_⟩
  · rw [parse?_eq_of_classPattern hclass hpattern, parse?_of_takeClass? hdepth hread]
    rfl
  · rw [KeyMatcher.isMatch, isMatch_oneOf_iff]
    simp only [hmem]
    rfl

/-! ### Escapes with a meaning of their own -/

/-- The characters that name something else than themselves behind a backslash. -/
def namingChars : List Char :=
  ['x', 'u', 'U', 'p', 'P', 'd', 'D', 's', 'S', 'w', 'W', 'a', 'f', 't', 'n', 'r', 'v', 'A', 'z',
    'b', 'B', '<', '>']

/-- What stands neither for itself nor for something else is no escape. -/
theorem take?_eq_none (hplain : Escape.isPlain c = false)
    (hnamed : c ∉ namingChars) (rest : List Char) : Escape.take? false (c :: rest) = none := by
  rw [Escape.take?, hplain, if_neg Bool.false_ne_true]
  all_goals
    rintro rfl
    exact hnamed (by decide)

/-- A class of one character that does not stand for itself behind the backslash before it is no
expression, or is wrong about some character. -/
theorem exists_misread (hplain : Escape.isPlain c = false) :
    ∃ d, (Regex.parse? .plain ['^', '[', '\\', c, ']', '$']).all
      (fun r => r.isMatch [d] != (d == c)) = true := by
  by_cases hnamed : c ∈ namingChars
  · -- Each of them is wrong about itself or, if it names what the others are, about one of those.
    have hall : namingChars.all (fun c => ['q', c].any fun d =>
        (Regex.parse? .plain ['^', '[', '\\', c, ']', '$']).all
          (fun r => r.isMatch [d] != (d == c))) = true := by
      decide +kernel
    obtain ⟨d, -, hd⟩ := List.any_eq_true.mp (List.all_eq_true.mp hall c hnamed)
    exact ⟨d, hd⟩
  · have htake := take?_eq_none hplain hnamed [']', '$']
    have hclass : takeClass? .plain 5 ['\\', c, ']', '$'] = none := by
      simp [takeClass?, takeFront, takeMembers?, takeRange?, takeMember?, htake, Flags.plain]
    have hparse : Regex.parse? .plain ['^', '[', '\\', c, ']', '$'] = none := by
      have hread := readParts_class (n := 4)
        (b := (Builder.start .plain).pushLeaf (.look .textStart)) rfl ['\\', c, ']', '$']
      rw [List.length_cons, List.length_cons, List.length_cons, List.length_singleton,
        hclass] at hread
      exact congrArg (·.bind (·.finish?)) hread
    exact ⟨c, by rw [hparse]; rfl⟩

/-- An escaped character accepts itself only. -/
theorem classAccepts_escaped (c : Char) : classAccepts ['\\', c] = (· == c) := by
  have hmembers : classMembers ['\\', c] = [.escaped c] := rfl
  funext d
  rw [Bool.eq_iff_iff, beq_iff_eq, ← CharSet.mem_single]
  simp [classAccepts, hmembers, ranges, inRanges, hasSign, CharSet.single, CharSet.mem,
    ClassChar.char]

/-- **Escapes.** A class of one character with a backslash before it is matched by that character
alone exactly if the character stands for itself there. -/
theorem matchesOne_escape_iff (c : Char) :
    MatchesOne (String.ofList ['[', '\\', c, ']']) (· == c) ↔ Escape.isPlain c = true := by
  have hclass : items (String.ofList ['[', '\\', c, ']']).toList = [.members ['\\', c]] := by
    simp [items, takeBody?]
  constructor
  · rintro ⟨m, hm, hkeys⟩
    by_contra hplain
    rw [Bool.not_eq_true] at hplain
    obtain ⟨d, hd⟩ := exists_misread hplain
    rw [parse?_eq_of_classPattern (r := ['\\', c, ']', '$']) hclass rfl] at hm
    obtain ⟨r, hr, rfl⟩ := Option.map_eq_some_iff.mp hm
    rw [hr, Option.all_some, bne_iff_ne] at hd
    refine hd (Bool.eq_iff_iff.mpr ?_)
    have hkey := hkeys (String.ofList [d])
    rw [KeyMatcher.isMatch, String.toList_ofList] at hkey
    simpa using hkey
  · intro hplain
    have hmembers : classMembers ['\\', c] = [.escaped c] := rfl
    rw [← classAccepts_escaped]
    refine matchesOne_class hclass (by simp [hmembers]) ?_ ?_ ?_
    · simp [hmembers, ranges]
    · simpa [hmembers] using hplain
    · exact List.isChain_singleton _

/-! ### Both together -/

/-- **Classes.** A closed class with members and with its ranges in order is matched by the
characters that it stands for, if behind its backslashes are only characters which stand for
themselves there and no two hyphens are next to each other. A class of one character behind a
backslash is matched by that character only if it stands for itself there. -/
theorem classes_faithful (glob : String) (body : List Char)
    (hclass : items glob.toList = [.members body]) (hmembers : classMembers body ≠ [])
    (hordered : ∀ r ∈ ranges (classMembers body), r.1 ≤ r.2)
    (hescapes : ∀ c, .escaped c ∈ classMembers body → Escape.isPlain c = true)
    (hhyphens : HyphensApart (classMembers body)) :
    MatchesOne glob (classAccepts body) ∧
      ∀ c, MatchesOne (String.ofList ['[', '\\', c, ']']) (· == c) ↔ Escape.isPlain c = true :=
  ⟨matchesOne_class hclass hmembers hordered hescapes hhyphens, matchesOne_escape_iff⟩

/-- Every character but a range of three and an escaped hyphen. -/
theorem classes_faithful_negated :
    let body := "^a-c\\-x".toList
    items "[^a-c\\-x]".toList = [.members body] ∧ MatchesOne "[^a-c\\-x]" (classAccepts body) ∧
      classAccepts body 'd' = true ∧ classAccepts body 'b' = false ∧
      classAccepts body '-' = false := by
  intro body
  have hclass : items "[^a-c\\-x]".toList = [.members body] := by
    simp [items, takeBody?, body]
  have hescapes : ∀ c, .escaped c ∈ classMembers body → Escape.isPlain c = true := by
    intro c hc
    have hmember : c = '-' := by
      simpa [body, classMembers, afterSign, hasSign, classChars] using hc
    rw [hmember]
    decide
  exact ⟨hclass, (classes_faithful _ body hclass (by decide) (by decide) hescapes (by decide)).1,
    by decide, by decide, by decide⟩

/-- Neither proviso can be left out: a letter behind a backslash may name a class of characters, and
two hyphens take the members behind them away from those before. -/
theorem not_matchesOne_class :
    (¬ ∀ (glob : String) (body : List Char), items glob.toList = [.members body] →
      classMembers body ≠ [] → (∀ r ∈ ranges (classMembers body), r.1 ≤ r.2) →
      HyphensApart (classMembers body) → MatchesOne glob (classAccepts body)) ∧
      ¬ ∀ (glob : String) (body : List Char), items glob.toList = [.members body] →
        classMembers body ≠ [] → (∀ r ∈ ranges (classMembers body), r.1 ≤ r.2) →
        (∀ c, .escaped c ∈ classMembers body → Escape.isPlain c = true) →
        MatchesOne glob (classAccepts body) := by
  constructor
  · intro h
    have hdigit := h (String.ofList ['[', '\\', 'd', ']']) ['\\', 'd'] (by simp [items, takeBody?])
      (by decide) (by decide) (by decide)
    rw [classAccepts_escaped, matchesOne_escape_iff] at hdigit
    exact absurd hdigit (by decide)
  · intro h
    have hclass : items "[+--]".toList = [.members "+--".toList] := by
      simp [items, takeBody?]
    obtain ⟨m, hm, hkeys⟩ := h "[+--]" "+--".toList hclass (by decide) (by decide)
      (by simp [classMembers, afterSign, hasSign, classChars])
    rw [parse?_eq_of_classPattern (r := "+--]$".toList) hclass rfl] at hm
    have hregex : (Regex.parse? .plain ('^' :: '[' :: "+--]$".toList)).map (·.isMatch [',']) =
        some false := by
      decide
    obtain ⟨r, hr, rfl⟩ := Option.map_eq_some_iff.mp hm
    rw [hr] at hregex
    have hcomma := (hkeys ",").mpr ⟨',', rfl, by decide⟩
    exact absurd (Option.some.inj hregex) (by simpa [KeyMatcher.isMatch] using hcomma)

end Glob

end Deferral

import Deferral.Pattern.Matcher
import Deferral.Proofs.Regex.Language
import Mathlib.Data.List.Forall2

/-!
# What a glob matches

A glob without classes is matched the way it reads: its elements take the text from left to right,
and a star and a question mark take no line feed. The pattern that is written for such a glob is
always a regular expression, and that matches the same texts.

## Main results

* `exists_parse?_pattern` — the pattern of a glob is read as pieces for its elements;
* `exists_regex_accepts` — without classes it matches the texts that the glob stands for.
-/

namespace Deferral

open Regex

/-- Whether a text has a property, or what is left of it after some characters that are no line
feeds. -/
def Glob.afterRun (p : List Char → Bool) : List Char → Bool
  | [] => p []
  | d :: cs => p (d :: cs) || (d != '\n' && afterRun p cs)

/-- Whether a text is what the elements of a glob stand for, one after another. Classes are left
out. -/
def Glob.accepts : List GlobItem → List Char → Bool
  | [], cs => cs.isEmpty
  | .anyRun :: is, cs => afterRun (accepts is) cs
  | .literal c :: is, d :: cs => d == c && accepts is cs
  | .anyChar :: is, d :: cs => d != '\n' && accepts is cs
  | _ :: _, _ => false

/-- The characters that a star and a question mark stand for. -/
def Glob.dot : CharSet := .compl (.single '\n')

/-- The expression that an element is read as. Classes are left out. -/
def GlobItem.regex : GlobItem → Regex
  | anyRun => .star (.set Glob.dot)
  | anyChar => .set Glob.dot
  | literal c => .set (.single c)
  | members _ => .set .none

/-- A glob that has no classes among its elements. -/
def Glob.ClassFree (is : List GlobItem) : Prop := ∀ body, GlobItem.members body ∉ is

namespace Regex

variable {fuel : Nat} {b : Builder} {c : Char} {cs rest : List Char} {p q : Place}

/-! ### Expressions one after another -/

/-- Whether expressions, one after another, lead from one place to another. -/
def LeadAll : List Regex → Place → Place → Prop
  | [], p, q => q = p
  | r :: rs, p, q => ∃ m, r.Leads p m ∧ LeadAll rs m q

/-- Two sequences of expressions lead to where the second ends. -/
theorem leadAll_append_iff {rs ss : List Regex} :
    LeadAll (rs ++ ss) p q ↔ ∃ m, LeadAll rs p m ∧ LeadAll ss m q := by
  induction rs generalizing p with
  | nil => simp [LeadAll]
  | cons r rs ih =>
      simp only [List.cons_append, LeadAll, ih]
      constructor
      · rintro ⟨m, hr, k, hrs, hss⟩
        exact ⟨k, ⟨m, hr, hrs⟩, hss⟩
      · rintro ⟨k, ⟨m, hr, hrs⟩, hss⟩
        exact ⟨m, hr, k, hrs, hss⟩

/-- A sequence of one expression leads where the expression does. -/
theorem leadAll_singleton_iff {r : Regex} : LeadAll [r] p q ↔ r.Leads p q := by
  simp [LeadAll]

/-- The expression of a sequence of pieces leads where they lead one after another. -/
theorem leads_foldl_iff {ps : List Piece} {last : Regex} :
    (ps.foldl (fun r q => q.regex.andThen r) last).Leads p q ↔
      LeadAll ((ps.reverse.map (·.regex)) ++ [last]) p q := by
  induction ps generalizing last with
  | nil => exact leadAll_singleton_iff.symm
  | cons piece ps ih =>
      rw [List.foldl_cons, ih, List.reverse_cons, List.map_append, leadAll_append_iff,
        leadAll_append_iff]
      simp only [leadAll_append_iff, List.map_cons, List.map_nil, leadAll_singleton_iff,
        leads_andThen_iff]
      constructor
      · rintro ⟨m, hps, k, hpiece, hlast⟩
        exact ⟨k, ⟨m, hps, hpiece⟩, hlast⟩
      · rintro ⟨k, ⟨m, hps, hpiece⟩, hlast⟩
        exact ⟨m, hps, k, hpiece, hlast⟩

/-- A sequence of pieces leads where its pieces lead one after another. -/
theorem leads_sequence_iff (pieces : List Piece) :
    (Piece.sequence pieces).regex.Leads p q ↔ LeadAll (pieces.reverse.map (·.regex)) p q := by
  match pieces with
  | [] => exact Iff.rfl
  | [piece] => exact leadAll_singleton_iff.symm
  | piece :: next :: ps =>
      have hsequence : (Piece.sequence (piece :: next :: ps)).regex =
          (next :: ps).foldl (fun r q => q.regex.andThen r) piece.regex := rfl
      rw [hsequence, leads_foldl_iff, List.reverse_cons (a := piece), List.map_append,
        List.map_singleton]

/-- A sequence is nested one deeper than its pieces. -/
theorem depth_sequence_le {pieces : List Piece} {n : Nat} (h : ∀ p ∈ pieces, p.depth ≤ n) :
    (Piece.sequence pieces).depth ≤ n + 1 := by
  have hfold (ps : List Piece) (d : Nat) (hd : d ≤ n) (hps : ∀ p ∈ ps, p.depth ≤ n) :
      ps.foldl (fun d q => max d q.depth) d ≤ n := by
    induction ps generalizing d with
    | nil => exact hd
    | cons p ps ih =>
        exact ih _ (Nat.max_le_of_le_of_le hd (hps p List.mem_cons_self))
          fun q hq => hps q (.tail _ hq)
  match pieces with
  | [] => exact Nat.zero_le _
  | [p] => exact Nat.le_succ_of_le (h p List.mem_cons_self)
  | p :: q :: ps =>
      exact Nat.succ_le_succ (hfold (q :: ps) p.depth (h p List.mem_cons_self)
        fun r hr => h r (.tail _ hr))

/-! ### Reading the pattern of a glob -/

/-- At the end of a pattern the reader has what it has read. -/
theorem readParts_nil (hb : b.flags = .plain) : readParts fuel b [] = some b := by
  cases fuel <;> simp [readParts, hb, Flags.plain]

/-- A character that is written for itself is read as itself. -/
theorem readParts_escaped (hb : b.flags = .plain) (c : Char) (rest : List Char) :
    readParts (fuel + 1) b (Glob.escaped c ++ rest) =
      readParts fuel (b.pushLeaf (.set (.single c))) rest := by
  obtain ⟨flags, pieces, branches, frames, names⟩ := b
  subst hb
  unfold Glob.escaped
  split
  · rename_i hmeta
    have hmember := List.mem_of_elem_eq_true hmeta
    simp only [List.mem_cons, List.not_mem_nil, or_false] at hmember
    rcases hmember with rfl | rfl | rfl | rfl | rfl | rfl | rfl | rfl | rfl | rfl | rfl | rfl |
      rfl | rfl | rfl | rfl | rfl | rfl <;> rfl
  · rename_i hmeta
    rw [List.singleton_append, readParts]
    simp only [Flags.plain, skip_false]
    split
    case h_13 => rfl
    all_goals exact absurd (by decide) hmeta

/-- A dot is read as the set of all characters but the line feed. -/
theorem readParts_dot (hb : b.flags = .plain) (rest : List Char) :
    readParts (fuel + 1) b ('.' :: rest) = readParts fuel (b.pushLeaf (.set Glob.dot)) rest := by
  obtain ⟨flags, pieces, branches, frames, names⟩ := b
  subst hb
  rfl

/-- A star after a dot, unless a question mark follows, which would be taken with it. -/
theorem readParts_dotStar (hb : b.flags = .plain) (hrest : rest.head? ≠ some '?') :
    readParts (fuel + 2) b ('.' :: '*' :: rest) =
      readParts fuel (b.push ⟨.star (.set Glob.dot), 1, true⟩) rest := by
  have hkeep : dropLazy rest = rest := by
    unfold dropLazy
    split
    · exact absurd rfl hrest
    · rfl
  obtain ⟨flags, pieces, branches, frames, names⟩ := b
  subst hb
  rw [readParts_dot rfl]
  exact congrArg (readParts fuel _) hkeep

end Regex

namespace Glob

variable {fuel : Nat} {b : Builder} {is : List GlobItem} {i : GlobItem} {cs rest glob : List Char}
  {before : Option Char} {c d : Char} {p q : Place}

/-- Without its first item, a glob has no classes either. -/
theorem ClassFree.tail (h : ClassFree (i :: is)) : ClassFree is :=
  fun body hmem => h body (.tail _ hmem)

/-- An element as a piece of a regular expression. -/
def piece (i : GlobItem) : Piece := ⟨i.regex, if i = .anyRun then 1 else 0, true⟩

/-- The piece of an item is hardly nested. -/
theorem depth_piece_le (i : GlobItem) : (piece i).depth ≤ 1 := by
  unfold piece
  split <;> simp

/-- The pattern of a glob does not begin with a question mark, which is always written with a
backslash. -/
theorem head?_patterns_ne (is : List GlobItem) (hrest : rest.head? ≠ some '?') :
    (is.flatMap GlobItem.pattern ++ rest).head? ≠ some '?' := by
  cases is with
  | nil => exact hrest
  | cons i is =>
      cases i with
      | literal c =>
          simp only [List.flatMap_cons, GlobItem.pattern, escaped]
          split
          · simp
          · rename_i hmeta
            rintro ⟨⟩
            exact hmeta rfl
      | members body =>
          rw [List.flatMap_cons, GlobItem.pattern]
          unfold classPattern
          split <;> simp
      | _ => simp [GlobItem.pattern]

/-- The pattern of an element is read as a piece with a property, whatever follows it, as long as
that is no question mark. -/
def IsReadAs (i : GlobItem) (P : Piece → Prop) : Prop :=
  ∀ (fuel : Nat) (b : Builder) (rest : List Char), b.flags = .plain → rest.head? ≠ some '?' →
    (i.pattern ++ rest).length ≤ fuel →
      ∃ p, P p ∧ ∃ fuel', rest.length ≤ fuel' ∧
        readParts fuel b (i.pattern ++ rest) = readParts fuel' (b.push p) rest

/-- The pattern of an element that is no class is read as the piece of the element. -/
theorem isReadAs_piece (hi : ∀ body, i ≠ .members body) : IsReadAs i (piece i = ·) := by
  intro fuel b rest hb hrest hfuel
  refine ⟨piece i, rfl, ?_⟩
  rw [List.length_append] at hfuel
  cases i with
  | anyRun =>
      obtain ⟨n, rfl⟩ : ∃ n, fuel = n + 2 := Nat.exists_eq_add_of_le' (by
        simp only [GlobItem.pattern, List.length_cons, List.length_nil] at hfuel
        omega)
      refine ⟨n, ?_, readParts_dotStar hb hrest⟩
      simp only [GlobItem.pattern, List.length_cons, List.length_nil] at hfuel
      omega
  | anyChar =>
      obtain ⟨n, rfl⟩ : ∃ n, fuel = n + 1 := Nat.exists_eq_add_of_le' (by
        simp only [GlobItem.pattern, List.length_cons, List.length_nil] at hfuel
        omega)
      refine ⟨n, ?_, readParts_dot hb rest⟩
      simp only [GlobItem.pattern, List.length_cons, List.length_nil] at hfuel
      omega
  | literal c =>
      have hone : 0 < (escaped c).length := by
        unfold escaped
        split <;> simp
      rw [GlobItem.pattern] at hfuel
      obtain ⟨n, rfl⟩ : ∃ n, fuel = n + 1 := Nat.exists_eq_add_of_le' (by omega)
      exact ⟨n, by omega, readParts_escaped hb c rest⟩
  | members body => exact absurd rfl (hi body)

/-- The patterns of elements are read as pieces one after another. -/
theorem readParts_patterns {P : GlobItem → Piece → Prop} (h : ∀ i ∈ is, IsReadAs i (P i))
    (hb : b.flags = .plain) (hrest : rest.head? ≠ some '?')
    (hfuel : (is.flatMap GlobItem.pattern ++ rest).length ≤ fuel) :
    ∃ ps, List.Forall₂ P is ps ∧ ∃ fuel', rest.length ≤ fuel' ∧
      readParts fuel b (is.flatMap GlobItem.pattern ++ rest) =
        readParts fuel' { b with pieces := ps.reverse ++ b.pieces } rest := by
  induction is generalizing fuel b with
  | nil => exact ⟨[], .nil, fuel, hfuel, rfl⟩
  | cons i is ih =>
      rw [List.flatMap_cons, List.append_assoc] at hfuel ⊢
      obtain ⟨p, hp, n, hn, hone⟩ :=
        h i List.mem_cons_self fuel b _ hb (head?_patterns_ne is hrest) hfuel
      obtain ⟨ps, hps, m, hm, hmore⟩ :=
        ih (b := b.push p) (fun j hj => h j (List.mem_cons_of_mem _ hj)) hb hn
      refine ⟨p :: ps, .cons hp hps, m, hm, hone.trans (hmore.trans ?_)⟩
      simp [Builder.push]

/-- Pieces between the start and the end of a text, the last first. -/
def bounded (ps : List Piece) : List Piece :=
  .leaf (.look .textEnd) :: (ps.reverse ++ [.leaf (.look .textStart)])

/-- The pieces that items are read as are nested no deeper than each of them may be. -/
theorem depth_le_of_forall₂ {P : GlobItem → Piece → Prop} {ps : List Piece}
    (h : List.Forall₂ P is ps) (hdepth : ∀ i p, P i p → p.depth ≤ 2) : ∀ p ∈ ps, p.depth ≤ 2 := by
  induction h with
  | nil => exact List.forall_mem_nil _
  | cons hp _ ih => exact List.forall_mem_cons.mpr ⟨hdepth _ _ hp, ih⟩

/-- **Reading.** The pattern of a glob is a regular expression if those of its elements are read as
pieces that are not nested deeply. -/
theorem exists_parse?_pattern {P : GlobItem → Piece → Prop}
    (h : ∀ i ∈ items glob, IsReadAs i (P i)) (hdepth : ∀ i p, P i p → p.depth ≤ 2) :
    ∃ ps, List.Forall₂ P (items glob) ps ∧
      Regex.parse? .plain (pattern glob) = some (Piece.sequence (bounded ps)).regex := by
  let opened := (Builder.start .plain).pushLeaf (.look .textStart)
  have hend : ['$'].head? ≠ some '?' := by simp
  obtain ⟨ps, hps, n, hn, hread⟩ := readParts_patterns (b := opened) h rfl hend (Nat.le_refl _)
  obtain ⟨k, rfl⟩ : ∃ k, n = k + 1 := Nat.exists_eq_add_of_le' hn
  let filled : Builder := { opened with pieces := ps.reverse ++ opened.pieces }
  have hclose : readParts (k + 1) filled ['$'] = some (filled.pushLeaf (.look .textEnd)) :=
    readParts_nil rfl
  have hall : readParts (pattern glob).length (.start .plain) (pattern glob) =
      some (filled.pushLeaf (.look .textEnd)) := hread.trans hclose
  have hshallow : ∀ p ∈ bounded ps, p.depth ≤ 2 := by
    intro p hp
    simp only [bounded, List.mem_cons, List.mem_append, List.mem_reverse, List.not_mem_nil,
      or_false] at hp
    rcases hp with rfl | hp | rfl
    · exact Nat.zero_le _
    · exact depth_le_of_forall₂ hps hdepth p hp
    · exact Nat.zero_le _
  have hwhole : (Piece.sequence (bounded ps)).depth ≤ maxDepth :=
    Nat.le_trans (depth_sequence_le hshallow) (by decide)
  refine ⟨ps, hps, ?_⟩
  rw [Regex.parse?, hall]
  exact if_pos (decide_eq_true hwhole)

/-- The pattern of a glob without classes is read as the pieces of its elements. -/
theorem parse?_pattern (h : ClassFree (items glob)) :
    Regex.parse? .plain (pattern glob) =
      some (Piece.sequence (bounded ((items glob).map piece))).regex := by
  obtain ⟨ps, hps, hparse⟩ := exists_parse?_pattern (P := fun i p => piece i = p)
    (fun i hi => isReadAs_piece fun body heq => h body (heq ▸ hi))
    (fun i p hp => hp ▸ Nat.le_succ_of_le (depth_piece_le i))
  have heq : (items glob).map piece = ps := by
    rw [← List.forall₂_eq_eq_eq, List.forall₂_map_left_iff]
    exact hps
  rw [hparse, heq]

/-! ### Matching -/

/-- A set of characters leads past the next character if that is in the set. -/
theorem leads_set_cons_iff {s : CharSet} :
    (Regex.set s).Leads ⟨before, d :: cs⟩ q ↔ s.mem d = true ∧ q = ⟨some d, cs⟩ := by
  rw [Leads, Place.next_cons_iff]
  constructor
  · rintro ⟨rfl, hd⟩
    exact ⟨hd, rfl⟩
  · rintro ⟨hd, rfl⟩
    exact ⟨rfl, hd⟩

/-- At the end of a text a set leads nowhere. -/
theorem not_leads_set_nil {s : CharSet} : ¬ (Regex.set s).Leads ⟨before, []⟩ q :=
  fun h => Place.not_next_nil h.1

/-- What follows one character of a set is matched after it. -/
theorem exists_set_cons_iff {s : CharSet} {P : Place → Prop} :
    (∃ m, (Regex.set s).Leads ⟨before, d :: cs⟩ m ∧ P m) ↔ s.mem d = true ∧ P ⟨some d, cs⟩ := by
  simp only [leads_set_cons_iff, and_assoc, exists_and_left, exists_eq_left]

/-- A dot accepts every character but the line feed. -/
theorem mem_dot : dot.mem d = (d != '\n') := by
  have h : (CharSet.single '\n').mem d = (d == '\n') := by
    rw [Bool.eq_iff_iff, CharSet.mem_single, beq_iff_eq]
  rw [dot, CharSet.mem, h, bne]

/-- What follows a star is matched where it stands, or after one more character that is no line
feed. -/
theorem exists_star_dot_cons_iff {P : Place → Prop} :
    (∃ m, (Regex.star (.set dot)).Leads ⟨before, d :: cs⟩ m ∧ P m) ↔
      P ⟨before, d :: cs⟩ ∨
        d ≠ '\n' ∧ ∃ m, (Regex.star (.set dot)).Leads ⟨some d, cs⟩ m ∧ P m := by
  constructor
  · rintro ⟨m, hstar, hm⟩
    rcases Relation.ReflTransGen.cases_head hstar with rfl | ⟨k, hfirst, hrest⟩
    · exact .inl hm
    · obtain ⟨hd, rfl⟩ := leads_set_cons_iff.mp hfirst
      rw [mem_dot, bne_iff_ne] at hd
      exact .inr ⟨hd, m, hrest, hm⟩
  · rintro (hm | ⟨hd, m, hstar, hm⟩)
    · exact ⟨_, .refl, hm⟩
    · have hfirst : (Regex.set dot).Leads ⟨before, d :: cs⟩ ⟨some d, cs⟩ :=
        leads_set_cons_iff.mpr ⟨by rw [mem_dot]; exact bne_iff_ne.mpr hd, rfl⟩
      exact ⟨m, .head hfirst hstar, hm⟩

/-- At the end of a text, any number of dots leads nowhere else. -/
theorem exists_star_dot_nil_iff {P : Place → Prop} :
    (∃ m, (Regex.star (.set dot)).Leads ⟨before, []⟩ m ∧ P m) ↔ P ⟨before, []⟩ := by
  constructor
  · rintro ⟨m, hstar, hm⟩
    rcases Relation.ReflTransGen.cases_head hstar with rfl | ⟨k, hfirst, -⟩
    · exact hm
    · exact absurd hfirst not_leads_set_nil
  · exact fun hm => ⟨_, .refl, hm⟩

/-- The expressions of elements lead to the end of a text exactly if the elements stand for the
text. -/
theorem exists_leadAll_iff (h : ClassFree is) :
    (∃ q, LeadAll (is.map GlobItem.regex ++ [.look .textEnd]) ⟨before, cs⟩ q) ↔
      accepts is cs = true := by
  induction is generalizing before cs with
  | nil =>
      simp only [List.map_nil, List.nil_append, leadAll_singleton_iff, Leads, Look.holds, accepts]
      cases cs <;> simp
  | cons i is ih =>
      have hrest : ∀ m : Place,
          (∃ q, LeadAll (is.map GlobItem.regex ++ [.look .textEnd]) m q) ↔
            accepts is m.rest = true := fun _ => ih h.tail
      have hfirst : (∃ q, LeadAll ((i :: is).map GlobItem.regex ++ [.look .textEnd])
            ⟨before, cs⟩ q) ↔
          ∃ m, i.regex.Leads ⟨before, cs⟩ m ∧ accepts is m.rest = true := by
        simp only [List.map_cons, List.cons_append, LeadAll, ← hrest]
        constructor
        · rintro ⟨q, m, hm, hq⟩
          exact ⟨m, hm, q, hq⟩
        · rintro ⟨m, hm, q, hq⟩
          exact ⟨q, m, hm, hq⟩
      rw [hfirst]
      cases i with
      | members body => exact absurd List.mem_cons_self (h body)
      | literal c =>
          cases cs with
          | nil => simp [GlobItem.regex, not_leads_set_nil, accepts]
          | cons d cs =>
              rw [GlobItem.regex, exists_set_cons_iff, CharSet.mem_single, accepts,
                Bool.and_eq_true, beq_iff_eq]
      | anyChar =>
          cases cs with
          | nil => simp [GlobItem.regex, not_leads_set_nil, accepts]
          | cons d cs =>
              rw [GlobItem.regex, exists_set_cons_iff, mem_dot, accepts, Bool.and_eq_true]
      | anyRun =>
          rw [GlobItem.regex, accepts]
          clear hfirst
          induction cs generalizing before with
          | nil => rw [exists_star_dot_nil_iff, afterRun]
          | cons d cs ihcs =>
              rw [exists_star_dot_cons_iff, afterRun, Bool.or_eq_true, Bool.and_eq_true,
                bne_iff_ne]
              exact or_congr_right (and_congr_right fun _ => ihcs)

/-- Pieces between the start and the end match a text if they lead from its start to its end. -/
theorem isMatch_bounded_iff (ps : List Piece) :
    (Piece.sequence (bounded ps)).regex.isMatch cs = true ↔
      ∃ q, LeadAll (ps.map (·.regex) ++ [.look .textEnd]) ⟨none, cs⟩ q := by
  have hpieces : (bounded ps).reverse.map (·.regex) =
      .look .textStart :: (ps.map (·.regex) ++ [.look .textEnd]) := by
    simp [bounded, Piece.leaf]
  rw [isMatch_iff]
  simp only [leads_sequence_iff, hpieces, LeadAll]
  -- The pattern begins where the text does.
  constructor
  · rintro ⟨p, hp, q, m, ⟨rfl, hstart⟩, hq⟩
    obtain rfl := hp.eq_of_before_eq_none (Option.isNone_iff_eq_none.mp hstart)
    exact ⟨q, hq⟩
  · rintro ⟨q, hq⟩
    exact ⟨⟨none, cs⟩, .refl, q, _, ⟨rfl, rfl⟩, hq⟩

/-- **Matching.** The pattern of a glob without classes matches the texts that its elements stand
for. -/
theorem exists_regex_accepts (h : ClassFree (items glob)) :
    ∃ r, Regex.parse? .plain (pattern glob) = some r ∧
      ∀ cs, r.isMatch cs = accepts (items glob) cs := by
  refine ⟨_, parse?_pattern h, fun cs => ?_⟩
  have hregex : ((items glob).map piece).map (·.regex) = (items glob).map GlobItem.regex := by
    simp [piece, Function.comp_def]
  rw [Bool.eq_iff_iff, isMatch_bounded_iff, hregex]
  exact exists_leadAll_iff h

end Glob

end Deferral

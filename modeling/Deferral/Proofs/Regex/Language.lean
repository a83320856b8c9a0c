import Deferral.Regex.Basic
import Mathlib.Logic.Relation

/-!
# What a regular expression matches

An expression leads from one place in a text to another if it takes the characters between them.
This is said by recursion on the expression and without the search, which goes through the text once
and keeps what is left to be matched. The search finds a match exactly if the expression leads
somewhere from some place of the text.

## Main results

* `matchesHere_iff` — an expression matches without a character if it leads from a place to itself;
* `exists_leads_step_iff` — what is left after a character leads where the expression leads beyond
  it;
* `isMatch_iff` — the search is right.
-/

namespace Deferral

/-- A place in a text: the character before it, if there is one, and the text from it on. -/
@[ext]
structure Place where
  before : Option Char
  rest : List Char

namespace Place

variable {p q : Place} {b : Option Char} {c : Char} {cs : List Char}

/-- The second place is the one after the first. -/
def Next (p q : Place) : Prop := ∃ c, p.rest = c :: q.rest ∧ q.before = some c

/-- The second place is the first or comes after it. -/
def Reaches : Place → Place → Prop := Relation.ReflTransGen Next

/-- The place behind the next character. -/
theorem next_cons (b : Option Char) (c : Char) (cs : List Char) :
    Next ⟨b, c :: cs⟩ ⟨some c, cs⟩ := ⟨c, rfl, rfl⟩

/-- There is only one place behind the next character. -/
theorem next_cons_iff : Next ⟨b, c :: cs⟩ q ↔ q = ⟨some c, cs⟩ := by
  constructor
  · rintro ⟨d, hrest, hbefore⟩
    obtain ⟨rfl, hcs⟩ := List.cons.inj hrest
    exact Place.ext hbefore hcs.symm
  · rintro rfl
    exact next_cons b c cs

/-- There is none at the end. -/
theorem not_next_nil : ¬ Next ⟨b, []⟩ q := by
  rintro ⟨c, hrest, -⟩
  exact absurd hrest (List.cons_ne_nil _ _).symm

/-- The rest of a text gets no longer. -/
theorem Reaches.length_le (h : Reaches p q) : q.rest.length ≤ p.rest.length := by
  induction h with
  | refl => exact Nat.le_refl _
  | tail _ hnext ih =>
      obtain ⟨c, hrest, -⟩ := hnext
      rw [hrest, List.length_cons] at ih
      omega

/-- From the end of a text no other place is reached. -/
theorem reaches_nil_iff : Reaches ⟨b, []⟩ q ↔ q = ⟨b, []⟩ := by
  constructor
  · intro h
    rcases h.cases_head with rfl | ⟨m, hnext, -⟩
    · rfl
    · exact absurd hnext not_next_nil
  · rintro rfl
    exact .refl

/-- From any other place it is reached what is reached from the next one. -/
theorem reaches_cons_iff :
    Reaches ⟨b, c :: cs⟩ q ↔ q = ⟨b, c :: cs⟩ ∨ Reaches ⟨some c, cs⟩ q := by
  constructor
  · intro h
    rcases h.cases_head with rfl | ⟨m, hnext, hrest⟩
    · exact .inl rfl
    · exact .inr (next_cons_iff.mp hnext ▸ hrest)
  · rintro (rfl | h)
    · exact .refl
    · exact h.head (next_cons b c cs)

/-- A place is not reached from the next one. -/
theorem not_reaches_back : ¬ Reaches ⟨some c, cs⟩ ⟨b, c :: cs⟩ := by
  intro h
  have hle : (c :: cs).length ≤ cs.length := h.length_le
  rw [List.length_cons] at hle
  omega

/-- Places that reach each other are the same. -/
theorem Reaches.antisymm (hpq : Reaches p q) (hqp : Reaches q p) : p = q := by
  rcases hpq.cases_head with rfl | ⟨m, ⟨c, hrest, -⟩, hm⟩
  · rfl
  · have hback : Reaches m p := hm.trans hqp
    have hle := hback.length_le
    rw [hrest, List.length_cons] at hle
    omega

/-- Only the first place of a text has no character before it. -/
theorem Reaches.eq_of_before_eq_none (h : Reaches p q) (hq : q.before = none) : q = p := by
  rcases h.cases_tail with rfl | ⟨m, -, c, -, hbefore⟩
  · rfl
  · rw [hq] at hbefore
    exact absurd hbefore nofun

end Place

namespace Regex

open Place

variable {r : Regex} {p q : Place} {b : Option Char} {c : Char} {cs : List Char}

/-- Whether an expression takes the characters from one place to another. -/
def Leads : Regex → Place → Place → Prop
  | empty, p, q => q = p
  | set s, p, q => Next p q ∧ q.before.any s.mem = true
  | look l, p, q => q = p ∧ l.holds p.before p.rest.head? = true
  | seq a b, p, q => ∃ m, a.Leads p m ∧ b.Leads m q
  | alt a b, p, q => a.Leads p q ∨ b.Leads p q
  | star a, p, q => Relation.ReflTransGen a.Leads p q

/-- An expression leads forward. -/
theorem Leads.reaches (h : r.Leads p q) : Reaches p q := by
  induction r generalizing p q with
  | empty => exact h ▸ .refl
  | set s => exact .single h.1
  | look l => exact h.1 ▸ .refl
  | seq a b iha ihb =>
      obtain ⟨m, ha, hb⟩ := h
      exact (iha ha).trans (ihb hb)
  | alt a b iha ihb =>
      rcases h with ha | hb
      · exact iha ha
      · exact ihb hb
  | star a ih =>
      rw [Leads] at h
      induction h with
      | refl => exact .refl
      | tail _ hlast ihtail => exact ihtail.trans (ih hlast)

/-- **Without a character.** -/
theorem matchesHere_iff : r.matchesHere p.before p.rest.head? = true ↔ r.Leads p p := by
  induction r with
  | empty => exact iff_of_true rfl rfl
  | set s =>
      refine iff_of_false Bool.false_ne_true ?_
      rintro ⟨⟨c, hrest, -⟩, -⟩
      exact List.cons_ne_self c p.rest hrest.symm
  | look l => exact (and_iff_right rfl).symm
  | seq a b iha ihb =>
      rw [matchesHere, Bool.and_eq_true, iha, ihb]
      constructor
      · rintro ⟨ha, hb⟩
        exact ⟨p, ha, hb⟩
      · rintro ⟨m, ha, hb⟩
        obtain rfl := ha.reaches.antisymm hb.reaches
        exact ⟨ha, hb⟩
  | alt a b iha ihb =>
      rw [matchesHere, Bool.or_eq_true, iha, ihb]
      rfl
  | star a => exact iff_of_true rfl .refl

/-- One expression after another leads where the second leads from where the first ends. -/
theorem leads_andThen_iff {a : Regex} :
    (a.andThen r).Leads p q ↔ ∃ m, a.Leads p m ∧ r.Leads m q := by
  cases a with
  | empty =>
      rw [andThen]
      constructor
      · intro h
        exact ⟨p, rfl, h⟩
      · rintro ⟨m, rfl, h⟩
        exact h
  | _ => exact Iff.rfl

/-- What is left of one expression and another after it, once a character is taken by the first. -/
theorem exists_leads_map_andThen_iff {ways : List Regex} :
    (∃ w ∈ ways.map (·.andThen r), w.Leads p q) ↔
      ∃ m, (∃ w ∈ ways, w.Leads p m) ∧ r.Leads m q := by
  constructor
  · rintro ⟨_, hmap, h⟩
    obtain ⟨w, hw, rfl⟩ := List.mem_map.mp hmap
    obtain ⟨m, hm, hr⟩ := leads_andThen_iff.mp h
    exact ⟨m, ⟨w, hw, hm⟩, hr⟩
  · rintro ⟨m, ⟨w, hw, hm⟩, hr⟩
    exact ⟨w.andThen r, List.mem_map_of_mem hw, leads_andThen_iff.mpr ⟨m, hm, hr⟩⟩

/-- An expression that leads anywhere stays where it is, or takes the next character. -/
theorem Leads.eq_or_reaches (h : r.Leads ⟨b, c :: cs⟩ q) :
    q = ⟨b, c :: cs⟩ ∨ Reaches ⟨some c, cs⟩ q :=
  reaches_cons_iff.mp h.reaches

/-- Where repetition leads to another place, there is a first round that does. -/
theorem exists_first_round {a : Regex} (h : Relation.ReflTransGen a.Leads p q) (hne : q ≠ p) :
    ∃ m, m ≠ p ∧ a.Leads p m ∧ Relation.ReflTransGen a.Leads m q := by
  induction h using Relation.ReflTransGen.head_induction_on with
  | refl => exact absurd rfl hne
  | @head p m hfirst hrest ih =>
      by_cases hm : m = p
      · subst hm
        exact ih hne
      · exact ⟨m, hm, hfirst, hrest⟩

/-- **One character.** What is left of an expression after a character leads where the expression
leads beyond that character. -/
theorem exists_leads_step_iff :
    (∃ w ∈ r.step b c, w.Leads ⟨some c, cs⟩ q) ↔
      r.Leads ⟨b, c :: cs⟩ q ∧ Reaches ⟨some c, cs⟩ q := by
  induction r generalizing q with
  | empty =>
      refine iff_of_false (by simp [step]) ?_
      rintro ⟨rfl, hback⟩
      exact not_reaches_back hback
  | set s =>
      simp only [step, Leads, next_cons_iff]
      split
      · rename_i hc
        simp only [List.mem_singleton, exists_eq_left, Leads]
        constructor
        · rintro rfl
          exact ⟨⟨rfl, hc⟩, .refl⟩
        · exact fun h => h.1.1
      · rename_i hc
        refine iff_of_false (by simp) ?_
        rintro ⟨⟨rfl, hmem⟩, -⟩
        exact hc hmem
  | look l =>
      refine iff_of_false (by simp [step]) ?_
      rintro ⟨⟨rfl, -⟩, hback⟩
      exact not_reaches_back hback
  | seq a r iha ihr =>
      have hhere : a.matchesHere b (some c) = true ↔ a.Leads ⟨b, c :: cs⟩ ⟨b, c :: cs⟩ :=
        matchesHere_iff (p := ⟨b, c :: cs⟩)
      simp only [step, List.mem_append, or_and_right, exists_or, exists_leads_map_andThen_iff, iha]
      constructor
      · rintro (⟨m, ⟨ha, hm⟩, hr⟩ | ⟨w, hw, hwq⟩)
        · exact ⟨⟨m, ha, hr⟩, hm.trans hr.reaches⟩
        · split at hw
          · rename_i hnow
            obtain ⟨hr, hq⟩ := ihr.mp ⟨w, hw, hwq⟩
            exact ⟨⟨_, hhere.mp hnow, hr⟩, hq⟩
          · exact absurd hw List.not_mem_nil
      · rintro ⟨⟨m, ha, hr⟩, hq⟩
        rcases ha.eq_or_reaches with rfl | hm
        · right
          rw [if_pos (hhere.mpr ha)]
          exact ihr.mpr ⟨hr, hq⟩
        · exact .inl ⟨m, ⟨ha, hm⟩, hr⟩
  | alt a r iha ihr =>
      simp only [step, List.mem_append, or_and_right, exists_or, iha, ihr, Leads]
  | star a ih =>
      simp only [step, exists_leads_map_andThen_iff, ih, Leads]
      constructor
      · rintro ⟨m, ⟨ha, hm⟩, hstar⟩
        have hmq : (star a).Leads m q := hstar
        exact ⟨hstar.head ha, hm.trans hmq.reaches⟩
      · rintro ⟨hstar, hq⟩
        obtain ⟨m, hne, ha, hrest⟩ := exists_first_round hstar (by
          rintro rfl
          exact not_reaches_back hq)
        exact ⟨m, ⟨ha, ha.eq_or_reaches.resolve_left hne⟩, hrest⟩

/-- An expression leads somewhere if it matches without a character, or if what is left after one
leads somewhere. -/
theorem exists_leads_cons_iff :
    (∃ q, r.Leads ⟨b, c :: cs⟩ q) ↔
      r.matchesHere b (some c) = true ∨ ∃ w ∈ r.step b c, ∃ q, w.Leads ⟨some c, cs⟩ q := by
  have hhere : r.matchesHere b (some c) = true ↔ r.Leads ⟨b, c :: cs⟩ ⟨b, c :: cs⟩ :=
    matchesHere_iff (p := ⟨b, c :: cs⟩)
  constructor
  · rintro ⟨q, hq⟩
    rcases hq.eq_or_reaches with rfl | hreach
    · exact .inl (hhere.mpr hq)
    · obtain ⟨w, hw, hlead⟩ := exists_leads_step_iff.mpr ⟨hq, hreach⟩
      exact .inr ⟨w, hw, q, hlead⟩
  · rintro (h | ⟨w, hw, q, hq⟩)
    · exact ⟨_, hhere.mp h⟩
    · exact ⟨q, (exists_leads_step_iff.mp ⟨w, hw, hq⟩).1⟩

/-! ### The search -/

/-- That the ways from here are each listed once makes no difference to those that come of them. -/
theorem mem_flatMap_eraseDups {ways : List Regex} {f : Regex → List Regex} {v : Regex} :
    v ∈ ways.eraseDups.flatMap f ↔ v ∈ ways.flatMap f := by
  simp only [List.mem_flatMap, List.mem_eraseDups]

/-- A search finds what one of the ways leads to from here, or the expression from here on. -/
theorem searchFrom_iff {ways : List Regex} :
    r.searchFrom b ways cs = true ↔
      (∃ w ∈ ways, ∃ q, w.Leads ⟨b, cs⟩ q) ∨ ∃ p, Reaches ⟨b, cs⟩ p ∧ ∃ q, r.Leads p q := by
  induction cs generalizing b ways with
  | nil =>
      have hhere : ∀ w : Regex, w.matchesHere b none = true ↔ ∃ q, w.Leads ⟨b, []⟩ q := by
        intro w
        refine (matchesHere_iff (p := ⟨b, []⟩)).trans ⟨fun h => ⟨_, h⟩, ?_⟩
        rintro ⟨q, hq⟩
        exact reaches_nil_iff.mp hq.reaches ▸ hq
      simp only [searchFrom, List.any_cons, Bool.or_eq_true, List.any_eq_true, hhere,
        reaches_nil_iff, exists_eq_left]
      exact or_comm
  | cons c cs ih =>
      have hways : (∃ w ∈ r :: ways, ∃ q, w.Leads ⟨b, c :: cs⟩ q) ↔
          (∃ w ∈ r :: ways, w.matchesHere b (some c) = true) ∨
            ∃ v ∈ (r :: ways).flatMap (·.step b c), ∃ q, v.Leads ⟨some c, cs⟩ q := by
        simp only [exists_leads_cons_iff, and_or_left, exists_or, List.mem_flatMap]
        refine or_congr_right ⟨?_, ?_⟩
        · rintro ⟨w, hw, v, hv, q, hq⟩
          exact ⟨v, ⟨w, hw, hv⟩, q, hq⟩
        · rintro ⟨v, ⟨w, hw, hv⟩, q, hq⟩
          exact ⟨w, hw, v, hv, q, hq⟩
      simp only [searchFrom, Bool.or_eq_true, List.any_eq_true, List.mem_eraseDups, ih,
        mem_flatMap_eraseDups, reaches_cons_iff]
      rw [← or_assoc, ← hways]
      simp only [List.mem_cons, or_and_right, exists_or, exists_eq_left]
      rw [or_assoc, or_left_comm]

/-- **The search.** -/
theorem isMatch_iff : r.isMatch cs = true ↔ ∃ p, Reaches ⟨none, cs⟩ p ∧ ∃ q, r.Leads p q := by
  rw [isMatch, searchFrom_iff]
  simp

end Regex

end Deferral

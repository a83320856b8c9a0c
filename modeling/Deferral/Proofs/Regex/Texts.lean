import Deferral.Proofs.Regex.Language
import Mathlib.Computability.Language

/-!
# The texts that a regular expression stands for

An expression without assertions takes the same texts wherever it stands, so these make up a
language, which is read off the expression. An expression that holds such parts between the start
and the end of a text matches the texts that are made of theirs, one after another.

## Main results

* `leads_iff_texts` — an expression without assertions leads past its texts;
* `isMatch_whole_iff` — a match from the start of a text to its end;
* `mem_texts_oneOrMore_iff`, `mem_texts_optional_iff` — the texts of repetitions.
-/

namespace Deferral

open scoped Computability

namespace Place

variable {p q : Place} {c : Char} {xs ys : List Char}

/-- The second place comes right behind a text that stands at the first. -/
def Passes (p : Place) (xs : List Char) (q : Place) : Prop :=
  p.rest = xs ++ q.rest ∧ q.before = xs.getLast?.or p.before

/-- Behind the empty text there is no other place. -/
theorem passes_nil_iff : p.Passes [] q ↔ q = p := by
  constructor
  · rintro ⟨hrest, hbefore⟩
    exact Place.ext hbefore hrest.symm
  · rintro rfl
    exact ⟨rfl, rfl⟩

/-- Two texts one after another are passed one after another. -/
theorem passes_append_iff :
    p.Passes (xs ++ ys) q ↔ ∃ m, p.Passes xs m ∧ m.Passes ys q := by
  constructor
  · rintro ⟨hrest, hbefore⟩
    refine ⟨⟨xs.getLast?.or p.before, ys ++ q.rest⟩, ⟨?_, rfl⟩, rfl, ?_⟩
    · rw [hrest, List.append_assoc]
    · rw [hbefore, List.getLast?_append, Option.or_assoc]
  · rintro ⟨m, ⟨hrest, hbefore⟩, hrest', hbefore'⟩
    refine ⟨?_, ?_⟩
    · rw [hrest, hrest', List.append_assoc]
    · rw [hbefore', hbefore, List.getLast?_append, Option.or_assoc]

/-- From the start of a text its end is passed by the whole of it. -/
theorem passes_start_iff {cs : List Char} (hq : q.rest = []) :
    Passes ⟨none, cs⟩ xs q ↔ xs = cs ∧ q.before = cs.getLast? := by
  rw [Passes, hq, List.append_nil, Option.or_none]
  constructor
  · rintro ⟨rfl, hbefore⟩
    exact ⟨rfl, hbefore⟩
  · rintro ⟨rfl, hbefore⟩
    exact ⟨rfl, hbefore⟩

end Place

namespace Regex

open Place

variable {a r last : Regex} {rs : List Regex} {p q : Place} {s : CharSet} {cs xs : List Char}

/-- Whether the expression has no assertions. -/
def isPlain : Regex → Bool
  | empty | set _ => true
  | look _ => false
  | seq a b | alt a b => a.isPlain && b.isPlain
  | star a => a.isPlain

/-- The texts that an expression stands for. An assertion stands for none. -/
def texts : Regex → Language Char
  | empty => 1
  | set s => {xs | ∃ c, xs = [c] ∧ s.mem c = true}
  | look _ => 0
  | seq a b => a.texts * b.texts
  | alt a b => a.texts + b.texts
  | star a => a.texts∗

/-- Rounds of an expression lead past a text that is made of its texts, and nowhere else. -/
theorem reflTransGen_leads_iff (ih : ∀ {p q}, a.Leads p q ↔ ∃ xs ∈ a.texts, p.Passes xs q) :
    Relation.ReflTransGen a.Leads p q ↔ ∃ xs ∈ a.texts∗, p.Passes xs q := by
  constructor
  · intro h
    induction h with
    | refl => exact ⟨[], Language.nil_mem_kstar _, passes_nil_iff.mpr rfl⟩
    | @tail m q _ hlast ihrounds =>
        obtain ⟨xs, hxs, hpm⟩ := ihrounds
        obtain ⟨ys, hys, hmq⟩ := ih.mp hlast
        obtain ⟨parts, rfl, hparts⟩ := Language.mem_kstar.mp hxs
        refine ⟨parts.flatten ++ ys, Language.mem_kstar.mpr ⟨parts ++ [ys], by simp, ?_⟩,
          passes_append_iff.mpr ⟨m, hpm, hmq⟩⟩
        intro zs hzs
        rcases List.mem_append.mp hzs with hold | hnew
        · exact hparts zs hold
        · exact List.mem_singleton.mp hnew ▸ hys
  · rintro ⟨xs, hxs, hpq⟩
    obtain ⟨parts, rfl, hparts⟩ := Language.mem_kstar.mp hxs
    clear hxs
    induction parts generalizing p with
    | nil => exact passes_nil_iff.mp hpq ▸ .refl
    | cons ys parts ihparts =>
        obtain ⟨m, hpm, hmq⟩ := passes_append_iff.mp hpq
        have hrest : ∀ zs ∈ parts, zs ∈ a.texts := fun zs hzs =>
          hparts zs (List.mem_cons_of_mem _ hzs)
        exact (ihparts hrest hmq).head
          (ih.mpr ⟨ys, hparts ys List.mem_cons_self, hpm⟩)

/-- **Without assertions.** An expression leads from a place past its texts, and nowhere else. -/
theorem leads_iff_texts (h : r.isPlain = true) :
    r.Leads p q ↔ ∃ xs ∈ r.texts, p.Passes xs q := by
  induction r generalizing p q with
  | empty => simp [Leads, texts, passes_nil_iff]
  | set s =>
      constructor
      · rintro ⟨⟨c, hrest, hbefore⟩, hmem⟩
        exact ⟨[c], ⟨c, rfl, by simpa [hbefore] using hmem⟩, hrest, hbefore⟩
      · rintro ⟨xs, ⟨c, rfl, hmem⟩, hrest, hbefore⟩
        exact ⟨⟨c, hrest, hbefore⟩, hbefore ▸ hmem⟩
  | look l => exact absurd h Bool.false_ne_true
  | seq a b iha ihb =>
      obtain ⟨ha, hb⟩ := Bool.and_eq_true_iff.mp h
      simp only [Leads, iha ha, ihb hb]
      constructor
      · rintro ⟨m, ⟨xs, hxs, hpm⟩, ys, hys, hmq⟩
        exact ⟨xs ++ ys, Language.append_mem_mul hxs hys, passes_append_iff.mpr ⟨m, hpm, hmq⟩⟩
      · rintro ⟨zs, hzs, hpq⟩
        obtain ⟨xs, hxs, ys, hys, rfl⟩ := Language.mem_mul.mp hzs
        obtain ⟨m, hpm, hmq⟩ := passes_append_iff.mp hpq
        exact ⟨m, ⟨xs, hxs, hpm⟩, ys, hys, hmq⟩
  | alt a b iha ihb =>
      obtain ⟨ha, hb⟩ := Bool.and_eq_true_iff.mp h
      simp only [Leads, iha ha, ihb hb, texts, Language.mem_add, or_and_right, exists_or]
  | star a ih => exact reflTransGen_leads_iff (ih h)

/-! ### From start to end -/

/-- Expressions one after another lead past their texts to where the last one goes on. -/
theorem leads_foldr_seq_iff (h : ∀ r ∈ rs, r.isPlain = true) :
    (rs.foldr seq last).Leads p q ↔
      ∃ xs ∈ (rs.map texts).prod, ∃ m, p.Passes xs m ∧ last.Leads m q := by
  induction rs generalizing p with
  | nil => simp [passes_nil_iff]
  | cons r rs ih =>
      have hrest := fun r' hr' => h r' (List.mem_cons_of_mem r hr')
      rw [List.foldr_cons, List.map_cons, List.prod_cons]
      simp only [Leads, leads_iff_texts (h r List.mem_cons_self), ih hrest]
      constructor
      · rintro ⟨m, ⟨xs, hxs, hpm⟩, ys, hys, n, hmn, hlast⟩
        exact ⟨xs ++ ys, Language.append_mem_mul hxs hys, n,
          passes_append_iff.mpr ⟨m, hpm, hmn⟩, hlast⟩
      · rintro ⟨zs, hzs, n, hpn, hlast⟩
        obtain ⟨xs, hxs, ys, hys, rfl⟩ := Language.mem_mul.mp hzs
        obtain ⟨m, hpm, hmn⟩ := passes_append_iff.mp hpn
        exact ⟨m, ⟨xs, hxs, hpm⟩, ys, hys, n, hmn, hlast⟩

/-- **From start to end.** Expressions between the start and the end of a text match the texts that
are made of theirs. -/
theorem isMatch_whole_iff (h : ∀ r ∈ rs, r.isPlain = true) :
    (seq (look .textStart) (rs.foldr seq (look .textEnd))).isMatch cs = true ↔
      cs ∈ (rs.map texts).prod := by
  rw [isMatch_iff]
  constructor
  · rintro ⟨p, hreaches, q, m, ⟨rfl, hstart⟩, hparts⟩
    obtain rfl := hreaches.eq_of_before_eq_none (Option.isNone_iff_eq_none.mp hstart)
    obtain ⟨xs, hxs, n, hpasses, rfl, hend⟩ := (leads_foldr_seq_iff h).mp hparts
    have hrest : q.rest = [] := List.head?_eq_none_iff.mp (Option.isNone_iff_eq_none.mp hend)
    exact ((passes_start_iff hrest).mp hpasses).1 ▸ hxs
  · intro hcs
    refine ⟨⟨none, cs⟩, .refl, ⟨cs.getLast?, []⟩, ⟨none, cs⟩, ⟨rfl, rfl⟩, ?_⟩
    exact (leads_foldr_seq_iff h).mpr
      ⟨cs, hcs, _, (passes_start_iff rfl).mpr ⟨rfl, rfl⟩, rfl, rfl⟩

/-! ### Repetitions -/

/-- Any number of characters of a set. -/
theorem mem_texts_star_set_iff : xs ∈ (star (set s)).texts ↔ ∀ c ∈ xs, s.mem c = true := by
  constructor
  · intro h c hc
    obtain ⟨parts, rfl, hparts⟩ := Language.mem_kstar.mp h
    obtain ⟨ys, hys, hcys⟩ := List.mem_flatten.mp hc
    obtain ⟨d, rfl, hd⟩ := hparts ys hys
    exact List.mem_singleton.mp hcys ▸ hd
  · intro h
    have hparts : xs = (xs.map fun c => [c]).flatten := by
      rw [← List.flatMap_def, List.flatMap_singleton']
    refine Language.mem_kstar.mpr ⟨xs.map fun c => [c], hparts, fun ys hys => ?_⟩
    obtain ⟨c, hc, rfl⟩ := List.mem_map.mp hys
    exact ⟨c, rfl, h c hc⟩

/-- One or more characters of a set. -/
theorem mem_texts_oneOrMore_iff :
    xs ∈ ((set s).repeated 1 none).texts ↔ xs ≠ [] ∧ ∀ c ∈ xs, s.mem c = true := by
  have hsplit : xs ∈ ((set s).repeated 1 none).texts ↔
      ∃ ys ∈ (set s).texts, ∃ zs ∈ (star (set s)).texts, ys ++ zs = xs := by
    rw [← Language.mem_mul, ← mul_one (set s).texts]
    rfl
  rw [hsplit]
  constructor
  · rintro ⟨_, ⟨c, rfl, hc⟩, zs, hzs, rfl⟩
    exact ⟨List.cons_ne_nil c zs, List.forall_mem_cons.mpr ⟨hc, mem_texts_star_set_iff.mp hzs⟩⟩
  · rintro ⟨hne, hall⟩
    obtain ⟨c, zs, rfl⟩ := List.exists_cons_of_ne_nil hne
    obtain ⟨hc, hzs⟩ := List.forall_mem_cons.mp hall
    exact ⟨[c], ⟨c, rfl, hc⟩, zs, mem_texts_star_set_iff.mpr hzs, rfl⟩

/-- An expression that may be left out. -/
theorem mem_texts_optional_iff :
    xs ∈ (a.repeated 0 (some 1)).texts ↔ xs = [] ∨ xs ∈ a.texts := by
  have hsum : (a.repeated 0 (some 1)).texts = a.texts * 1 + 1 := rfl
  rw [hsum, mul_one, Language.mem_add, Language.mem_one, or_comm]

end Regex

end Deferral

import Deferral.Proofs.Pattern.Classes
import Deferral.Proofs.Pattern.KeyHeads

/-!
# Key heads with classes

A class that is closed in a key head stands for one character, while it takes three at least to
write. Where the classes of a key head are read as they are written and stand for some character,
the glob of the key head therefore matches a text that is too short to begin with the key head.

## Main results

* `exists_isReadAs_members` — a class is read as a set of the characters that it stands for;
* `length_shortest_items` — how much shorter than a glob its shortest text is;
* `exists_foreign_of_members` — a key head with a closed class matches foreign keys.
-/

namespace Deferral

open Regex

namespace Glob

variable {body cs glob head : List Char} {is : List GlobItem} {ps : List Piece}
  {pick : List Char → Char}

/-! ### The pieces of a glob with classes -/

/-- A class that is read as it is written: it has members, its ranges are in order, behind each
backslash stands a character which stands for itself there, and no two hyphens are next to each
other. -/
structure IsReadable (body : List Char) : Prop where
  members_ne_nil : classMembers body ≠ []
  ordered : ∀ r ∈ ranges (classMembers body), r.1 ≤ r.2
  isPlain_escaped : ∀ c, .escaped c ∈ classMembers body → Escape.isPlain c = true
  hyphensApart : HyphensApart (classMembers body)

/-- A piece for an element: for a class, a set of the characters that the class stands for. -/
def IsPieceFor (i : GlobItem) (p : Piece) : Prop :=
  p.depth ≤ 2 ∧
    match i with
    | .members body => ∃ s, p.regex = .set s ∧ ∀ c, s.mem c = classAccepts body c
    | _ => p.regex = i.regex

/-- The characters of a class are safe to be read if the class is readable. -/
theorem IsReadable.isSafe (h : IsReadable body) : ∀ a ∈ classMembers body, a.IsSafe := by
  intro a ha
  cases a with
  | plain c => exact ne_of_plain_mem_classChars ha
  | escaped c => exact h.isPlain_escaped c ha

/-- **One class.** It is read as a set of the characters that it stands for. -/
theorem exists_isReadAs_members (h : IsReadable body) :
    IsReadAs (.members body) (IsPieceFor (.members body)) := by
  intro fuel b rest hb _ hfuel
  let r := (if hasSign body then ['^'] else []) ++
    ((classMembers body).flatMap ClassChar.pattern ++ ']' :: rest)
  have hpattern : GlobItem.pattern (.members body) ++ rest = '[' :: r := by
    simp [GlobItem.pattern, classPattern_eq, r]
  have hlength : (classMembers body).length < r.length := by
    have hchars := length_le_flatMap_pattern (classMembers body)
    simp only [r, List.length_append, List.length_cons]
    omega
  obtain ⟨s, depth, hread, hdepth, hmem⟩ := takeClass?_chars h.members_ne_nil h.isSafe
    h.hyphensApart h.ordered hlength (hasSign body) rest
  rw [hpattern, List.length_cons] at hfuel
  obtain ⟨n, rfl⟩ : ∃ n, fuel = n + 1 := Nat.exists_eq_add_of_le' (by omega)
  have hrest : rest.length ≤ r.length := by
    simp only [r, List.length_append, List.length_cons]
    omega
  refine ⟨⟨.set s, depth, true⟩, ⟨hdepth, s, rfl, hmem⟩, n, by omega, ?_⟩
  rw [hpattern, readParts_class hb, hread]
  rfl

/-- Any element of a glob is read as a piece for it, if its classes are readable. -/
theorem isReadAs_isPieceFor {i : GlobItem} (h : ∀ body, i = .members body → IsReadable body) :
    IsReadAs i (IsPieceFor i) := by
  cases i with
  | members body => exact exists_isReadAs_members (h body rfl)
  | _ =>
      intro fuel b rest hb hrest hfuel
      obtain ⟨p, rfl, hread⟩ := isReadAs_piece (by rintro _ ⟨⟩) fuel b rest hb hrest hfuel
      exact ⟨_, ⟨Nat.le_succ_of_le (depth_piece_le _), rfl⟩, hread⟩

/-! ### A shortest text -/

/-- A piece for an element leads past what a shortest text has for it. -/
theorem exists_leads_shortest {i : GlobItem} {p : Piece} (h : IsPieceFor i p)
    (hpick : ∀ body, i = .members body → classAccepts body (pick body) = true)
    (is : List GlobItem) (before : Option Char) :
    ∃ after, p.regex.Leads ⟨before, shortest pick (i :: is)⟩ ⟨after, shortest pick is⟩ := by
  obtain ⟨-, h⟩ := h
  cases i with
  | members body =>
      obtain ⟨s, hregex, hmem⟩ := h
      rw [hregex]
      exact ⟨_, leads_set_cons_iff.mpr ⟨(hmem _).trans (hpick body rfl), rfl⟩⟩
  | literal c =>
      rw [show p.regex = .set (.single c) from h]
      exact ⟨_, leads_set_cons_iff.mpr ⟨CharSet.mem_single.mpr rfl, rfl⟩⟩
  | anyChar =>
      rw [show p.regex = .set dot from h]
      exact ⟨_, leads_set_cons_iff.mpr ⟨by rw [mem_dot]; rfl, rfl⟩⟩
  | anyRun =>
      rw [show p.regex = .star (.set dot) from h]
      exact ⟨before, .refl⟩

/-- Pieces for elements lead to the end of a shortest text. -/
theorem exists_leadAll_shortest (h : List.Forall₂ IsPieceFor is ps)
    (hpick : ∀ body, .members body ∈ is → classAccepts body (pick body) = true)
    (before : Option Char) :
    ∃ q, LeadAll (ps.map (·.regex) ++ [.look .textEnd]) ⟨before, shortest pick is⟩ q := by
  induction h generalizing before with
  | nil => exact ⟨_, _, ⟨rfl, rfl⟩, rfl⟩
  | @cons i p is ps hp _ ih =>
      obtain ⟨after, hfirst⟩ := exists_leads_shortest hp
        (fun body heq => hpick body (heq ▸ List.mem_cons_self)) is before
      obtain ⟨q, hrest⟩ := ih (fun body hbody => hpick body (List.mem_cons_of_mem _ hbody)) after
      exact ⟨q, _, hfirst, hrest⟩

/-- What stands between the brackets of a class is not empty. -/
theorem ne_nil_of_takeBody? {rest : List Char} (h : takeBody? true cs = some (body, rest)) :
    body ≠ [] := by
  unfold takeBody? at h
  split at h
  · cases h
  · split at h
    · split at h
      · cases h
      · obtain ⟨pair, -, heq⟩ := Option.map_eq_some_iff.mp h
        cases heq
        exact List.cons_ne_nil _ _
    · rw [Bool.not_true, Bool.and_false, if_neg Bool.false_ne_true] at h
      obtain ⟨pair, -, heq⟩ := Option.map_eq_some_iff.mp h
      cases heq
      exact List.cons_ne_nil _ _

/-- Whether an element is a class. -/
def isClass : GlobItem → Bool
  | .members _ => true
  | _ => false

/-- A shortest text of a glob is no longer than the glob, and shorter by two for each class. -/
theorem length_shortest_items (pick : List Char → Char) (glob : List Char) :
    (shortest pick (items glob)).length + 2 * (items glob).countP isClass ≤ glob.length := by
  fun_induction items glob with
  | case1 => exact Nat.le_refl 0
  | case6 c r _ _ _ _ body rest htaken _ ih =>
      have hglob := congrArg List.length (eq_of_takeBody? htaken)
      have hbody := List.length_pos_iff.mpr (ne_nil_of_takeBody? htaken)
      rw [List.length_append, List.length_cons] at hglob
      rw [shortest, List.countP_cons_of_pos rfl]
      simp only [List.length_cons]
      omega
  | case4 => exact Nat.le_refl 1
  | case2 c r _ ih | case3 c r _ _ ih | case7 c r _ _ _ _ _ ih | case8 c r _ _ _ _ ih =>
      simp only [shortest, isClass, List.countP_cons, List.length_cons, Bool.false_eq_true,
        if_false]
      omega
  | case5 c _ _ _ d r ih =>
      simp only [shortest, isClass, List.countP_cons, List.length_cons, Bool.false_eq_true,
        if_false]
      omega

/-- A shortest text of the glob of a key head with a class is too short to begin with the key
head. -/
theorem not_isPrefix_shortest (h : .members body ∈ items (under head)) :
    ¬ head <+: shortest pick (items (under head)) := by
  intro hbegins
  have hclass : 0 < (items (under head)).countP isClass :=
    List.countP_pos_iff.mpr ⟨_, h, rfl⟩
  have hshort := length_shortest_items pick (under head)
  have hlong := hbegins.length_le
  rw [under, List.length_append, List.length_singleton, ← under] at hshort
  omega

end Glob

namespace KeyMatcher

variable {head : String} {body : List Char}

/-- **Key heads with classes.** If the classes of a key head are readable and stand for some
character, the matcher of all keys matches one that does not begin with the key head. -/
theorem exists_foreign_of_members (hclass : .members body ∈ Glob.items (Glob.under head.toList))
    (hreadable : ∀ body, .members body ∈ Glob.items (Glob.under head.toList) →
      Glob.IsReadable body ∧ ∃ c, Glob.classAccepts body c = true) :
    ∃ m, parse? (.text "*") (some head) = some m ∧
      ∃ key, m.isMatch key = true ∧ ¬ head.toList <+: key.toList := by
  have hne : head.toList ≠ [] := by
    intro hnil
    rw [hnil, Glob.items_under_nil] at hclass
    simp at hclass
  have hhead : head ≠ "" := mt String.toList_eq_nil_iff.mpr hne
  -- A star has no class, so the key head is written before the star.
  have hwritten : scopedGlob (some head.toList) ['*'] = Glob.under head.toList := by
    refine if_neg fun hoccurs => ?_
    rw [(occursIn_star_iff hne).mp hoccurs, Glob.under, List.singleton_append, Glob.items_star,
      ← List.nil_append ['*'], ← Glob.under, Glob.items_under_nil] at hclass
    simp at hclass
  have hread : ∀ i ∈ Glob.items (Glob.under head.toList), Glob.IsReadAs i (Glob.IsPieceFor i) :=
    fun i hi => Glob.isReadAs_isPieceFor fun body heq => (hreadable body (heq ▸ hi)).1
  obtain ⟨ps, hps, hparse⟩ := Glob.exists_parse?_pattern hread fun _ _ hp => hp.1
  have hpicks : ∀ body, ∃ c, .members body ∈ Glob.items (Glob.under head.toList) →
      Glob.classAccepts body c = true := by
    intro body
    by_cases hbody : .members body ∈ Glob.items (Glob.under head.toList)
    · obtain ⟨c, hc⟩ := (hreadable body hbody).2
      exact ⟨c, fun _ => hc⟩
    · exact ⟨'x', fun hmem => absurd hmem hbody⟩
  choose pick hpick using hpicks
  let key := Glob.shortest pick (Glob.items (Glob.under head.toList))
  refine ⟨_, by rw [parse?_star_eq hhead, hwritten, hparse]; rfl, String.ofList key, ?_, ?_⟩
  · rw [isMatch, String.toList_ofList]
    exact (Glob.isMatch_bounded_iff ps).mpr (Glob.exists_leadAll_shortest hps hpick none)
  · rw [String.toList_ofList]
    exact Glob.not_isPrefix_shortest hclass

end KeyMatcher

end Deferral

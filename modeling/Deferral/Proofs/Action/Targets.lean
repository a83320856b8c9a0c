import Deferral.Dispatch.Action
import Deferral.Proofs.Action.Simulation

/-!
# What targets come to

Targets come to activities, each of which is there once however often it is meant. Only the
submission above a comment may have to be fetched, and only that can fail. Where just ids are
compared, a comment that names its submission tells all of them by itself.

## Main results

* `settles_resolve` — targets come to activities with different ids, or the fetch has failed;
* `resolve_of_not_isStray` — the ids that targets come to where nothing is fetched.
-/

namespace Deferral

/-- The id of the activity that a target means, as far as the activity at hand tells. -/
def Target.idFrom? (a : Activity) : Target → Option String
  | .current => some a.id
  | .parent => if a.isRoot then none else a.parentId
  | .any => none

namespace Targets

variable {fetcher : Fetcher} {a x : Activity} {dryRun : Bool} {found t : Targets} {id : String}

/-- The ids of the activities. -/
def ids (t : Targets) : List String := t.activities.map (·.id)

/-- The test that keeps ids apart is membership of the id. -/
theorem any_id_iff : (t.activities.any fun y => y.id == x.id) = true ↔ x.id ∈ t.ids := by
  simp [ids]

/-- One more activity adds its id and no other. -/
theorem mem_ids_add : id ∈ (t.add x).ids ↔ id ∈ t.ids ∨ id = x.id := by
  by_cases hx : x.id ∈ t.ids
  · rw [add, if_pos (any_id_iff.mpr hx)]
    constructor
    · exact .inl
    · rintro (h | rfl)
      · exact h
      · exact hx
  · rw [add, if_neg (mt any_id_iff.mp hx)]
    simp [ids]

/-- The ids stay different when an activity is added. -/
theorem nodup_ids_add (h : t.ids.Nodup) (x : Activity) : (t.add x).ids.Nodup := by
  by_cases hx : x.id ∈ t.ids
  · rwa [add, if_pos (any_id_iff.mpr hx)]
  · rw [add, if_neg (mt any_id_iff.mp hx), ids, List.map_append]
    refine List.nodup_append.mpr ⟨h, List.nodup_singleton _, ?_⟩
    intro id hid other hother hsame
    rw [List.map_singleton, List.mem_singleton] at hother
    exact hx (hother ▸ hsame ▸ hid)

/-- At most one activity is added. -/
theorem length_add_le (t : Targets) (x : Activity) :
    (t.add x).activities.length ≤ t.activities.length + 1 := by
  rw [add]
  split
  · omega
  · simp

/-! ### Any run -/

/-- A submission has nothing above it, so that its parent is noted as impossible. -/
theorem resolveFrom_parent_of_isRoot (hroot : a.isRoot = true) (targets : List Target) :
    resolveFrom fetcher a dryRun found (.parent :: targets) =
      resolveFrom fetcher a dryRun { found with impossible := some (noParent a) } targets := by
  simp [resolveFrom, hroot]

/-- In a dry run a comment tells the submission above it, if it can. -/
theorem resolveFrom_parent_of_stub {stub : Activity} (hroot : a.isRoot = false)
    (hstub : a.parentStub? = some stub) (targets : List Target) :
    resolveFrom fetcher a true found (.parent :: targets) =
      resolveFrom fetcher a true (found.add stub) targets := by
  simp [resolveFrom, hroot, hstub]

/-- Otherwise the platform is asked, and with a failure everything ends. -/
theorem resolveFrom_parent_of_error {f : Failure} (hroot : a.isRoot = false)
    (hasks : dryRun = true → a.parentStub? = .none) (hanswer : fetcher.submissionOf 0 a = .error f)
    (targets : List Target) :
    resolveFrom fetcher a dryRun found (.parent :: targets) =
      (.error f, [.submissionOf a.id]) := by
  cases dryRun with
  | false => simp [resolveFrom, hroot, hanswer]
  | true => simp [resolveFrom, hroot, hanswer, hasks rfl]

/-- With a submission it goes on, and the platform has answered once more. -/
theorem resolveFrom_parent_of_ok (hroot : a.isRoot = false)
    (hasks : dryRun = true → a.parentStub? = .none) (hanswer : fetcher.submissionOf 0 a = .ok x)
    (targets : List Target) :
    resolveFrom fetcher a dryRun found (.parent :: targets) =
      ((resolveFrom fetcher.later a dryRun (found.add x) targets).1,
        .submissionOf a.id :: (resolveFrom fetcher.later a dryRun (found.add x) targets).2) := by
  cases dryRun with
  | false => simp [resolveFrom, hroot, hanswer]
  | true => simp [resolveFrom, hroot, hanswer, hasks rfl]

/-- What working out targets may come to: activities with different ids and not too many of them, or
the failure of the last of the calls. -/
def Settles (fetcher : Fetcher) (a : Activity) (most : Nat) :
    Except Failure Targets × List FetchCall → Prop
  | (.ok t, _) => t.ids.Nodup ∧ t.activities.length ≤ most
  | (.error f, calls) => ∃ n, calls.length = n + 1 ∧ fetcher.submissionOf n a = .error f

/-- The bound on the number of activities may be raised. -/
theorem Settles.mono {m n : Nat} (hle : m ≤ n) {answer : Except Failure Targets × List FetchCall}
    (h : Settles fetcher a m answer) : Settles fetcher a n answer := by
  obtain ⟨_ | _, _⟩ := answer
  · exact h
  · exact ⟨h.1, Nat.le_trans h.2 hle⟩

/-- What is settled after one call is settled. -/
theorem Settles.of_later {most : Nat} {answer : Except Failure Targets} {calls : List FetchCall}
    (h : Settles fetcher.later a most (answer, calls)) (call : FetchCall) :
    Settles fetcher a most (answer, call :: calls) := by
  cases answer with
  | ok t => exact h
  | error f =>
      obtain ⟨n, hlength, hfails⟩ := h
      exact ⟨n + 1, by rw [List.length_cons, hlength], hfails⟩

/-- **Any targets.** Whatever was found before, each target that is left adds one activity at most,
or the last of the calls fails. -/
theorem settles_resolveFrom (fetcher : Fetcher) (a : Activity) (dryRun : Bool) (found : Targets)
    (hfound : found.ids.Nodup) (targets : List Target) :
    Settles fetcher a (found.activities.length + targets.length)
      (resolveFrom fetcher a dryRun found targets) := by
  induction targets generalizing found fetcher with
  | nil => exact ⟨hfound, Nat.le_refl _⟩
  | cons target targets ih =>
      rw [List.length_cons]
      have hadded : ∀ (fetcher : Fetcher) (x : Activity),
          Settles fetcher a (found.activities.length + (targets.length + 1))
            (resolveFrom fetcher a dryRun (found.add x) targets) := by
        intro fetcher x
        have hlength := length_add_le found x
        exact (ih fetcher _ (nodup_ids_add hfound x)).mono (by omega)
      cases target with
      | current => exact hadded fetcher a
      | any => exact (ih fetcher _ hfound).mono (by omega)
      | parent =>
          cases hroot : a.isRoot with
          | true =>
              rw [resolveFrom_parent_of_isRoot hroot]
              exact (ih fetcher { found with impossible := some (noParent a) } hfound).mono
                (by simp)
          | false =>
              by_cases htells : dryRun = true ∧ ∃ stub, a.parentStub? = some stub
              · obtain ⟨rfl, stub, hstub⟩ := htells
                rw [resolveFrom_parent_of_stub hroot hstub]
                exact hadded fetcher stub
              · have hasks : dryRun = true → a.parentStub? = .none := fun hdry =>
                  Option.eq_none_iff_forall_ne_some.mpr fun stub hstub =>
                    htells ⟨hdry, stub, hstub⟩
                cases hanswer : fetcher.submissionOf 0 a with
                | ok x =>
                    rw [resolveFrom_parent_of_ok hroot hasks hanswer]
                    exact (hadded fetcher.later x).of_later _
                | error f =>
                    rw [resolveFrom_parent_of_error hroot hasks hanswer]
                    exact ⟨0, rfl, hanswer⟩

/-- **Any run.** Targets come to activities with different ids, at most one for each target, unless
the submission above the activity at hand had to be fetched and the last such call has failed. -/
theorem settles_resolve (fetcher : Fetcher) (a : Activity) (dryRun : Bool)
    (targets : List Target) :
    Settles fetcher a targets.length (resolve fetcher a dryRun targets) :=
  (settles_resolveFrom fetcher a dryRun none List.nodup_nil targets).mono (by simp [none])

/-! ### Without fetching -/

/-- A comment that is not stray names the submission above it. -/
theorem exists_parentStub?_of_not_isStray (ha : a.isStray = false) (hroot : a.isRoot = false) :
    ∃ x, a.parentStub? = some x ∧ a.parentId = some x.id := by
  obtain ⟨id, kind, parentId, subreddit⟩ := a
  cases kind with
  | submission => exact absurd hroot (by simp [Activity.isRoot])
  | comment =>
      cases parentId with
      | none => exact absurd ha (by simp [Activity.isStray])
      | some parent => exact ⟨.submission parent subreddit, rfl, rfl⟩

/-- Where the activity at hand is not stray, the targets come to the ids that it tells. -/
theorem resolveFrom_of_not_isStray (fetcher : Fetcher) (ha : a.isStray = false) (found : Targets)
    (targets : List Target) :
    ∃ t, (resolveFrom fetcher a true found targets).1 = .ok t ∧
      ∀ id, id ∈ t.ids ↔ id ∈ found.ids ∨ ∃ target ∈ targets, target.idFrom? a = some id := by
  induction targets generalizing found with
  | nil => exact ⟨found, rfl, by simp⟩
  | cons target targets ih =>
      -- What the first target adds is among the ids that were found when the others are met.
      have hadded : ∀ found' : Targets,
          (∀ id, id ∈ found'.ids ↔ id ∈ found.ids ∨ target.idFrom? a = some id) →
          ∃ t, (resolveFrom fetcher a true found' targets).1 = .ok t ∧
            ∀ id, id ∈ t.ids ↔
              id ∈ found.ids ∨ ∃ other ∈ target :: targets, other.idFrom? a = some id := by
        intro found' hfound'
        obtain ⟨t, hok, hids⟩ := ih found'
        refine ⟨t, hok, fun id => ?_⟩
        rw [hids, hfound', or_assoc]
        simp
      cases target with
      | current =>
          refine hadded _ fun id => ?_
          rw [mem_ids_add, Target.idFrom?, Option.some.injEq, eq_comm]
      | any => exact hadded _ fun id => by simp [Target.idFrom?]
      | parent =>
          cases hroot : a.isRoot with
          | true =>
              rw [resolveFrom_parent_of_isRoot hroot]
              exact hadded _ fun id => by simp [Target.idFrom?, hroot, ids]
          | false =>
              obtain ⟨x, hstub, hparent⟩ := exists_parentStub?_of_not_isStray ha hroot
              rw [resolveFrom_parent_of_stub hroot hstub]
              refine hadded _ fun id => ?_
              simp [mem_ids_add, Target.idFrom?, hroot, hparent, eq_comm]

/-- **Without fetching.** From an activity that is not stray targets come to the ids that it
tells. -/
theorem resolve_of_not_isStray (fetcher : Fetcher) (ha : a.isStray = false)
    (targets : List Target) :
    ∃ t, (resolve fetcher a true targets).1 = .ok t ∧
      ∀ id, id ∈ t.ids ↔ ∃ target ∈ targets, target.idFrom? a = some id := by
  obtain ⟨t, hok, hids⟩ := resolveFrom_of_not_isStray fetcher ha none targets
  refine ⟨t, hok, fun id => (hids id).trans (or_iff_right ?_)⟩
  exact List.not_mem_nil

end Targets

end Deferral

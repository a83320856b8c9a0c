import Deferral.Proofs.Queue.History

/-!
# Other clients

Records that a tick has claimed are in nobody's way. Whatever is done to a queue, its other records
come out as if the claimed ones had not been there, because only idle records are matched, cancelled
and replaced, and because each new record has an id of its own.

## Main results

* `without_perform`, `without_run` — operations do to the other records what they would do if there
  were no others;
* `without_complete` — taking out a claimed record changes nothing for the others.
-/

namespace Deferral

namespace Queue

variable {q : Queue} {hidden : List RecordId} {r : Record} {op : QueueOp} {ops : List QueueOp}

/-- The queue without the records that have one of some ids. -/
def without (q : Queue) (hidden : List RecordId) : Queue :=
  { q with records := q.records.filter fun r => r.id ∉ hidden }

/-- The ids that are seen are those that are not hidden. -/
theorem mem_ids_without {id : RecordId} :
    id ∈ (q.without hidden).ids ↔ id ∈ q.ids ∧ id ∉ hidden := by
  simp only [mem_ids, without, List.mem_filter, decide_eq_true_iff]
  constructor
  · rintro ⟨r, ⟨hr, hout⟩, rfl⟩
    exact ⟨⟨r, hr, rfl⟩, hout⟩
  · rintro ⟨⟨r, hr, rfl⟩, hout⟩
    exact ⟨r, ⟨hr, hout⟩, rfl⟩

/-- Hiding ids that are not in the queue leaves it as it is. -/
theorem without_eq_self (h : ∀ id ∈ hidden, id ∉ q.ids) : q.without hidden = q := by
  have hall : (q.records.filter fun r => r.id ∉ hidden) = q.records := by
    refine List.filter_eq_self.mpr fun r hr => decide_eq_true fun hid => ?_
    exact h r.id hid (mem_ids.mpr ⟨r, hr, rfl⟩)
  rw [without, hall]

/-- Idle records are found whether the settled ones are hidden or not. -/
theorem filter_without (h : ∀ id ∈ hidden, q.Settled id) {p : Record → Bool}
    (hp : ∀ r, p r = true → r.isIdle = true) :
    (q.without hidden).records.filter p = q.records.filter p := by
  rw [without, List.filter_filter]
  refine List.filter_congr fun r hr => ?_
  by_cases hpr : p r = true
  · have hout : r.id ∉ hidden := fun hid => (h r.id hid).not_isIdle hr rfl (hp r hpr)
    simp [hpr, hout]
  · simp [hpr]

/-- Idle records are taken out whether the settled ones are hidden or not. -/
theorem without_withoutIdle (q : Queue) (hidden : List RecordId) (wanted : Record → Bool) :
    (q.withoutIdle wanted).without hidden = (q.without hidden).withoutIdle wanted := by
  simp only [without, withoutIdle, List.filter_filter, Bool.and_comm]

/-- No idle record is hidden if no hidden id has one. -/
theorem filter_idle_without (h : ∀ id ∈ hidden, q.Settled id) (wanted : Record → Bool) :
    ((q.without hidden).records.filter fun r => r.isIdle && wanted r) =
      q.records.filter fun r => r.isIdle && wanted r :=
  filter_without h fun _ hr => (Bool.and_eq_true_iff.mp hr).1

/-! ### Offering a record -/

/-- Nothing that is like a new record is hidden. -/
theorem collisions_without (h : ∀ id ∈ hidden, q.Settled id) (r : Record) :
    (q.without hidden).collisions r = q.collisions r := by
  rw [collisions, collisions, filter_without h]
  intro s hs
  simp only [collides, Bool.and_eq_true] at hs
  exact hs.1.1

/-- Room is made in what is seen. -/
theorem without_madeRoom (h : ∀ id ∈ hidden, q.Settled id) (r : Record) :
    (q.madeRoom r).without hidden = (q.without hidden).madeRoom r := by
  have hreplaces : (q.without hidden).replaces r = q.replaces r := by
    funext o
    rw [replaces, replaces, collisions_without h]
  have hrecords := congrArg Queue.records (q.without_withoutIdle hidden (q.replaces r))
  rw [madeRoom, madeRoom, hreplaces, filter_idle_without h]
  exact congrArg (fun records => (⟨q.name, records, _⟩ : Queue)) hrecords

/-- What is put in is seen unless its id is hidden. -/
theorem without_push (hr : r.id ∉ hidden) :
    (q.push r).without hidden = (q.without hidden).push r := by
  simp [push, without, List.filter_append, hr]

/-- An insertion is seen unless the id is hidden. -/
theorem without_insertAs (hr : r.id ∉ hidden) (outcome outcome' : EnqueueOutcome) :
    (q.insertAs r outcome).2.without hidden = ((q.without hidden).insertAs r outcome').2 := by
  by_cases hid : r.id ∈ q.ids
  · have hid' : r.id ∈ (q.without hidden).ids := mem_ids_without.mpr ⟨hid, hr⟩
    rw [insertAs_of_mem _ hid, insertAs_of_mem _ hid']
  · have hid' : r.id ∉ (q.without hidden).ids := fun hmem => hid (mem_ids_without.mp hmem).1
    rw [insertAs_of_notMem _ hid, insertAs_of_notMem _ hid']
    exact without_push hr

/-- An offer is seen unless the id is hidden. -/
theorem without_enqueue (h : ∀ id ∈ hidden, q.Settled id) (hr : r.id ∉ hidden) :
    (q.enqueue r).2.without hidden = ((q.without hidden).enqueue r).2 := by
  have hc := collisions_without h r
  by_cases hs : q.collisions r = [] ∨ r.onExisting ≠ .skip
  · rw [enqueue_eq_insertAs hs, enqueue_eq_insertAs (hc.symm ▸ hs), ← without_madeRoom h]
    exact without_insertAs hr _ _
  · obtain ⟨hne, hp⟩ := not_or.mp hs
    rw [enqueue_eq_skip hne (not_not.mp hp), enqueue_eq_skip (hc.symm ▸ hne) (not_not.mp hp)]
    rfl

/-! ### Taking out and claiming -/

/-- Taking out a hidden record changes nothing for the others. -/
theorem without_complete {id : RecordId} (hid : id ∈ hidden) (q : Queue) :
    (q.complete id).2.without hidden = q.without hidden := by
  simp only [complete, remove, without]
  congr 1
  rcases List.exists_or_eq_self_of_eraseP (fun r : Record => r.id == id) q.records with
      heq | ⟨a, before, after, -, hp, hsplit, heq⟩
  · rw [heq]
  · have ha : a.id ∈ hidden := (beq_iff_eq.mp hp).symm ▸ hid
    rw [heq, hsplit]
    simp [List.filter_append, ha]

/-- A record is taken out of what is seen. -/
theorem without_remove (id : RecordId) :
    (q.remove id).2.without hidden = ((q.without hidden).remove id).2 := by
  by_cases hid : id ∈ hidden
  · have hgone : ∀ r ∈ (q.without hidden).records, ¬ (r.id == id) = true := by
      intro r hr heq
      have hout := (List.mem_filter.mp hr).2
      exact of_decide_eq_true hout ((beq_iff_eq.mp heq).symm ▸ hid)
    have hkeep := List.eraseP_of_forall_not hgone
    refine (without_complete hid q).trans ?_
    rw [remove, hkeep]
  · simp only [remove, without, List.eraseP_filter]
    congr 2
    refine congrArg (fun p => q.records.eraseP p) (funext fun r => ?_)
    by_cases heq : r.id = id
    · simp [heq, hid]
    · simp [heq]

/-- A claim marks what is seen. -/
theorem without_claimDue (now : Instant) :
    (q.claimDue now).2.without hidden = ((q.without hidden).claimDue now).2 := by
  have hrecords : ((q.records.map (marked now)).filter fun r => r.id ∉ hidden) =
      (q.records.filter fun r => r.id ∉ hidden).map (marked now) := by
    rw [List.filter_map]
    simp only [Function.comp_def, id_marked]
  exact congrArg (fun records => (⟨q.name, records, q.counters⟩ : Queue)) hrecords

/-- A claim does nothing to the records that it does not claim. -/
theorem without_claimed (q : Queue) (now : Instant) :
    (q.claimDue now).2.without ((q.claimDue now).1.map (·.id)) =
      q.without ((q.claimDue now).1.map (·.id)) := by
  rw [without_claimDue]
  have hkept : ∀ s ∈ (q.without ((q.claimDue now).1.map (·.id))).records, marked now s = s := by
    intro s hs
    obtain ⟨hs, hid⟩ := List.mem_filter.mp hs
    have hw : ¬ isWanted now s = true := fun hw =>
      of_decide_eq_true hid (List.mem_map.mpr ⟨_, mem_claimDue.mpr ⟨s, hs, hw, rfl⟩, rfl⟩)
    rw [marked, if_neg hw]
  have hrecords := (List.map_congr_left hkept).trans (List.map_id _)
  exact congrArg (fun records => (⟨q.name, records, q.counters⟩ : Queue)) hrecords

/-- A cancellation takes idle records out of what is seen. -/
theorem without_cancelMatching (h : ∀ id ∈ hidden, q.Settled id) (wanted : Record → Bool)
    (dryRun : Bool) :
    (q.cancelMatching wanted dryRun).2.without hidden =
      ((q.without hidden).cancelMatching wanted dryRun).2 := by
  cases dryRun with
  | true => rfl
  | false =>
      have hrecords := congrArg Queue.records (q.without_withoutIdle hidden wanted)
      simp only [cancelMatching, drain_eq, filter_idle_without h, Bool.false_eq_true, if_false]
      exact congrArg (fun records => (⟨q.name, records, _⟩ : Queue)) hrecords

/-! ### Any operation -/

/-- **Frame.** An operation that offers nothing under a hidden id does to the other records what it
would do if they were alone, provided that no hidden record is idle. -/
theorem without_perform (h : ∀ id ∈ hidden, q.Settled id)
    (hop : ∀ r, op.offered? = some r → r.id ∉ hidden) :
    (q.perform op).2.without hidden = ((q.without hidden).perform op).2 := by
  cases op with
  | insert new =>
      have hnew : new.id ∉ hidden := hop new rfl
      have heq : ∀ p : Queue, (p.perform (.insert new)).2 = (p.insertAs new .inserted).2 := by
        intro p
        simp only [perform, insertAs]
        cases p.insert new <;> rfl
      rw [heq, heq]
      exact without_insertAs hnew _ _
  | enqueue new => exact without_enqueue h (hop new rfl)
  | claimDue now => exact without_claimDue now
  | complete id => exact without_remove id
  | remove id => exact without_remove id
  | cancelMatching wanted dryRun => exact without_cancelMatching h wanted dryRun
  | cancelSuperseded activityId source =>
      simp only [perform, cancelSuperseded]
      split
      · rfl
      · exact without_cancelMatching h _ false
  | clear => rfl

/-- **Runs.** What is seen after operations is what they make of what is seen before, if they offer
nothing under a hidden id. -/
theorem without_run (h : ∀ id ∈ hidden, q.Settled id)
    (hops : ∀ r ∈ QueueOp.offers ops, r.id ∉ hidden) :
    (q.run ops).without hidden = (q.without hidden).run ops := by
  induction ops generalizing q with
  | nil => rfl
  | cons op ops ih =>
      rw [offers_cons] at hops
      have hop : ∀ r, op.offered? = some r → r.id ∉ hidden := fun r hr =>
        hops r (List.mem_append_left _ (by simp [hr]))
      have hsettled : ∀ id ∈ hidden, (q.perform op).2.Settled id := fun id hid =>
        (h id hid).perform fun r hr heq => hop r hr (heq ▸ hid)
      have hrest := ih hsettled fun r hr => hops r (List.mem_append_right _ hr)
      rw [show q.run (op :: ops) = (q.perform op).2.run ops from rfl, hrest,
        without_perform h hop]
      rfl

end Queue

end Deferral

import Deferral.Dispatch.Queue
import Mathlib.Data.List.Nodup

/-!
# What one operation does to a queue

An operation does one of five things to the records of a queue: it puts a new one at the end, marks
some that wait as processing, takes out some that wait, takes out one by its id, or takes out all.
The theorems on runs of operations rest on the facts collected here and look into no operation.

## Main results

* `insert_of_mem`, `insert_of_notMem` — a record is queued exactly when its id is not taken;
* `enqueue_eq_skip`, `enqueue_eq_insertAs` — an offered record is skipped, or it is inserted after
  its policy has made room for it;
* `records_perform` — what an operation can do to the records;
* `nodup_ids_perform` — no operation puts an id into the queue twice.
-/

namespace Deferral

namespace Queue

variable {q : Queue} {r : Record} {id : RecordId} {op : QueueOp}

/-- An id is in a queue if one of its records has it. -/
theorem mem_ids : id ∈ q.ids ↔ ∃ r ∈ q.records, r.id = id := List.mem_map

/-- Two records of the queue with one id are the same. -/
theorem eq_of_id_eq (hn : q.ids.Nodup) {r s : Record} (hr : r ∈ q.records) (hs : s ∈ q.records)
    (h : r.id = s.id) : r = s :=
  List.inj_on_of_nodup_map hn hr hs h

/-! ### Inserting -/

/-- The queue with one more record at its end, which is counted. -/
def push (q : Queue) (r : Record) : Queue :=
  { q with
    records := q.records ++ [r]
    counters := { q.counters with enqueued := q.counters.enqueued + 1 } }

/-- A new record comes last. -/
@[simp] theorem ids_push (q : Queue) (r : Record) : (q.push r).ids = q.ids ++ [r.id] :=
  List.map_append

/-- The test for a taken id is membership. -/
theorem any_id_iff : (q.records.any (·.id == r.id)) = true ↔ r.id ∈ q.ids := by
  simp only [List.any_eq_true, beq_iff_eq, mem_ids]

/-- A record with an id that is taken is refused. -/
theorem insert_of_mem (h : r.id ∈ q.ids) : q.insert r = .error (.duplicateId r.id) :=
  if_pos (any_id_iff.mpr h)

/-- A record with an id that is not taken is put at the end. -/
theorem insert_of_notMem (h : r.id ∉ q.ids) : q.insert r = .ok (q.push r) :=
  if_neg (mt any_id_iff.mp h)

/-- A taken id is refused, and nothing changes. -/
theorem insertAs_of_mem (outcome : EnqueueOutcome) (h : r.id ∈ q.ids) :
    q.insertAs r outcome = (.error (.duplicateId r.id), q) := by
  rw [insertAs, insert_of_mem h]

/-- A record under a new id is put in. -/
theorem insertAs_of_notMem (outcome : EnqueueOutcome) (h : r.id ∉ q.ids) :
    q.insertAs r outcome = (.ok outcome, q.push r) := by
  rw [insertAs, insert_of_notMem h]

/-! ### Taking out idle records -/

/-- The queue without the idle records that are wanted. -/
def withoutIdle (q : Queue) (wanted : Record → Bool) : Queue :=
  { q with records := q.records.filter fun r => !(r.isIdle && wanted r) }

/-- Draining hands out the wanted idle records and leaves the others. -/
theorem drain_eq (q : Queue) (wanted : Record → Bool) :
    q.drain wanted = (q.records.filter fun r => r.isIdle && wanted r, q.withoutIdle wanted) := by
  simp [drain, withoutIdle, Function.comp_def]

/-! ### Offering a record -/

/-- Whether an offered record takes the place of others. -/
def replaces (q : Queue) (r : Record) (o : Record) : Bool :=
  r.onExisting == .replace && (q.collisions r).contains o.id

/-- The queue when room has been made for an offered record: under the policy to replace, without
the idle records that are like it, which are counted. -/
def madeRoom (q : Queue) (r : Record) : Queue :=
  { q.withoutIdle (q.replaces r) with
    counters := { q.counters with
      replaced := q.counters.replaced +
        (q.records.filter fun o => o.isIdle && q.replaces r o).length } }

/-- What becomes of an offered record whose id is not taken. -/
def outcome (q : Queue) (r : Record) : EnqueueOutcome :=
  if q.collisions r = [] then .inserted
  else
    match r.onExisting with
    | .skip => .skipped (q.collisions r)
    | .replace => .replaced ((q.records.filter fun o => o.isIdle && q.replaces r o).map (·.id))
    | .ignore => .duplicated (q.collisions r)

/-- Like ones of an offered record are idle. -/
theorem exists_idle_of_mem_collisions (h : id ∈ q.collisions r) :
    ∃ s ∈ q.records, s.isIdle = true ∧ s.id = id := by
  obtain ⟨s, hs, rfl⟩ := List.mem_map.mp h
  obtain ⟨hmem, hlike⟩ := List.mem_filter.mp hs
  simp only [collides, Bool.and_eq_true] at hlike
  exact ⟨s, hmem, hlike.1.1, rfl⟩

/-- An offered record that is to be skipped is counted and nothing else. -/
theorem enqueue_eq_skip (hc : q.collisions r ≠ []) (hp : r.onExisting = .skip) :
    q.enqueue r = (.ok (.skipped (q.collisions r)),
      { q with counters := { q.counters with skipped := q.counters.skipped + 1 } }) := by
  rw [enqueue]
  split
  · contradiction
  · simp only [hp]

/-- No room is made for a record that nothing collides with. -/
theorem madeRoom_of_collisions_eq_nil (hc : q.collisions r = []) : q.madeRoom r = q := by
  simp [madeRoom, withoutIdle, replaces, hc]

/-- None is made for a record that is not to replace others. -/
theorem madeRoom_of_ne_replace (hp : r.onExisting ≠ .replace) : q.madeRoom r = q := by
  simp [madeRoom, withoutIdle, replaces, beq_false_of_ne hp]

/-- An offered record that is not skipped is inserted when room has been made for it. -/
theorem enqueue_eq_insertAs (h : q.collisions r = [] ∨ r.onExisting ≠ .skip) :
    q.enqueue r = (q.madeRoom r).insertAs r (q.outcome r) := by
  by_cases hc : q.collisions r = []
  · rw [enqueue, madeRoom_of_collisions_eq_nil hc, outcome, if_pos hc]
    simp only [hc]
  · have hp : r.onExisting ≠ .skip := h.resolve_left hc
    rw [outcome, if_neg hc]
    rw [enqueue]
    split
    · contradiction
    · cases hq : r.onExisting with
      | skip => contradiction
      | replace =>
          simp only [drain_eq, madeRoom, withoutIdle, replaces, hq, beq_self_eq_true,
            Bool.true_and]
      | ignore => simp only [madeRoom_of_ne_replace (q := q) (r := r) (by simp [hq])]

/-- All that can become of an offered record. -/
theorem enqueue_cases (q : Queue) (r : Record) :
    (q.collisions r ≠ [] ∧ r.onExisting = .skip ∧
      q.enqueue r = (.ok (.skipped (q.collisions r)),
        { q with counters := { q.counters with skipped := q.counters.skipped + 1 } })) ∨
    (r.id ∈ (q.madeRoom r).ids ∧
      q.enqueue r = (.error (.duplicateId r.id), q.madeRoom r)) ∨
    (r.id ∉ (q.madeRoom r).ids ∧ (q.collisions r = [] ∨ r.onExisting ≠ .skip) ∧
      q.enqueue r = (.ok (q.outcome r), (q.madeRoom r).push r)) := by
  by_cases hs : q.collisions r = [] ∨ r.onExisting ≠ .skip
  · rw [enqueue_eq_insertAs hs]
    by_cases hid : r.id ∈ (q.madeRoom r).ids
    · exact .inr (.inl ⟨hid, insertAs_of_mem _ hid⟩)
    · exact .inr (.inr ⟨hid, hs, insertAs_of_notMem _ hid⟩)
  · obtain ⟨hc, hp⟩ := not_or.mp hs
    exact .inl ⟨hc, not_not.mp hp, enqueue_eq_skip hc (not_not.mp hp)⟩

/-! ### Claiming and cancelling -/

/-- Whether a record is claimed by a tick at a time. -/
def isWanted (now : Instant) (r : Record) : Bool := r.isIdle && r.isDue now

/-- A record as a tick that claims it leaves it. -/
def marked (now : Instant) (r : Record) : Record :=
  if isWanted now r then { r with processing := true } else r

/-- A claim does not change ids. -/
@[simp] theorem id_marked (now : Instant) (r : Record) : (marked now r).id = r.id := by
  rw [marked]
  split <;> rfl

/-- A claim leaves a record alone or marks it. -/
theorem marked_cases (now : Instant) (r : Record) :
    marked now r = r ∨ marked now r = { r with processing := true } := by
  rw [marked]
  split
  · exact .inr rfl
  · exact .inl rfl

/-- A claim marks the records where they are. -/
theorem records_claimDue (q : Queue) (now : Instant) :
    (q.claimDue now).2.records = q.records.map (marked now) := rfl

/-- The ids of a queue stay as they are in a claim. -/
@[simp] theorem ids_claimDue (q : Queue) (now : Instant) : (q.claimDue now).2.ids = q.ids := by
  simp [ids, records_claimDue, Function.comp_def]

/-- A cancellation lists the idle records that are wanted, and takes them out if it is in
earnest. -/
theorem cancelMatching_eq (q : Queue) (wanted : Record → Bool) (dryRun : Bool) :
    (q.cancelMatching wanted dryRun).1 = (q.records.filter fun r => r.isIdle && wanted r) ∧
    (q.cancelMatching wanted dryRun).2.records =
      if dryRun then q.records else (q.withoutIdle wanted).records := by
  cases dryRun <;> simp [cancelMatching, drain_eq]

/-- What is left by a cancellation stays in its order. -/
theorem records_cancelMatching_sublist (q : Queue) (wanted : Record → Bool) (dryRun : Bool) :
    (q.cancelMatching wanted dryRun).2.records.Sublist q.records := by
  rw [(q.cancelMatching_eq wanted dryRun).2]
  cases dryRun
  · exact List.filter_sublist
  · exact .refl _

/-! ### Taking out one record -/

/-- A record that is completed takes its id out. -/
theorem ids_complete (q : Queue) (id : RecordId) : (q.complete id).2.ids = q.ids.erase id := by
  rw [List.erase_eq_eraseP', ids, ids, List.eraseP_map]
  rfl

/-- A record that has been taken out is not in the queue. -/
theorem notMem_ids_complete (h : q.ids.Nodup) (id : RecordId) : id ∉ (q.complete id).2.ids := by
  rw [ids_complete]
  exact h.not_mem_erase

/-! ### Any operation -/

/-- The records after an operation: those from before, some of them gone, or marked if it claims, or
those from before, some of them gone, and then the record that it offered. -/
theorem records_perform (q : Queue) (op : QueueOp) :
    (q.perform op).2.records.Sublist q.records ∨
    (∃ now, op = .claimDue now ∧ (q.perform op).2.records = q.records.map (marked now)) ∨
    (∃ r kept, op.offered? = some r ∧ kept.Sublist q.records ∧ r.id ∉ kept.map (·.id) ∧
      (q.perform op).2.records = kept ++ [r]) := by
  cases op with
  | insert new =>
      by_cases hid : new.id ∈ q.ids
      · simp only [perform, insert_of_mem hid]
        exact .inl (.refl _)
      · simp only [perform, insert_of_notMem hid]
        exact .inr (.inr ⟨new, q.records, rfl, .refl _, hid, rfl⟩)
  | enqueue new =>
      simp only [perform]
      rcases q.enqueue_cases new with ⟨-, -, he⟩ | ⟨-, he⟩ | ⟨hid, -, he⟩
      · exact he ▸ .inl (.refl _)
      · exact he ▸ .inl List.filter_sublist
      · exact he ▸ .inr (.inr ⟨new, (q.madeRoom new).records, rfl, List.filter_sublist, hid, rfl⟩)
  | claimDue now => exact .inr (.inl ⟨now, rfl, rfl⟩)
  | complete id => exact .inl List.eraseP_sublist
  | remove id => exact .inl List.eraseP_sublist
  | cancelMatching wanted dryRun => exact .inl (q.records_cancelMatching_sublist wanted dryRun)
  | cancelSuperseded activityId source =>
      simp only [perform, cancelSuperseded]
      split
      · exact .inl (.refl _)
      · exact .inl (q.records_cancelMatching_sublist _ false)
  | clear => exact .inl (List.nil_sublist _)

/-- A record that is in the queue after an operation was offered by it or was there before. Of those
that were there a claim has marked some, and nothing else has changed. -/
theorem mem_records_perform (h : r ∈ (q.perform op).2.records) :
    op.offered? = some r ∨ ∃ s ∈ q.records, r = s ∨ r = { s with processing := true } := by
  rcases q.records_perform op with hsub | ⟨now, -, heq⟩ | ⟨new, kept, ho, hsub, -, heq⟩
  · exact .inr ⟨r, hsub.subset h, .inl rfl⟩
  · rw [heq] at h
    obtain ⟨s, hs, rfl⟩ := List.mem_map.mp h
    exact .inr ⟨s, hs, marked_cases now s⟩
  · rw [heq, List.mem_append, List.mem_singleton] at h
    exact h.elim (fun h => .inr ⟨r, hsub.subset h, .inl rfl⟩) fun h => .inl (h ▸ ho)

/-- An operation that is no claim marks nothing. -/
theorem offered_or_mem_of_not_claim (hop : ∀ now, op ≠ .claimDue now)
    (h : r ∈ (q.perform op).2.records) : op.offered? = some r ∨ r ∈ q.records := by
  rcases q.records_perform op with hsub | ⟨now, hclaim, -⟩ | ⟨new, kept, ho, hsub, -, heq⟩
  · exact .inr (hsub.subset h)
  · exact absurd hclaim (hop now)
  · rw [heq, List.mem_append, List.mem_singleton] at h
    exact h.elim (fun h => .inr (hsub.subset h)) fun h => .inl (h ▸ ho)

/-- The ids after an operation are those from before, some of them gone, and perhaps that of the
record it offered, if it was not taken. -/
theorem ids_perform (q : Queue) (op : QueueOp) :
    (q.perform op).2.ids.Sublist q.ids ∨
      ∃ r ids, op.offered? = some r ∧ ids.Sublist q.ids ∧ r.id ∉ ids ∧
        (q.perform op).2.ids = ids ++ [r.id] := by
  rcases q.records_perform op with hsub | ⟨now, rfl, -⟩ | ⟨new, kept, ho, hsub, hid, heq⟩
  · exact .inl (hsub.map _)
  · exact .inl (q.ids_claimDue now ▸ .refl _)
  · exact .inr ⟨new, kept.map (·.id), ho, hsub.map _, hid, by rw [ids, heq, List.map_append]; rfl⟩

/-- No operation puts an id into the queue that is in it. -/
theorem nodup_ids_perform (h : q.ids.Nodup) (op : QueueOp) : (q.perform op).2.ids.Nodup := by
  rcases q.ids_perform op with hsub | ⟨r, ids, -, hsub, hid, heq⟩
  · exact h.sublist hsub
  · rw [heq, List.nodup_append]
    refine ⟨h.sublist hsub, List.nodup_singleton _, ?_⟩
    rintro a ha b hb rfl
    exact hid (List.mem_singleton.mp hb ▸ ha)

/-! ### Runs of operations -/

/-- What operations offer, the first one and those after it. -/
theorem offers_cons (op : QueueOp) (ops : List QueueOp) :
    QueueOp.offers (op :: ops) = op.offered?.toList ++ QueueOp.offers ops := by
  cases h : op.offered? <;> simp [QueueOp.offers, h]

/-- Operations that offer records offer these records. -/
theorem offers_enqueue (records : List Record) :
    QueueOp.offers (records.map .enqueue) = records := by
  simp [QueueOp.offers, List.filterMap_map, Function.comp_def, QueueOp.offered?]

/-- **Runs.** Ids stay different. -/
theorem nodup_ids_run (h : q.ids.Nodup) (ops : List QueueOp) : (q.run ops).ids.Nodup := by
  induction ops generalizing q with
  | nil => exact h
  | cons op ops ih => exact ih (nodup_ids_perform h op)

end Queue

end Deferral

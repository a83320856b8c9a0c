import Deferral.Proofs.Queue.Step

/-!
# Offered records

What is answered to an offer of a record, and what is left in the queue afterwards, when the offer
is refused and when it is not.

## Main results

* `enqueue_eq_error_iff` — when a record is refused, and what is left in the queue;
* `enqueue_error_unchanged_iff` — a refused record leaves the queue as it was unless it was to
  replace others;
* `mem_like_iff` — the ids of the like ones belong to no other record;
* `enqueue_of_nodup` — what is answered to an offer, and the queue afterwards;
* `enqueue_run_eq` — the same for any queue that operations lead to.
-/

namespace Deferral

/-! ### Refused offers

A record that is offered under an id that is taken is refused. By then its policy has been followed:
under the policy to replace, the like records are gone and counted although nothing has come in
their place. -/

namespace Queue

variable {q : Queue} {r : Record} {e : QueueError}

/-- Making room takes something out exactly when there is something to be replaced. -/
theorem madeRoom_eq_self_iff :
    q.madeRoom r = q ↔ r.onExisting ≠ .replace ∨ q.collisions r = [] := by
  constructor
  · intro h
    by_contra hboth
    obtain ⟨hp, hc⟩ := not_or.mp hboth
    obtain ⟨id, hid⟩ := List.exists_mem_of_ne_nil _ hc
    obtain ⟨s, hs, hidle, rfl⟩ := exists_idle_of_mem_collisions hid
    have hkept : s ∈ (q.madeRoom r).records := h.symm ▸ hs
    have hout := (List.mem_filter.mp hkept).2
    simp [replaces, not_not.mp hp, hidle, hid] at hout
  · rintro (hp | hc)
    · exact madeRoom_of_ne_replace hp
    · exact madeRoom_of_collisions_eq_nil hc

/-- A record is refused exactly when it is not skipped and its id is taken by a record that it does
not replace. What it would have replaced is gone all the same. -/
theorem enqueue_eq_error_iff {after : Queue} :
    q.enqueue r = (.error e, after) ↔
      (q.collisions r = [] ∨ r.onExisting ≠ .skip) ∧ r.id ∈ (q.madeRoom r).ids ∧
        e = .duplicateId r.id ∧ after = q.madeRoom r := by
  by_cases hs : q.collisions r = [] ∨ r.onExisting ≠ .skip
  · rw [enqueue_eq_insertAs hs]
    by_cases hid : r.id ∈ (q.madeRoom r).ids
    · rw [insertAs_of_mem _ hid, Prod.mk.injEq, Except.error.injEq]
      constructor
      · rintro ⟨rfl, rfl⟩
        exact ⟨hs, hid, rfl, rfl⟩
      · rintro ⟨-, -, rfl, rfl⟩
        exact ⟨rfl, rfl⟩
    · simp [insertAs_of_notMem _ hid, hid]
  · obtain ⟨hc, hp⟩ := not_or.mp hs
    simp [enqueue_eq_skip hc (not_not.mp hp), hs]

/-- **A refused record.** A record is refused only because its id is taken, and what it leaves is
the queue with room made for it. So the queue is as it was unless the record was to replace others
and there were like ones. -/
theorem enqueue_error_unchanged_iff (q : Queue) (r : Record) (e : QueueError)
    (h : (q.enqueue r).1 = .error e) :
    e = .duplicateId r.id ∧ r.id ∈ q.ids ∧ (q.enqueue r).2 = q.madeRoom r ∧
    ((q.enqueue r).2 = q ↔ r.onExisting ≠ .replace ∨ q.collisions r = []) := by
  have herr : q.enqueue r = (.error e, (q.enqueue r).2) := Prod.ext h rfl
  obtain ⟨-, hid, he, hafter⟩ := enqueue_eq_error_iff.mp herr
  have htaken : r.id ∈ q.ids := (List.filter_sublist.map _).subset hid
  refine ⟨he, htaken, hafter, ?_⟩
  rw [hafter]
  exact madeRoom_eq_self_iff

/-- A queue with two idle records of one activity. -/
def twoTagged : Queue :=
  (new "test").run [
    .insert { Record.plain ⟨1⟩ (.submission "t3_a" "test") .dispatch (.ofSeconds 60) .epoch with
      identifier := some "x" },
    .insert { Record.plain ⟨2⟩ (.submission "t3_a" "test") .dispatch (.ofSeconds 60) .epoch with
      identifier := some "y" }]

/-- A record that would replace the first of them, under the id of the second. -/
def replacement : Record :=
  { Record.plain ⟨2⟩ (.submission "t3_a" "test") .dispatch (.ofSeconds 60) .epoch with
    identifier := some "x"
    onExisting := .replace }

/-- It is refused, and the record that it would have replaced is gone and counted. -/
theorem enqueue_error_loses_replaced :
    (twoTagged.enqueue replacement).1 = .error (.duplicateId ⟨2⟩) ∧
    twoTagged.ids = [⟨1⟩, ⟨2⟩] ∧ (twoTagged.enqueue replacement).2.ids = [⟨2⟩] ∧
    twoTagged.counters.replaced = 0 ∧ (twoTagged.enqueue replacement).2.counters.replaced = 1 := by
  decide

/-- The same record under another policy is refused and changes nothing. -/
theorem enqueue_error_unchanged_ignore :
    (twoTagged.enqueue { replacement with onExisting := .ignore }).1 = .error (.duplicateId ⟨2⟩) ∧
    (twoTagged.enqueue { replacement with onExisting := .ignore }).2 = twoTagged := by
  have h : (twoTagged.enqueue { replacement with onExisting := .ignore }).1 =
      .error (.duplicateId ⟨2⟩) := by decide
  exact ⟨h, (enqueue_error_unchanged_iff twoTagged _ _ h).2.2.2.mpr (.inl (by decide))⟩

end Queue

/-! ### What becomes of an offered record

A record that waits is like a new one if it is of the same activity and has the identifier of the
new one, if that has any. When nothing is like it, an offered record is put in; otherwise its own
policy says whether it is left out, takes the place of the like ones, or is put in beside them. The
like ones are taken out by their ids in a second pass; since ids are different in a queue, that pass
meets them and nothing else. -/

/-- A record that waits is like a new one if it is of the same activity and has the identifier of
the new one, if that has any. -/
def Record.IsLike (new o : Record) : Prop :=
  o.processing = false ∧ o.activity.id = new.activity.id ∧
    (new.identifier = none ∨ o.identifier = new.identifier)

instance (new o : Record) : Decidable (new.IsLike o) :=
  inferInstanceAs (Decidable (_ ∧ _ ∧ (_ ∨ _)))

namespace Queue

variable {q : Queue} {r o : Record}

/-- The ids of the records that are like a new one, in the order of the queue. -/
def like (q : Queue) (r : Record) : List RecordId :=
  (q.records.filter fun o => r.IsLike o).map (·.id)

/-- What an offered record comes to and what it leaves, by the records that are like it and by its
own policy. -/
def byPolicy (q : Queue) (r : Record) : EnqueueOutcome × Queue :=
  let c := q.counters
  if q.like r = [] then
    (.inserted, ⟨q.name, q.records ++ [r], { c with enqueued := c.enqueued + 1 }⟩)
  else
    match r.onExisting with
    | .skip =>
        (.skipped (q.like r), ⟨q.name, q.records, { c with skipped := c.skipped + 1 }⟩)
    | .replace =>
        (.replaced (q.like r),
          ⟨q.name, (q.records.filter fun o => o.id ∉ q.like r) ++ [r],
            { c with
              enqueued := c.enqueued + 1
              replaced := c.replaced + (q.like r).length }⟩)
    | .ignore =>
        (.duplicated (q.like r),
          ⟨q.name, q.records ++ [r], { c with enqueued := c.enqueued + 1 }⟩)

/-- The test of a queue is the relation. -/
theorem collides_iff : collides r o = true ↔ r.IsLike o := by
  have hidentifier : o.hasIdentifier r.identifier = true ↔
      r.identifier = none ∨ o.identifier = r.identifier := by
    cases hr : r.identifier with
    | none => simp [Record.hasIdentifier]
    | some wanted => simp [Record.hasIdentifier]
  rw [collides, Bool.and_eq_true, Bool.and_eq_true, hidentifier, beq_iff_eq, Record.isIdle,
    Bool.not_eq_true', and_assoc]
  rfl

/-- What an offer collides with is what is like it. -/
theorem collisions_eq_like (q : Queue) (r : Record) : q.collisions r = q.like r := by
  have hsame : collides r = fun o => decide (r.IsLike o) := by
    funext o
    rw [Bool.eq_iff_iff, collides_iff, decide_eq_true_iff]
  rw [collisions, like, hsame]

/-- The ids of the like ones belong to no other record of the queue. -/
theorem mem_like_iff (hn : q.ids.Nodup) (ho : o ∈ q.records) : o.id ∈ q.like r ↔ r.IsLike o := by
  constructor
  · intro h
    obtain ⟨s, hs, hid⟩ := List.mem_map.mp h
    obtain ⟨hmem, hlike⟩ := List.mem_filter.mp hs
    obtain rfl : s = o := eq_of_id_eq hn hmem ho hid
    exact of_decide_eq_true hlike
  · intro h
    exact List.mem_map_of_mem (List.mem_filter.mpr ⟨ho, decide_eq_true h⟩)

/-- The second pass, which takes out idle records by id, meets the like ones and no others. -/
theorem replaces_iff (hn : q.ids.Nodup) (hp : r.onExisting = .replace) (ho : o ∈ q.records) :
    (o.isIdle && q.replaces r o) = true ↔ o.id ∈ q.like r := by
  rw [Bool.and_eq_true, replaces, hp, beq_self_eq_true, Bool.true_and, List.contains_iff_mem,
    collisions_eq_like]
  constructor
  · exact fun h => h.2
  · intro h
    have hidle : o.isIdle = true := by
      rw [Record.isIdle, ((mem_like_iff hn ho).mp h).1]
      rfl
    exact ⟨hidle, h⟩

/-- What is replaced are the like ones. -/
theorem replaced_eq_like (hn : q.ids.Nodup) (hp : r.onExisting = .replace) :
    (q.records.filter fun o => o.isIdle && q.replaces r o).map (·.id) = q.like r := by
  refine congrArg (List.map Record.id) (List.filter_congr fun o ho => ?_)
  rw [Bool.eq_iff_iff, replaces_iff hn hp ho, mem_like_iff hn ho, decide_eq_true_iff]

/-- Room for a record that is to replace others is made by taking out the like ones. -/
theorem madeRoom_eq (hn : q.ids.Nodup) (hp : r.onExisting = .replace) :
    q.madeRoom r =
      ⟨q.name, q.records.filter fun o => o.id ∉ q.like r,
        { q.counters with replaced := q.counters.replaced + (q.like r).length }⟩ := by
  have hcount : (q.records.filter fun o => o.isIdle && q.replaces r o).length =
      (q.like r).length := by
    rw [← replaced_eq_like hn hp, List.length_map]
  have hkept : (q.records.filter fun o => !(o.isIdle && q.replaces r o)) =
      q.records.filter fun o => o.id ∉ q.like r := by
    refine List.filter_congr fun o ho => ?_
    rw [Bool.eq_iff_iff, Bool.not_eq_true', ← Bool.not_eq_true, replaces_iff hn hp ho,
      decide_eq_true_iff]
  rw [madeRoom, hcount, withoutIdle, hkept]

/-- A record with an id that is not taken and without like ones is put in. -/
theorem enqueue_of_like_eq_nil (hid : r.id ∉ q.ids) (hl : q.like r = []) :
    q.enqueue r = (.ok .inserted, q.push r) := by
  have hc : q.collisions r = [] := (q.collisions_eq_like r).trans hl
  rw [enqueue_eq_insertAs (.inl hc), madeRoom_of_collisions_eq_nil hc, insertAs_of_notMem _ hid,
    outcome, if_pos hc]

/-- What is answered to the offer of a record with an id that is not taken, and the queue
afterwards. -/
theorem enqueue_of_nodup (hn : q.ids.Nodup) (hid : r.id ∉ q.ids) :
    q.enqueue r = (.ok (q.byPolicy r).1, (q.byPolicy r).2) := by
  by_cases hl : q.like r = []
  · rw [byPolicy, if_pos hl, enqueue_of_like_eq_nil hid hl]
    rfl
  · have hc : q.collisions r ≠ [] := fun h => hl ((q.collisions_eq_like r).symm.trans h)
    rw [byPolicy, if_neg hl]
    cases hp : r.onExisting with
    | skip => rw [enqueue_eq_skip hc hp, collisions_eq_like]
    | replace =>
        have hfree : r.id ∉ (q.madeRoom r).ids := fun h =>
          hid ((List.filter_sublist.map _).subset h)
        rw [enqueue_eq_insertAs (.inr (by simp [hp])), insertAs_of_notMem _ hfree, outcome,
          if_neg hc, hp, replaced_eq_like hn hp, madeRoom_eq hn hp]
        rfl
    | ignore =>
        have hsame : q.madeRoom r = q := madeRoom_of_ne_replace (by simp [hp])
        rw [enqueue_eq_insertAs (.inr (by simp [hp])), hsame, insertAs_of_notMem _ hid, outcome,
          if_neg hc, hp, collisions_eq_like]
        rfl

/-- A record is simply inserted only if nothing is like it. -/
theorem byPolicy_eq_inserted_iff : (q.byPolicy r).1 = .inserted ↔ q.like r = [] := by
  constructor
  · intro h
    by_contra hl
    rw [byPolicy, if_neg hl] at h
    cases hp : r.onExisting <;> rw [hp] at h <;> exact nomatch h
  · intro hl
    rw [byPolicy, if_pos hl]

/-- **What becomes of an offered record.** In any queue that operations lead to, let a record be
offered whose id is not taken. It is simply inserted exactly if no record is like it; otherwise its
own policy decides, and the answer lists the ids of the like ones, which belong to no other record.
All records that stay are unchanged and in order, and of the counters exactly those move that the
answer tells of. -/
theorem enqueue_run_eq (name : String) (ops : List QueueOp) (r : Record)
    (hid : r.id ∉ ((new name).run ops).ids) :
    let q := (new name).run ops
    q.enqueue r = (.ok (q.byPolicy r).1, (q.byPolicy r).2) ∧
    ((q.enqueue r).1 = .ok .inserted ↔ q.like r = []) ∧
    ∀ o ∈ q.records, o.id ∈ q.like r ↔ r.IsLike o := by
  intro q
  have hn : q.ids.Nodup := nodup_ids_run (q := new name) List.nodup_nil ops
  have heq := enqueue_of_nodup hn hid
  refine ⟨heq, ?_, fun o ho => mem_like_iff hn ho⟩
  rw [heq, Except.ok.injEq, byPolicy_eq_inserted_iff]

/-- An idle record of an activity. -/
def tagged (n : BitVec 128) (activityId : String) (identifier : Option String) : Record :=
  { Record.plain ⟨n⟩ (.submission activityId "s") .dispatch .zero .epoch with
    identifier := identifier }

/-- A record is claimed, and then come two more of its activity and one of another. -/
def claimedThenThree : List QueueOp :=
  [
    .insert (tagged 1 "a" (some "x")), .claimDue .epoch, .insert (tagged 2 "a" (some "x")),
    .insert (tagged 3 "b" none), .insert (tagged 4 "a" none)
  ]

/-- A record without an identifier that is to replace others then takes the place of the two, with
and without identifier, and not of the claimed one. -/
theorem enqueue_run_eq_untagged :
    let q := (new "q").run claimedThenThree
    let r := { tagged 5 "a" none with onExisting := .replace }
    r.id ∉ q.ids ∧ (q.enqueue r).1 = .ok (.replaced [⟨2⟩, ⟨4⟩]) ∧
      (q.enqueue r).2.ids = [⟨1⟩, ⟨3⟩, ⟨5⟩] ∧ (q.enqueue r).2.counters = ⟨5, 0, 2, 0⟩ := by
  intro q r
  have hid : r.id ∉ q.ids := by decide
  have heq := (enqueue_run_eq "q" claimedThenThree r hid).1
  refine ⟨hid, ?_, ?_, ?_⟩
  · rw [heq]
    decide
  · rw [heq]
    decide
  · rw [heq]
    decide

end Queue

end Deferral

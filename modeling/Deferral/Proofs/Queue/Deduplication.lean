import Deferral.Proofs.Queue.Step

/-!
# De-duplication

Under the policies to skip and to replace, a record that is put into the queue finds no idle record
of its activity there with its identifier. Whoever offers an activity under these two policies only,
whatever else is done to the queue meanwhile, never has two idle records of one identifier in it.

## Main results

* `notMem_madeRoom_of_like` — a record that is queued under one of the two policies finds no idle
  one of its activity and identifier;
* `countP_idle_run_le_one` — at any time there is at most one idle record for an identifier.
-/

namespace Deferral

/-- Whether an operation puts records of an activity into the queue only under the policies to skip
and to replace. -/
def QueueOp.Deduplicates (activityId : String) : QueueOp → Prop
  | insert r => r.activity.id ≠ activityId
  | enqueue r => r.activity.id = activityId → r.onExisting = .skip ∨ r.onExisting = .replace
  | _ => True

namespace Record

/-- Whether a record is idle, of an activity, and of an identifier or of none. -/
def isIdleAs (activityId : String) (identifier : Option String) (r : Record) : Bool :=
  r.isIdle && r.activity.id == activityId && r.identifier == identifier

end Record

namespace Queue

variable {q : Queue} {r : Record} {activityId : String} {identifier : Option String}

/-- An idle record of the activity and identifier of a new one is like the new one. -/
theorem collides_of_isIdleAs {s : Record}
    (h : s.isIdleAs r.activity.id r.identifier = true) : collides r s = true := by
  simp only [Record.isIdleAs, Bool.and_eq_true, beq_iff_eq] at h
  obtain ⟨⟨hidle, hactivity⟩, hidentifier⟩ := h
  have hlike : s.hasIdentifier r.identifier = true := by
    cases hr : r.identifier with
    | none => rfl
    | some wanted => exact beq_iff_eq.mpr (hidentifier.trans hr)
  rw [collides, hidle, hactivity, hlike, beq_self_eq_true]
  rfl

/-- A record that is to be queued under the policy to skip or to replace finds no idle one of its
activity and identifier when room has been made for it. -/
theorem notMem_madeRoom_of_like (hp : r.onExisting = .skip ∨ r.onExisting = .replace)
    (hs : q.collisions r = [] ∨ r.onExisting ≠ .skip) {s : Record}
    (h : s.isIdleAs r.activity.id r.identifier = true) : s ∉ (q.madeRoom r).records := by
  intro hmem
  obtain ⟨hmem, hkept⟩ := List.mem_filter.mp hmem
  have hlike : s.id ∈ q.collisions r :=
    List.mem_map_of_mem (List.mem_filter.mpr ⟨hmem, collides_of_isIdleAs h⟩)
  have hne : q.collisions r ≠ [] := List.ne_nil_of_mem hlike
  have hreplace : r.onExisting = .replace := hp.resolve_left (hs.resolve_left hne)
  simp only [Record.isIdleAs, Bool.and_eq_true] at h
  simp [replaces, hreplace, hlike, h.1.1] at hkept

/-- One operation keeps at most one idle record for an identifier. -/
theorem countP_idle_perform_le_one {op : QueueOp} (hop : op.Deduplicates activityId)
    (h : q.records.countP (Record.isIdleAs activityId identifier) ≤ 1) :
    (q.perform op).2.records.countP (Record.isIdleAs activityId identifier) ≤ 1 := by
  have fewer {records : List Record} (hsub : records.Sublist q.records) :
      records.countP (Record.isIdleAs activityId identifier) ≤ 1 := Nat.le_trans hsub.countP_le h
  cases op with
  | insert new =>
      by_cases hid : new.id ∈ q.ids
      · simp only [perform, insert_of_mem hid]
        exact h
      · have hother : ¬ new.isIdleAs activityId identifier = true := by
          simp [Record.isIdleAs, show new.activity.id ≠ activityId from hop]
        simp only [perform, insert_of_notMem hid, push, List.countP_append,
          List.countP_singleton, if_neg hother]
        exact h
  | enqueue new =>
      simp only [perform]
      rcases q.enqueue_cases new with ⟨-, -, he⟩ | ⟨-, he⟩ | ⟨-, hs, he⟩
      · exact he ▸ h
      · exact he ▸ fewer List.filter_sublist
      · simp only [he, push, List.countP_append, List.countP_singleton]
        split
        · -- the new record is the one: nothing of its kind was left
          rename_i hnew
          have hnew' := hnew
          simp only [Record.isIdleAs, Bool.and_eq_true, beq_iff_eq] at hnew'
          obtain ⟨⟨-, rfl⟩, rfl⟩ := hnew'
          have hzero : (q.madeRoom new).records.countP
              (Record.isIdleAs new.activity.id new.identifier) = 0 :=
            List.countP_eq_zero.mpr fun s hs' hlike =>
              notMem_madeRoom_of_like (hop rfl) hs hlike hs'
          omega
        · exact fewer List.filter_sublist
  | claimDue now =>
      simp only [perform, records_claimDue, List.countP_map]
      refine Nat.le_trans (List.countP_mono_left fun s _ hs => ?_) h
      simp only [Function.comp_apply, marked] at hs
      split at hs
      · simp [Record.isIdleAs, Record.isIdle] at hs
      · exact hs
  | complete id => exact fewer List.eraseP_sublist
  | remove id => exact fewer List.eraseP_sublist
  | cancelMatching wanted dryRun =>
      exact fewer (q.records_cancelMatching_sublist wanted dryRun)
  | cancelSuperseded activityId source =>
      simp only [perform, cancelSuperseded]
      split
      · exact h
      · exact fewer (q.records_cancelMatching_sublist _ false)
  | clear => exact Nat.zero_le 1

/-- Operations keep at most one idle record for an identifier. -/
theorem countP_idle_le_one_of_run {ops : List QueueOp}
    (hops : ∀ op ∈ ops, op.Deduplicates activityId)
    (h : q.records.countP (Record.isIdleAs activityId identifier) ≤ 1) :
    (q.run ops).records.countP (Record.isIdleAs activityId identifier) ≤ 1 := by
  induction ops generalizing q with
  | nil => exact h
  | cons op ops ih =>
      exact ih (fun o ho => hops o (List.mem_cons_of_mem _ ho))
        (countP_idle_perform_le_one (hops op List.mem_cons_self) h)

/-- **One idle record for an identifier.** Let the records of an activity enter a queue that is
empty at first only under the policies to skip and to replace, in any mixture, between any other
operations. Then at any time the queue holds at most one idle record of that activity for an
identifier, and at most one without any. -/
theorem countP_idle_run_le_one (name activityId : String) (ops : List QueueOp)
    (h : ∀ op ∈ ops, op.Deduplicates activityId) (identifier : Option String) :
    ((new name).run ops).records.countP (Record.isIdleAs activityId identifier) ≤ 1 :=
  countP_idle_le_one_of_run h (Nat.zero_le 1)

/-- Two producers offer records of one activity, with a tag and without one, while a tick claims the
first and a record of another activity comes in unasked. -/
def taggedAndPlain : List QueueOp :=
  let r (n : BitVec 128) (activityId : String) (identifier : Option String) (p : OnExisting) :
      Record :=
    { Record.plain ⟨n⟩ (.submission activityId "s") .dispatch .zero .epoch with
      identifier := identifier
      onExisting := p }
  [
    .enqueue (r 1 "a" (some "x") .skip), .claimDue .epoch, .insert (r 2 "b" none .ignore),
    .enqueue (r 3 "a" (some "x") .skip), .enqueue (r 4 "a" (some "x") .replace),
    .enqueue (r 5 "a" (some "y") .replace), .enqueue (r 6 "a" none .skip)
  ]

/-- After them the activity has one idle record for each tag, and the one that is processed. -/
theorem countP_idle_run_le_one_taggedAndPlain :
    (∀ op ∈ taggedAndPlain, op.Deduplicates "a") ∧
    ((new "q").run taggedAndPlain).ids = [⟨1⟩, ⟨2⟩, ⟨4⟩, ⟨5⟩] ∧
    ((new "q").run taggedAndPlain).records.countP (Record.isIdleAs "a" (some "x")) ≤ 1 := by
  have h : ∀ op ∈ taggedAndPlain, op.Deduplicates "a" := by
    simp [taggedAndPlain, QueueOp.Deduplicates, Record.plain, Activity.submission]
  exact ⟨h, by decide, countP_idle_run_le_one "q" "a" taggedAndPlain h (some "x")⟩

end Queue

end Deferral

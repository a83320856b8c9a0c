import Deferral.Proofs.Action.Targets
import Deferral.Proofs.Queue.Offers

/-!
# What a dispatch action does and tells

A dispatch action finds all its targets before it offers the first record, so a failed fetch leaves
the queue as it was. Its records are for different activities and have ids that are not taken, so
none of them is refused and none meets another: what becomes of each is told by the queue as it was
before the action, and what the action reports is what is in the queue afterwards.

## Main results

* `queueAll_eq` — what offering a record for each of several activities comes to;
* `handle_of_ok`, `handle_of_error` — what an action comes to, by what its targets come to;
* `handle_truthful` — an action does all or nothing, and tells what it did.
-/

namespace Deferral

/-- There are ids for a number of new records: they are different, and none is taken. -/
structure Queue.Supply (q : Queue) (fresh : Nat → RecordId) (count : Nat) : Prop where
  differ : ∀ m < count, ∀ n < count, fresh m = fresh n → m = n
  free : ∀ n < count, fresh n ∉ q.ids

/-- Ids that last for some records last for fewer. -/
theorem Queue.Supply.mono {q : Queue} {fresh : Nat → RecordId} {m n : Nat}
    (h : q.Supply fresh n) (hle : m ≤ n) : q.Supply fresh m where
  differ i hi j hj := h.differ i (by omega) j (by omega)
  free i hi := h.free i (by omega)

namespace DispatchAction

variable {a : DispatchAction} {fetcher : Fetcher} {now : Instant} {dryRun : Option Bool}
  {fresh : Nat → RecordId} {context : RunContext} {q after : Queue} {activities : List Activity}
  {targets : Targets} {result : ActionResult}

/-- The records that are offered for activities, each with an id of its own. -/
def offers (a : DispatchAction) (now : Instant) (dryRun : Option Bool) (fresh : Nat → RecordId)
    (activities : List Activity) : List Record :=
  activities.mapIdx fun n activity => a.recordFor (fresh n) now dryRun activity

/-- What is told about offered records, one line for each. -/
def account (a : DispatchAction) (q : Queue) (offers : List Record) : List String :=
  offers.map fun r => line a.type r.activity.id (q.byPolicy r).1

/-! ### The records that are offered -/

/-- The first activity takes the first id, and the others take those that follow. -/
theorem offers_cons (activity : Activity) :
    a.offers now dryRun fresh (activity :: activities) =
      a.recordFor (fresh 0) now dryRun activity ::
        a.offers now dryRun (fun n => fresh (n + 1)) activities :=
  List.mapIdx_cons

/-- A record that is offered has one of the ids, is for one of the activities, follows the policy of
the action, and waits. -/
theorem makes_of_mem_offers {r : Record} (hr : r ∈ a.offers now dryRun fresh activities) :
    (∃ n < activities.length, r.id = fresh n) ∧ r.activity ∈ activities ∧
      r.onExisting = a.config.onExisting ∧ r.isIdle = true := by
  obtain ⟨n, hn, rfl⟩ := List.mem_mapIdx.mp hr
  exact ⟨⟨n, hn, rfl⟩, List.getElem_mem hn, rfl, rfl⟩

/-- There is one record for each activity, in their order. -/
theorem map_activity_offers (a : DispatchAction) (now : Instant) (dryRun : Option Bool)
    (fresh : Nat → RecordId) (activities : List Activity) :
    (a.offers now dryRun fresh activities).map (·.activity) = activities := by
  induction activities generalizing fresh with
  | nil => rfl
  | cons activity activities ih => rw [offers_cons, List.map_cons, ih]; rfl

/-- The ids of the records differ if those that are drawn do. -/
theorem nodup_ids_offers
    (hdiffer : ∀ m < activities.length, ∀ n < activities.length, fresh m = fresh n → m = n) :
    ((a.offers now dryRun fresh activities).map (·.id)).Nodup := by
  induction activities generalizing fresh with
  | nil => exact List.nodup_nil
  | cons activity activities ih =>
      rw [List.length_cons] at hdiffer
      rw [offers_cons, List.map_cons]
      refine List.nodup_cons.mpr ⟨fun hmem => ?_, ih fun m hm n hn h => ?_⟩
      · obtain ⟨r, hr, hid⟩ := List.mem_map.mp hmem
        obtain ⟨n, hn, hnew⟩ := (makes_of_mem_offers hr).1
        have hzero := hdiffer (n + 1) (by omega) 0 (by omega) (hnew.symm.trans hid)
        omega
      · have hsucc := hdiffer (m + 1) (by omega) (n + 1) (by omega) h
        omega

/-- Records for activities with different ids are apart if there are ids for them. -/
theorem apart_offers (hn : q.ids.Nodup) (hsupply : q.Supply fresh activities.length)
    (hactivities : (activities.map (·.id)).Nodup) :
    q.Apart (a.offers now dryRun fresh activities) where
  nodup := hn
  free r hr := by
    obtain ⟨n, hn, hid⟩ := (makes_of_mem_offers hr).1
    exact hid ▸ hsupply.free n hn
  ids := nodup_ids_offers hsupply.differ
  activities := by
    have hids : (a.offers now dryRun fresh activities).map (·.activity.id) =
        activities.map (·.id) := by
      conv_rhs => rw [← map_activity_offers a now dryRun fresh activities, List.map_map]
      rfl
    rwa [hids]

/-! ### Queueing them -/

/-- **Queueing.** Where the records for several activities are apart, none is refused, and the queue
as it was tells which of them are put in and what is told about each. -/
theorem queueAll_eq (done : Queued) (h : q.Apart (a.offers now dryRun fresh activities)) :
    a.queueAll now dryRun fresh done activities q =
      (.ok ⟨done.ids ++ ((a.offers now dryRun fresh activities).filter q.takes).map (·.id),
          done.lines ++ a.account q (a.offers now dryRun fresh activities)⟩,
        q.run ((a.offers now dryRun fresh activities).map .enqueue)) := by
  induction activities generalizing fresh done q with
  | nil => simp [queueAll, offers, account, Queue.run]
  | cons activity activities ih =>
      rw [offers_cons] at h ⊢
      let first := a.recordFor (fresh 0) now dryRun activity
      let rest := a.offers now dryRun (fun n => fresh (n + 1)) activities
      have hfirst : q.enqueue first = (.ok (q.byPolicy first).1, (q.enqueue first).2) := by
        rw [Queue.enqueue_of_nodup h.nodup h.head]
      have hstep : a.queueAll now dryRun fresh done (activity :: activities) q =
          a.queueAll now dryRun (fun n => fresh (n + 1))
            ⟨if q.takes first then done.ids ++ [first.id] else done.ids,
              done.lines ++ [line a.type activity.id (q.byPolicy first).1]⟩
            activities (q.enqueue first).2 := by
        rw [queueAll, hfirst]
        rfl
      have htakes : rest.filter (q.enqueue first).2.takes = rest.filter q.takes :=
        List.filter_congr fun s hs => h.takes_enqueue hs
      have haccount : a.account (q.enqueue first).2 rest = a.account q rest :=
        List.map_congr_left fun s hs => by rw [h.fst_byPolicy_enqueue hs]
      have hids : (if q.takes first then done.ids ++ [first.id] else done.ids) ++
            (rest.filter q.takes).map (·.id) =
          done.ids ++ ((first :: rest).filter q.takes).map (·.id) := by
        rw [List.filter_cons]
        split <;> simp
      have hlines : done.lines ++ [line a.type activity.id (q.byPolicy first).1] ++
            a.account q rest = done.lines ++ a.account q (first :: rest) := by
        rw [List.append_assoc]
        rfl
      rw [hstep, ih _ h.enqueue, htakes, haccount, hids, hlines]
      rfl

/-! ### The action -/

/-- The words for what an action did to targets. -/
def text (a : DispatchAction) (q : Queue) (targets : Targets) (offers : List Record) : String :=
  if targets.activities.isEmpty then targets.idleReason
  else "; ".intercalate (a.account q offers ++ targets.impossible.toList)

/-- An action whose targets cannot be worked out fails and leaves the queue alone. -/
theorem handle_of_error {f : Failure}
    (h : (Targets.resolve fetcher context.activity ((a.recordDryRun context).getD false)
      a.config.target).1 = .error f) :
    (a.handle fetcher now fresh context q).answer = .error (.fetch f) ∧
      (a.handle fetcher now fresh context q).queue = q := by
  simp only [handle, h, and_self]

/-- An action whose targets are known offers its records and tells what became of them. -/
theorem handle_of_ok
    (h : (Targets.resolve fetcher context.activity ((a.recordDryRun context).getD false)
      a.config.target).1 = .ok targets)
    (hapart : q.Apart (a.offers now (a.recordDryRun context) fresh targets.activities)) :
    let offers := a.offers now (a.recordDryRun context) fresh targets.activities
    let taken := offers.filter q.takes
    (a.handle fetcher now fresh context q).answer =
      .ok ⟨a.name, !(taken.map (·.id)).isEmpty, (a.recordDryRun context).getD false,
        a.text q targets offers, taken.map (·.id)⟩ ∧
    (a.handle fetcher now fresh context q).queue = q.run (offers.map .enqueue) := by
  intro offers taken
  by_cases hempty : targets.activities = []
  · have hoffers : offers = [] := by
      show a.offers now (a.recordDryRun context) fresh targets.activities = []
      rw [hempty]
      rfl
    have htaken : taken = [] := by rw [show taken = offers.filter q.takes from rfl, hoffers]; rfl
    simp only [handle, h, hempty, htaken, hoffers, text, List.isEmpty_nil, if_true]
    exact ⟨rfl, rfl⟩
  · have hsome : targets.activities.isEmpty = false := by simpa using hempty
    have hqueue := queueAll_eq (a := a) ⟨[], []⟩ hapart
    simp only [List.nil_append] at hqueue
    simp only [handle, h, hsome, hqueue, text, Bool.false_eq_true, if_false]
    exact ⟨rfl, rfl⟩

/-- What an action reports to have queued for its targets is what it did, where `offers` are the
records that it offers. -/
structure Truthful (a : DispatchAction) (q after : Queue) (targets : Targets)
    (offers : List Record) (result : ActionResult) : Prop where
  /-- The targets are different activities, and there is one record for each. -/
  distinct : (offers.map (·.activity.id)).Nodup ∧ offers.map (·.activity) = targets.activities
  triggered : result.triggered = true ↔ result.records ≠ []
  reported : result.records = (offers.filter q.takes).map (·.id)
  told : result.result = a.text q targets offers
  /-- Nothing else was put in, and nothing is changed that was not replaced. -/
  records : after.records =
    (q.records.filter fun o => ∀ r ∈ offers, ¬ r.Displaces o) ++ offers.filter q.takes
  /-- A record is in the queue and waits, unless it was to be skipped and one like it was waiting
  before the action. -/
  queued : ∀ r ∈ offers, r.id ∈ result.records ∧ r ∈ after.records ∧ r.isIdle = true ∨
    r.id ∉ result.records ∧ a.config.onExisting = .skip ∧ ∃ o ∈ q.records, r.IsLike o
  /-- What is gone was waiting, and for a target, and was to be replaced. -/
  gone : ∀ o ∈ q.records, o ∉ after.records →
    o.isIdle = true ∧ o.activity.id ∈ targets.ids ∧ a.config.onExisting = .replace

/-- A record is reported exactly if the queue, as it was, takes it. -/
theorem mem_map_filter_takes_iff {offers : List Record} (hids : (offers.map (·.id)).Nodup)
    {r : Record} (hr : r ∈ offers) :
    r.id ∈ (offers.filter q.takes).map (·.id) ↔ q.takes r = true := by
  constructor
  · intro h
    obtain ⟨s, hs, hid⟩ := List.mem_map.mp h
    obtain ⟨hmem, htakes⟩ := List.mem_filter.mp hs
    obtain rfl : s = r := List.inj_on_of_nodup_map hids hmem hr hid
    exact htakes
  · intro h
    exact List.mem_map_of_mem (List.mem_filter.mpr ⟨hr, h⟩)

/-- An action whose targets were found tells what it did. -/
theorem truthful_of_apart
    (hapart : q.Apart (a.offers now dryRun fresh targets.activities))
    (hafter : after = q.run ((a.offers now dryRun fresh targets.activities).map .enqueue))
    (htriggered : result.triggered = !result.records.isEmpty)
    (hreported : result.records =
      ((a.offers now dryRun fresh targets.activities).filter q.takes).map (·.id))
    (htold : result.result = a.text q targets (a.offers now dryRun fresh targets.activities)) :
    a.Truthful q after targets (a.offers now dryRun fresh targets.activities) result := by
  have hrecords := hapart.records_run
  rw [← hafter] at hrecords
  refine ⟨⟨hapart.activities, map_activity_offers ..⟩, ?_, hreported, htold, hrecords,
    fun r hr => ?_, fun o ho hgone => ?_⟩
  · simp [htriggered]
  · obtain ⟨-, -, hpolicy, hidle⟩ := makes_of_mem_offers hr
    have hmem := mem_map_filter_takes_iff (q := q) hapart.ids hr
    rw [← hreported] at hmem
    rw [hmem]
    cases htakes : q.takes r with
    | true =>
        refine .inl ⟨rfl, ?_, hidle⟩
        rw [hrecords]
        exact List.mem_append_right _ (List.mem_filter.mpr ⟨hr, htakes⟩)
    | false =>
        obtain ⟨hskip, hlike⟩ := Queue.takes_eq_false_iff.mp htakes
        exact .inr ⟨Bool.false_ne_true, hpolicy.symm.trans hskip, hlike⟩
  · rw [hrecords, List.mem_append, not_or] at hgone
    have hdisplaced : ∃ r ∈ a.offers now dryRun fresh targets.activities, r.Displaces o := by
      by_contra hnone
      push Not at hnone
      exact hgone.1 (List.mem_filter.mpr ⟨ho, decide_eq_true hnone⟩)
    obtain ⟨r, hr, hpolicy, hidle, hactivity, -⟩ := hdisplaced
    obtain ⟨-, htarget, hown, -⟩ := makes_of_mem_offers hr
    refine ⟨by simp [Record.isIdle, hidle], ?_, hown.symm.trans hpolicy⟩
    rw [hactivity]
    exact List.mem_map_of_mem htarget

/-- **All or nothing.** Let a queue have different ids, and let there be an id for each target of an
action. The action fails only because the submission above the activity at hand could not be
fetched, in the last of its calls, and then the queue is as it was. Otherwise it has found its
targets, and what it reports is what it did: in the queue are the records that are reported, each
for an activity of its own, and what was there before, without those that waited for a target and
were replaced. No record was skipped because of one that was put in by the same action, nor did one
replace another. -/
theorem handle_truthful (a : DispatchAction) (fetcher : Fetcher) (now : Instant)
    (context : RunContext) {fresh : Nat → RecordId} {q : Queue} (hn : q.ids.Nodup)
    (hsupply : q.Supply fresh a.config.target.length) :
    let dryRun := a.recordDryRun context
    let resolved := (Targets.resolve fetcher context.activity (dryRun.getD false)
      a.config.target).1
    let handled := a.handle fetcher now fresh context q
    (∀ e, handled.answer = .error e →
      (∃ f n, e = .fetch f ∧ resolved = .error f ∧ handled.calls.length = n + 1 ∧
        fetcher.submissionOf n context.activity = .error f) ∧ handled.queue = q) ∧
    ∀ result, handled.answer = .ok result → ∃ targets, resolved = .ok targets ∧
      a.Truthful q handled.queue targets (a.offers now dryRun fresh targets.activities) result := by
  intro dryRun resolved handled
  have hsettles : Targets.Settles fetcher context.activity a.config.target.length
      (resolved, handled.calls) := by
    rw [a.calls_handle fetcher now fresh context q]
    exact Targets.settles_resolve fetcher context.activity (dryRun.getD false) a.config.target
  cases hresolved : resolved with
  | ok targets =>
      rw [hresolved] at hsettles
      obtain ⟨hids, hlength⟩ := hsettles
      have hapart : q.Apart (a.offers now dryRun fresh targets.activities) :=
        apart_offers hn (hsupply.mono hlength) hids
      obtain ⟨hanswer, hqueue⟩ : handled.answer = .ok _ ∧ handled.queue = _ :=
        handle_of_ok hresolved hapart
      refine ⟨fun e he => absurd (he.symm.trans hanswer) (by simp), fun result hresult => ?_⟩
      obtain rfl := Except.ok.inj (hresult.symm.trans hanswer)
      exact ⟨targets, rfl, truthful_of_apart hapart hqueue rfl rfl rfl⟩
  | error f =>
      rw [hresolved] at hsettles
      obtain ⟨hanswer, hqueue⟩ : handled.answer = .error (.fetch f) ∧ handled.queue = q :=
        handle_of_error hresolved
      refine ⟨fun e he => ?_, fun result hresult =>
        absurd (hresult.symm.trans hanswer) (by simp)⟩
      obtain rfl := Except.error.inj (he.symm.trans hanswer)
      obtain ⟨n, hlength, hfails⟩ := hsettles
      exact ⟨⟨f, n, rfl, rfl, hlength, hfails⟩, hqueue⟩

/-- An action that puts off the activity at hand and the submission above it, in the place of what
waits for them. -/
def replaceBoth : DispatchAction :=
  { putOffBoth with config := { putOffBoth.config with onExisting := .replace } }

/-- A queue in which a record waits for a comment, and one for the submission above is claimed. -/
def oneClaimed : Queue :=
  (Queue.new "test").run [
    .insert (.plain ⟨1⟩ (.submission "t3_p" "test") .dispatch .zero .epoch), .claimDue .epoch,
    .insert (.plain ⟨2⟩ (commentUnder (some "t3_p")) .dispatch .zero .epoch)]

/-- Ids from eight on. -/
def draw (n : Nat) : RecordId := ⟨BitVec.ofNat 128 (n + 8)⟩

/-- A run in which a comment is put off together with the submission above it, where the platform
answers a fetch or is out of order. -/
def replaced (answer : Except Failure Activity) : Handled :=
  replaceBoth.handle (.constant answer) .epoch draw ⟨commentUnder none, .poll, false⟩ oneClaimed

/-- The record that waits is replaced and the one that is claimed stays. If the submission cannot be
fetched the comment is not put off either. -/
theorem handle_truthful_bothTargets :
    oneClaimed.ids.Nodup ∧ oneClaimed.Supply draw 2 ∧
    (∃ result, (replaced (.ok (.submission "t3_p" "test"))).answer = .ok result ∧
      result.triggered = true ∧ result.records = [⟨8⟩, ⟨9⟩]) ∧
    (replaced (.ok (.submission "t3_p" "test"))).queue.ids = [⟨1⟩, ⟨8⟩, ⟨9⟩] ∧
    (replaced (.error ⟨["no answer"]⟩)).answer = .error (.fetch ⟨["no answer"]⟩) ∧
    (replaced (.error ⟨["no answer"]⟩)).queue = oneClaimed := by
  have hn : oneClaimed.ids.Nodup := by decide
  have hsupply : oneClaimed.Supply draw 2 := ⟨by decide, by decide⟩
  obtain ⟨-, htold⟩ := handle_truthful replaceBoth (.constant (.ok (.submission "t3_p" "test")))
    .epoch ⟨commentUnder none, .poll, false⟩ hn hsupply
  obtain ⟨hfailed, -⟩ := handle_truthful replaceBoth (.constant (.error ⟨["no answer"]⟩)) .epoch
    ⟨commentUnder none, .poll, false⟩ hn hsupply
  obtain ⟨targets, hresolved, h⟩ := htold _ rfl
  obtain rfl := Except.ok.inj hresolved
  refine ⟨hn, hsupply, ⟨_, rfl, ?_, ?_⟩, ?_, rfl, (hfailed _ rfl).2⟩
  · rw [h.triggered, h.reported]
    decide
  · rw [h.reported]
    decide
  · exact (congrArg (List.map Record.id) h.records).trans (by decide)

end DispatchAction

end Deferral

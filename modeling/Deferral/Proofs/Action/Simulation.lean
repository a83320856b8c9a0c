import Deferral.Proofs.Action.Operations
import Deferral.Proofs.Round.Fetches

/-!
# Simulated runs

A dry run is to ask nothing of the platform, and neither is a cancel action, which only compares
ids. Both take the submission above a comment from the comment. A comment may be stray, that is, it
does not name its submission; then they fetch it as any other run does. They make no other calls,
and the records that a dry run queues are for dry runs themselves, so that no later tick asks for
their activities.

## Main results

* `Targets.calls_resolve_eq_nil_iff` — when working out targets takes no call;
* `DryBeside.handle`, `DryBeside.run` — what a dry run queues stays dry;
* `calls_eq_nil_iff_of_dryRun` — the calls of dry runs, of cancel actions, and of later ticks.
-/

namespace Deferral

/-! ### Targets -/

/-- A comment that does not name the submission above it. -/
def Activity.isStray (a : Activity) : Bool := a.kind == .comment && a.parentId.isNone

/-- A stray activity has a submission above it and does not say which. -/
theorem Activity.isStray_iff {a : Activity} :
    a.isStray = true ↔ a.isRoot = false ∧ a.parentStub? = none := by
  obtain ⟨id, kind, parentId, subreddit⟩ := a
  cases kind <;> cases parentId <;> simp [isStray, isRoot, parentStub?]

namespace Targets

/-- Working out targets as in a dry run takes a call exactly if the parent of a stray comment is
among them. -/
theorem calls_resolveFrom_eq_nil_iff (fetcher : Fetcher) (a : Activity) (found : Targets)
    (targets : List Target) :
    (resolveFrom fetcher a true found targets).2 = [] ↔
      ¬ (a.isStray = true ∧ .parent ∈ targets) := by
  induction targets generalizing found with
  | nil => simp [resolveFrom]
  | cons target targets ih =>
      cases target with
      | current => simpa [resolveFrom] using ih (found.add a)
      | any => simpa [resolveFrom] using ih found
      | parent =>
          by_cases hroot : a.isRoot = true
          · simp [resolveFrom, Activity.isStray_iff, hroot, ih]
          · cases hstub : a.parentStub? with
            | some stub => simp [resolveFrom, Activity.isStray_iff, hroot, hstub, ih]
            | none =>
                have hstray : a.isStray = true :=
                  Activity.isStray_iff.mpr ⟨Bool.eq_false_iff.mpr hroot, hstub⟩
                cases hanswer : fetcher.submissionOf 0 a with
                | error f => simp [resolveFrom, hroot, hstub, hstray, hanswer]
                | ok parent => simp [resolveFrom, hroot, hstub, hstray, hanswer]

/-- **Targets.** A dry run works out its targets without a call unless it has to find the submission
above a stray comment. -/
theorem calls_resolve_eq_nil_iff (fetcher : Fetcher) (a : Activity) (targets : List Target) :
    (resolve fetcher a true targets).2 = [] ↔ ¬ (a.isStray = true ∧ .parent ∈ targets) :=
  calls_resolveFrom_eq_nil_iff fetcher a none targets

end Targets

/-! ### Actions -/

variable {a : DispatchAction} {fetcher : Fetcher} {now : Instant} {fresh : Nat → RecordId}
  {context : RunContext} {q : Queue}

namespace DispatchAction

/-- What a dry run marks its records with. -/
theorem recordDryRun_of_dryRun (h : a.config.dryRun.getD context.dryRun = true) :
    a.recordDryRun context = some true := by
  rw [recordDryRun]
  cases hown : a.config.dryRun with
  | none =>
      have hcontext : context.dryRun = true := by rwa [hown] at h
      rw [hcontext]
      rfl
  | some own =>
      obtain rfl : own = true := by rwa [hown] at h
      rfl

/-- An action asks the platform for its targets and nothing else. -/
theorem calls_handle (a : DispatchAction) (fetcher : Fetcher) (now : Instant)
    (fresh : Nat → RecordId) (context : RunContext) (q : Queue) :
    (a.handle fetcher now fresh context q).calls =
      (Targets.resolve fetcher context.activity ((a.recordDryRun context).getD false)
        a.config.target).2 := by
  simp only [handle]
  split
  · rfl
  · split
    · rfl
    · split <;> rfl

end DispatchAction

/-- A cancel action asks for its targets, unless it means every activity. -/
theorem CancelAction.calls_handle (c : CancelAction) (fetcher : Fetcher) (context : RunContext)
    (q : Queue) :
    (c.handle fetcher context q).calls =
      if c.config.target.contains .any then []
      else (Targets.resolve fetcher context.activity true c.config.target).2 := by
  simp only [handle]
  split
  · rfl
  · split
    · rfl
    · split <;> rfl

/-! ### Records -/

namespace Queue

variable {old : List Record} {op : QueueOp} {ops : List QueueOp} {r : Record}

/-- Besides old records, whether they were marked or not, a queue holds only such as are for a dry
run. -/
def DryBeside (old : List Record) (q : Queue) : Prop :=
  ∀ r ∈ q.records, r.dryRun = some true ∨
    ∃ u ∈ old, r = u ∨ r = { u with processing := true }

/-- Beside the records that are there, nothing in a queue needs to be dry. -/
theorem dryBeside_records (q : Queue) : q.DryBeside q.records :=
  fun r hr => .inr ⟨r, hr, .inl rfl⟩

/-- Fewer records of a queue need to be dry when more are set apart. -/
theorem DryBeside.mono {more : List Record} (h : q.DryBeside old) (hsub : old ⊆ more) :
    q.DryBeside more := by
  intro r hr
  rcases h r hr with hdry | ⟨u, hu, hru⟩
  · exact .inl hdry
  · exact .inr ⟨u, hsub hu, hru⟩

/-- **One operation.** It adds no more than the record that it offers. -/
theorem DryBeside.perform (h : q.DryBeside old)
    (hop : ∀ r, op.offered? = some r → r.dryRun = some true ∨ r ∈ old) :
    (q.perform op).2.DryBeside old := by
  intro r hr
  rcases mem_records_perform hr with hoffered | ⟨s, hs, rfl | rfl⟩
  · rcases hop r hoffered with hdry | hold
    · exact .inl hdry
    · exact .inr ⟨r, hold, .inl rfl⟩
  · exact h r hs
  · -- the mark changes neither whether the record is dry nor which old one it is
    rcases h s hs with hdry | ⟨u, hu, rfl | rfl⟩
    · exact .inl hdry
    · exact .inr ⟨s, hu, .inr rfl⟩
    · exact .inr ⟨u, hu, .inr rfl⟩

/-- **Runs.** Operations that offer dry records leave all records dry but those set apart. -/
theorem DryBeside.run (h : q.DryBeside old)
    (hops : ∀ r ∈ QueueOp.offers ops, r.dryRun = some true ∨ r ∈ old) :
    (q.run ops).DryBeside old := by
  induction ops generalizing q with
  | nil => exact h
  | cons op ops ih =>
      rw [offers_cons] at hops
      have hfirst : (q.perform op).2.DryBeside old :=
        h.perform fun r hr => hops r (List.mem_append_left _ (Option.mem_toList.mpr hr))
      exact ih hfirst fun r hr => hops r (List.mem_append_right _ hr)

/-- **One action.** Whatever a dry run comes to, all that it has queued is dry. -/
theorem DryBeside.handle (h : q.DryBeside old)
    (hdry : a.config.dryRun.getD context.dryRun = true) :
    (a.handle fetcher now fresh context q).queue.DryBeside old := by
  obtain ⟨records, hmade, heq⟩ := a.exists_records_handle fetcher now fresh context q
  rw [heq]
  refine h.run fun r hr => .inl ?_
  rw [offers_enqueue] at hr
  obtain ⟨id, activity, rfl⟩ := hmade r hr
  exact DispatchAction.recordDryRun_of_dryRun hdry

/-- What a tick claims is marked, so it is dry or an old record with the mark. -/
theorem DryBeside.of_mem_claimDue {time : Instant} (h : q.DryBeside old)
    (hr : r ∈ (q.claimDue time).1) :
    r.dryRun = some true ∨ ∃ u ∈ old, r = { u with processing := true } := by
  obtain ⟨s, hs, -, rfl⟩ := mem_claimDue.mp hr
  rcases h s hs with hdry | ⟨u, hu, rfl | rfl⟩
  · exact .inl hdry
  · exact .inr ⟨s, hu, rfl⟩
  · exact .inr ⟨u, hu, rfl⟩

end Queue

/-! ### Dry runs -/

/-- **What dry runs ask for.** In a dry run a dispatch action makes no call unless the submission
above a stray comment is among its targets, and the same goes for a cancel action in any run, unless
it means every activity. No turn of a dry record makes a call, and a tick on any queue makes calls
for those claimed records that are not dry, one for each in the order of the claim, and no other
calls. Whatever clients do after the dispatch action, a record that a tick claims then and makes a
call for was in the queue before the action, or one of those clients has offered it: the action has
not queued it. -/
theorem calls_eq_nil_iff_of_dryRun (a : DispatchAction) (c : CancelAction) (fetcher : Fetcher)
    (now : Instant) (fresh : Nat → RecordId) (context : RunContext) (q : Queue)
    (hdry : a.config.dryRun.getD context.dryRun = true) :
    ((a.handle fetcher now fresh context q).calls = [] ↔
      ¬ (context.activity.isStray = true ∧ .parent ∈ a.config.target)) ∧
    ((c.handle fetcher context q).calls = [] ↔
      .any ∈ c.config.target ∨
        ¬ (context.activity.isStray = true ∧ .parent ∈ c.config.target)) ∧
    (∀ (e : Execution) (s : Script) (pace : Pace),
      e.record.dryRun = some true → (e.turn s pace).fetches = []) ∧
    (∀ (p : Queue) (time : Instant) (tickInterval : Span) (maxConcurrent : Nat)
      (scripts : RecordId → Script) (events : List RoundEvent),
      ((Round.begin time tickInterval maxConcurrent p).run scripts events).fetchesInAll =
        (p.claimDue time).1.flatMap Record.fetches) ∧
    (∀ (ops : List QueueOp) (time : Instant),
      ∀ r ∈ (((a.handle fetcher now fresh context q).queue.run ops).claimDue time).1,
        r.fetches ≠ [] →
          ∃ u ∈ q.records ++ QueueOp.offers ops, r = { u with processing := true }) := by
  refine ⟨?_, ?_, ?_, ?_, ?_⟩
  · rw [a.calls_handle, DispatchAction.recordDryRun_of_dryRun hdry]
    exact Targets.calls_resolve_eq_nil_iff fetcher context.activity a.config.target
  · rw [c.calls_handle]
    by_cases hany : .any ∈ c.config.target
    · simp [hany]
    · simp [hany, Targets.calls_resolve_eq_nil_iff]
  · intro e s pace hrun
    rw [e.fetches_turn, Record.fetches_eq_nil_iff.mpr hrun, ite_self]
  · intro p time tickInterval maxConcurrent scripts events
    exact Round.fetches_run scripts time tickInterval maxConcurrent p events
  · intro ops time r hr hfetches
    have hold : q.DryBeside (q.records ++ QueueOp.offers ops) :=
      q.dryBeside_records.mono (List.subset_append_left _ _)
    have hlater : ((a.handle fetcher now fresh context q).queue.run ops).DryBeside
        (q.records ++ QueueOp.offers ops) :=
      (hold.handle hdry).run fun u hu => .inr (List.mem_append_right _ hu)
    rcases hlater.of_mem_claimDue hr with hrun | hbefore
    · exact absurd (Record.fetches_eq_nil_iff.mpr hrun) hfetches
    · exact hbefore

/-- A comment under a submission that it may name. -/
def commentUnder (parentId : Option String) : Activity := ⟨"t1_c", .comment, parentId, "test"⟩

/-- An action that puts off the activity at hand and the submission above it. -/
def putOffBoth : DispatchAction :=
  ⟨"dispatch", .dispatch,
    { DispatchConfig.plain (.text "1m") with target := [.current, .parent] }, .ofSeconds 60⟩

/-- An action that cancels what is queued for them. -/
def cancelBoth : CancelAction := ⟨"cancelDispatch", .plain [.current, .parent] .any⟩

/-- A platform that is out of order. -/
def outOfOrder : Fetcher := .constant (.error ⟨["no answer"]⟩)

/-- A queue with a record that is not dry. -/
def oneQueued : Queue :=
  (Queue.new "test").run [.insert (.plain ⟨0⟩ (.submission "t3_b" "test") .dispatch .zero .epoch)]

/-- The queue after a dry run in which the two activities of a comment are put off. -/
def bothPutOff (parentId : Option String) : Handled :=
  putOffBoth.handle outOfOrder .epoch (fun n => ⟨BitVec.ofNat 128 (n + 1)⟩)
    ⟨commentUnder parentId, .poll, true⟩ oneQueued

/-- In a dry run on a comment that names its submission neither action makes a call. Of the three
records that a tick claims a minute later it asks for the one that was queued before. -/
theorem calls_eq_nil_iff_of_dryRun_named :
    (bothPutOff (some "t3_p")).calls = [] ∧
    (cancelBoth.handle outOfOrder ⟨commentUnder (some "t3_p"), .poll, true⟩ oneQueued).calls = [] ∧
    (((bothPutOff (some "t3_p")).queue.claimDue ⟨60000000000, by decide, by decide⟩).1.map
      fun r => (r.activity.id, r.dryRun)) =
        [("t3_b", none), ("t1_c", some true), ("t3_p", some true)] ∧
    ((Round.begin ⟨60000000000, by decide, by decide⟩ .zero 1
      (bothPutOff (some "t3_p")).queue).run (fun _ => ⟨.failed ⟨["no answer"]⟩, .returned ()⟩)
        [.turn .finishes, .turn .finishes, .turn .finishes]).fetchesInAll = [.activity "t3_b"] := by
  obtain ⟨hdispatch, hcancel, -, htick, -⟩ := calls_eq_nil_iff_of_dryRun putOffBoth cancelBoth
    outOfOrder .epoch (fun n => ⟨BitVec.ofNat 128 (n + 1)⟩)
    ⟨commentUnder (some "t3_p"), .poll, true⟩ oneQueued (by rfl)
  refine ⟨hdispatch.mpr (by decide), hcancel.mpr (.inr (by decide)), ?_, ?_⟩
  · rw [Queue.claimDue_eq_foldr]
    rfl
  · rw [htick, Queue.claimDue_eq_foldr]
    rfl

/-- On a stray comment both actions ask for the submission above it, in a dry run as well. -/
theorem calls_ne_nil_of_dryRun_stray :
    putOffBoth.config.dryRun.getD true = true ∧
    (bothPutOff none).calls = [.submissionOf "t1_c"] ∧
    (cancelBoth.handle outOfOrder ⟨commentUnder none, .poll, true⟩ oneQueued).calls =
      [.submissionOf "t1_c"] := by
  exact ⟨rfl, rfl, rfl⟩

end Deferral

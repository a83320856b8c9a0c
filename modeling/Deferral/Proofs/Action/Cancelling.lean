import Deferral.Proofs.Action.Targets
import Deferral.Proofs.Queue.Offer

/-!
# What a cancel action cancels

An operator writes a filter of identifiers as null, as one identifier, or as a list in which null
stands for records without an identifier. A cancel action names the idle records of its targets
whose identifiers the filter admits. It lists them in the order of the queue, and unless it is a dry
run it takes them out and leaves everything else alone.

## Main results

* `IdentifierFilter.admits_iff` — what a filter admits, by what was written;
* `handle_of_not_isStray` — what an action comes to, by the ids that its targets tell;
* `handle_cancels` — an action cancels what it names, and a dry run tells what that would be.
-/

namespace Deferral

/-! ### Filters as they are written -/

namespace IdentifierFilter

variable {f : IdentifierFilter} {raw : Option Json} {identifier : Option String}
  {entries : List Json} {read : List (Option String)}

/-- A filter is written as null, as an identifier or as a list of both, or not at all. -/
def IsForm : Option Json → Prop
  | none | some .null | some (.str _) => True
  | some (.arr entries) => ∀ e ∈ entries, ∃ entry : Option String, e = .ofOption .str entry
  | some _ => False

/-- Whether an identifier, or its absence, is admitted by what was written. -/
def WrittenFor (identifier : Option String) : Option Json → Prop
  | none | some .null => True
  | some (.str s) => identifier = some s
  | some (.arr entries) => .ofOption .str identifier ∈ entries
  | some _ => False

/-- An entry of a filter is a string, or null for records without an identifier, and nothing else.
-/
theorem asEntry?_eq_some_iff {j : Json} {entry : Option String} :
    asEntry? j = some entry ↔ j = .ofOption .str entry := by
  cases j <;> cases entry <;> simp [Json.ofOption, asEntry?, Json.optional, Json.asString?]

/-- Different entries are written differently. -/
theorem ofOption_str_injective : Function.Injective (Json.ofOption Json.str) := by
  intro entry other h
  cases entry <;> cases other <;> simp_all [Json.ofOption]

/-- A list is read if each of its entries is, and then it is the list of what was read. -/
theorem mapM_asEntry?_eq_some_iff :
    entries.mapM asEntry? = some read ↔ entries = read.map (.ofOption .str) := by
  induction entries generalizing read with
  | nil => cases read <;> simp
  | cons j entries ih =>
      have hcons : (j :: entries).mapM asEntry? = some read ↔
          ∃ entry, asEntry? j = some entry ∧ ∃ rest, entries.mapM asEntry? = some rest ∧
            entry :: rest = read := by
        simp [List.mapM_cons, Option.bind_eq_some_iff]
      rw [hcons]
      constructor
      · rintro ⟨entry, hentry, rest, hrest, rfl⟩
        rw [asEntry?_eq_some_iff.mp hentry, ih.mp hrest]
        rfl
      · intro h
        obtain ⟨entry, rest, rfl, rfl, hrest⟩ := List.map_eq_cons_iff.mp h.symm
        exact ⟨entry, asEntry?_eq_some_iff.mpr rfl, rest, ih.mpr hrest.symm, rfl⟩

/-- **Filters.** A filter that is accepted has one of the forms, and it admits what was written. -/
theorem admits_iff (h : Json.defaulted .any ofJson? raw = some f) :
    IsForm raw ∧ ∀ identifier, f.admits identifier = true ↔ WrittenFor identifier raw := by
  cases raw with
  | none =>
      obtain rfl := Option.some.inj h
      exact ⟨trivial, fun _ => iff_of_true rfl trivial⟩
  | some j =>
      cases j with
      | null =>
          obtain rfl := Option.some.inj h
          exact ⟨trivial, fun _ => iff_of_true rfl trivial⟩
      | str s =>
          obtain rfl := Option.some.inj h
          refine ⟨trivial, fun identifier => ?_⟩
          cases identifier <;> simp [admits, WrittenFor]
      | arr entries =>
          obtain ⟨read, hread, rfl⟩ : ∃ read, entries.mapM asEntry? = some read ∧
              oneOf (read.filterMap id) (read.any Option.isNone) = f := Option.map_eq_some_iff.mp h
          rw [mapM_asEntry?_eq_some_iff] at hread
          subst hread
          refine ⟨fun e he => ?_, fun identifier => ?_⟩
          · obtain ⟨entry, -, rfl⟩ := List.mem_map.mp he
            exact ⟨entry, rfl⟩
          · have hmem : WrittenFor identifier (some (.arr (read.map (.ofOption .str)))) ↔
                identifier ∈ read := List.mem_map_of_injective ofOption_str_injective
            rw [hmem]
            cases identifier <;> simp [admits]
      | _ => cases h

end IdentifierFilter

/-! ### Records that an action names -/

namespace CancelAction

variable {c : CancelAction} {a : Activity} {fetcher : Fetcher} {context : RunContext} {q : Queue}
  {raw : Option Json} {r : Record} {dryRun : Bool}

/-- An action names the idle records of its targets, seen from an activity, if what was written for
their identifiers admits them. -/
structure Names (c : CancelAction) (a : Activity) (raw : Option Json) (r : Record) : Prop where
  idle : r.isIdle = true
  target : .any ∈ c.config.target ∨ ∃ t ∈ c.config.target, t.idFrom? a = some r.activity.id
  identifier : IdentifierFilter.WrittenFor r.identifier raw

/-- The ids of the targets as an action compares them: none if it means every activity. -/
def comparedIds (c : CancelAction) (targets : Targets) : Option (List String) :=
  if .any ∈ c.config.target then none else some targets.ids

/-- The idle records that an action wants are those that it names. -/
theorem wants_iff (hread : Json.defaulted .any IdentifierFilter.ofJson? raw =
      some c.config.identifier) {targets : Targets}
    (hids : ∀ id, id ∈ targets.ids ↔ ∃ t ∈ c.config.target, t.idFrom? a = some id) :
    (r.isIdle && c.wants (c.comparedIds targets) r) = true ↔ c.Names a raw r := by
  have hadmits := (IdentifierFilter.admits_iff hread).2 r.identifier
  have htarget : (c.comparedIds targets).all (·.contains r.activity.id) = true ↔
      .any ∈ c.config.target ∨ ∃ t ∈ c.config.target, t.idFrom? a = some r.activity.id := by
    rw [← hids, comparedIds]
    split
    · rename_i hany
      exact iff_of_true rfl (.inl hany)
    · rename_i hany
      rw [Option.all_some, List.contains_iff_mem, or_iff_right hany]
  rw [Bool.and_eq_true, wants, Bool.and_eq_true, htarget, hadmits]
  exact ⟨fun ⟨hidle, ht, hi⟩ => ⟨hidle, ht, hi⟩, fun h => ⟨h.idle, h.target, h.identifier⟩⟩

/-! ### What an action comes to -/

/-- What an action comes to on a queue, if `named` are the records that it names. -/
structure Comes (named : Record → Bool) (dryRun : Bool) (q : Queue) (handled : Handled) :
    Prop where
  reported : ∃ result, handled.answer = .ok result ∧ result.dryRun = dryRun ∧
    result.records = (q.records.filter named).map (·.id)
  simulated : dryRun = true → handled.queue = q
  cancelled : dryRun = false → handled.queue =
    ⟨q.name, q.records.filter fun r => !named r,
      { q.counters with
        cancelled := q.counters.cancelled + (q.records.filter named).length }⟩

/-- Cancelling takes out the idle records that are wanted, or lists them. -/
theorem comes_cancel (c : CancelAction) (dryRun : Bool) (targets : Option (List String))
    (q : Queue) (calls : List FetchCall) :
    Comes (fun r => r.isIdle && c.wants targets r) dryRun q
      ⟨.ok (c.cancel dryRun targets q).1, (c.cancel dryRun targets q).2, calls⟩ where
  reported := by
    refine ⟨_, rfl, rfl, ?_⟩
    exact congrArg (List.map Record.id) (q.cancelMatching_eq (c.wants targets) dryRun).1
  simulated := by
    rintro rfl
    rfl
  cancelled := by
    rintro rfl
    simp only [cancel, Queue.cancelMatching, Queue.drain_eq, Queue.withoutIdle]
    rfl

/-- Where no activity is a target nothing is wanted. -/
theorem comes_idle (reason : String) (dryRun : Bool) (q : Queue) (calls : List FetchCall) :
    Comes (fun r => r.isIdle && c.wants (some []) r) dryRun q
      ⟨.ok (.idle c.name dryRun reason), q, calls⟩ := by
  have hnone : (q.records.filter fun r => r.isIdle && c.wants (some []) r) = [] := by
    simp [wants]
  have hall : (q.records.filter fun r => !(r.isIdle && c.wants (some []) r)) = q.records := by
    simp [wants]
  refine ⟨⟨_, rfl, rfl, ?_⟩, fun _ => rfl, fun _ => ?_⟩
  · rw [hnone]
    rfl
  · rw [hnone, hall]
    rfl

/-- **One action.** Seen from an activity that is not stray, an action cancels the idle records that
it wants by the ids that its targets tell. -/
theorem handle_of_not_isStray (c : CancelAction) (fetcher : Fetcher) (context : RunContext)
    (ha : context.activity.isStray = false) :
    ∃ targets : Targets,
      (∀ id, id ∈ targets.ids ↔
        ∃ t ∈ c.config.target, t.idFrom? context.activity = some id) ∧
      ∀ q, Comes (fun r => r.isIdle && c.wants (c.comparedIds targets) r)
        (c.config.dryRun.getD context.dryRun) q (c.handle fetcher context q) := by
  obtain ⟨targets, hok, hids⟩ := Targets.resolve_of_not_isStray fetcher ha c.config.target
  refine ⟨targets, hids, fun q => ?_⟩
  by_cases hany : .any ∈ c.config.target
  · rw [comparedIds, if_pos hany]
    simpa only [handle, List.contains_iff_mem, hany, if_true] using comes_cancel c _ none q []
  · rw [comparedIds, if_neg hany]
    by_cases hempty : targets.activities = []
    · have hnone : targets.ids = [] := by rw [Targets.ids, hempty]; rfl
      rw [hnone]
      simpa only [handle, List.contains_iff_mem, hany, if_false, hok, hempty, List.isEmpty_nil,
        if_true] using comes_idle targets.idleReason _ q _
    · have hsome : targets.activities.isEmpty = false := by simpa using hempty
      simpa only [handle, List.contains_iff_mem, hany, if_false, hok, hsome, Bool.false_eq_true,
        Targets.ids] using comes_cancel c _ (some targets.ids) q _

/-- An action that names nothing changes nothing. -/
theorem Comes.of_forall_not {named : Record → Bool} {handled : Handled}
    (h : Comes named dryRun q handled) (hnone : ∀ r, named r = false) :
    (∃ result, handled.answer = .ok result ∧ result.records = []) ∧ handled.queue = q := by
  have hempty : (q.records.filter named) = [] := by simp [hnone]
  have hall : (q.records.filter fun r => !named r) = q.records := by simp [hnone]
  obtain ⟨result, hanswer, -, hrecords⟩ := h.reported
  refine ⟨⟨result, hanswer, by rw [hrecords, hempty]; rfl⟩, ?_⟩
  cases hdry : dryRun with
  | true => exact h.simulated hdry
  | false =>
      rw [h.cancelled hdry, hempty, hall]
      rfl

/-- After a cancellation there is nothing left to be cancelled. -/
theorem Comes.again {named : Record → Bool} {handled second : Handled}
    (h : Comes named false q handled) (hsecond : Comes named dryRun handled.queue second) :
    ∃ result, second.answer = .ok result ∧ result.records = [] := by
  obtain ⟨result, hanswer, -, hrecords⟩ := hsecond.reported
  refine ⟨result, hanswer, ?_⟩
  rw [hrecords, h.cancelled rfl, List.filter_filter]
  simp

/-- The action with another setting for dry runs. -/
def withDryRun (c : CancelAction) (own : Option Bool) : CancelAction :=
  { c with config := { c.config with dryRun := own } }

/-- **Cancelling.** Let the filter of an action be read from something that was written, and let the
activity at hand be a submission, or a comment that names its submission. Then the action succeeds
and reports, in the order of the queue, the idle records that it names: those of its targets, or
all of them, that were written to be admitted. If it is not a dry run it takes exactly these out and
counts them, and done once more it reports nothing; with the setting of a dry run it reports the
same and changes nothing. If all its targets lie above a submission it does nothing. -/
theorem handle_cancels (c : CancelAction) {a : Activity} {raw : Option Json}
    (hread : Json.defaulted .any IdentifierFilter.ofJson? raw = some c.config.identifier)
    (ha : a.isStray = false) :
    IdentifierFilter.IsForm raw ∧
    ∃ named : Record → Bool, (∀ r, named r = true ↔ c.Names a raw r) ∧
      ∀ (own : Option Bool) (fetcher : Fetcher) (context : RunContext) (q : Queue),
        context.activity = a →
        let dryRun := own.getD context.dryRun
        let handled := (c.withDryRun own).handle fetcher context q
        Comes named dryRun q handled ∧
        (dryRun = false → ∀ fetcher, ∃ result,
          ((c.withDryRun own).handle fetcher context handled.queue).answer = .ok result ∧
            result.records = []) ∧
        (a.isRoot = true → (∀ t ∈ c.config.target, t = .parent) →
          (∃ result, handled.answer = .ok result ∧ result.records = []) ∧ handled.queue = q) := by
  refine ⟨(IdentifierFilter.admits_iff hread).1, ?_⟩
  obtain ⟨targets, hids, -⟩ :=
    handle_of_not_isStray c (.constant (.error ⟨[]⟩)) ⟨a, .poll, false⟩ ha
  let named : Record → Bool := fun r => r.isIdle && c.wants (c.comparedIds targets) r
  have hnamed : ∀ r, named r = true ↔ c.Names a raw r := fun r => wants_iff hread hids
  have hcomes : ∀ own fetcher (context : RunContext) q, context.activity = a →
      Comes named (own.getD context.dryRun) q ((c.withDryRun own).handle fetcher context q) := by
    rintro own fetcher context q rfl
    obtain ⟨others, hothers, hcomes⟩ :=
      handle_of_not_isStray (c.withDryRun own) fetcher context ha
    -- What is wanted hangs on the ids of the targets only, which are the same in every run.
    have hsame : (fun r => r.isIdle && c.wants (c.comparedIds others) r) = named := by
      funext r
      rw [Bool.eq_iff_iff, hnamed]
      exact wants_iff hread hothers
    exact hsame ▸ hcomes q
  refine ⟨named, hnamed, fun own fetcher context q hcontext => ?_⟩
  have hfirst := hcomes own fetcher context q hcontext
  refine ⟨hfirst, fun hdry other => ?_, fun hroot hparent => hfirst.of_forall_not fun r => ?_⟩
  · rw [hdry] at hfirst
    exact hfirst.again (hcomes own other context _ hcontext)
  · rw [Bool.eq_false_iff]
    intro hr
    rcases ((hnamed r).mp hr).target with hany | ⟨t, ht, hid⟩
    · exact absurd (hparent _ hany) (by decide)
    · rw [hparent t ht, Target.idFrom?, if_pos hroot] at hid
      exact absurd hid.symm (Option.some_ne_none _)

/-- An action that cancels what waits for a comment and the submission above it, without an
identifier or under one. -/
def cancelListed : CancelAction :=
  ⟨"cancelDispatch", .plain [.current, .parent] (.oneOf ["x"] true)⟩

/-- A record for a comment is claimed, and others wait for it, for the submission above it and for
another submission. -/
def mixed : Queue :=
  (Queue.new "test").run [
    .insert (Queue.tagged 1 "t1_c" none), .claimDue .epoch,
    .insert (Queue.tagged 2 "t1_c" (some "x")), .insert (Queue.tagged 3 "t3_p" none),
    .insert (Queue.tagged 4 "t3_p" (some "y")), .insert (Queue.tagged 5 "t3_q" (some "x"))]

/-- What was written is read as the filter of the action. Of the five records it names the second
and the third, which are gone afterwards and are not found again. A dry run leaves them. -/
theorem handle_cancels_listed :
    let a := commentUnder (some "t3_p")
    let raw : Option Json := some (.arr [.str "x", .null])
    let handled := cancelListed.handle outOfOrder ⟨a, .poll, false⟩ mixed
    Json.defaulted .any IdentifierFilter.ofJson? raw = some cancelListed.config.identifier ∧
    a.isStray = false ∧
    (∃ named : Record → Bool, (∀ r, named r = true ↔ cancelListed.Names a raw r) ∧
      (mixed.records.filter named).map (·.id) = [⟨2⟩, ⟨3⟩]) ∧
    handled.queue.ids = [⟨1⟩, ⟨4⟩, ⟨5⟩] ∧ handled.queue.counters = ⟨5, 0, 0, 2⟩ ∧
    (∃ result, (cancelListed.handle outOfOrder ⟨a, .poll, false⟩ handled.queue).answer =
      .ok result ∧ result.records = []) ∧
    (cancelListed.handle outOfOrder ⟨a, .poll, true⟩ mixed).queue = mixed := by
  intro a raw handled
  have hread : Json.defaulted .any IdentifierFilter.ofJson? raw =
      some cancelListed.config.identifier := rfl
  obtain ⟨-, named, hnamed, hcomes⟩ := handle_cancels cancelListed hread (a := a) (by decide)
  obtain ⟨hreal, hagain, -⟩ := hcomes none outOfOrder ⟨a, .poll, false⟩ mixed rfl
  obtain ⟨hdry, -, -⟩ := hcomes none outOfOrder ⟨a, .poll, true⟩ mixed rfl
  obtain ⟨result, hanswer, -, hrecords⟩ := hreal.reported
  obtain rfl := Except.ok.inj hanswer
  exact ⟨hread, by decide, ⟨named, hnamed, hrecords.symm⟩, by decide, by decide,
    hagain rfl outOfOrder, hdry.simulated rfl⟩

end CancelAction

end Deferral

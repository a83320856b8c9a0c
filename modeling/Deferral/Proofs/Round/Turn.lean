import Deferral.Dispatch.Round

/-!
# What one turn does

In a turn a record goes on, or it finishes. The checks are started on it once at most, in the turn
in which its activity is there, and whether it succeeds is settled by how its calls end and not by
the turns that it has. What a turn does to those that run and to those that wait is told by a few
equations; the theorems on whole rounds rest on them and look into no turn.

## Main results

* `Sound.after?` — what is known of a record stays known while it goes on;
* `Sound.calls_turn` — a record that finishes has had its checks started once, unless its activity
  could not be had;
* `Sound.isSuccess_turn` — a record that finishes has succeeded or not by how its calls end.
-/

namespace Deferral

/-- Whether a record has finished well when its turn has ended so. -/
def TurnEnd.isSuccess : TurnEnd → Bool
  | succeeded => true
  | _ => false

namespace Execution

variable {now : Instant} {tickInterval : Span} {s : Script} {e e' : Execution} {pace : Pace}

/-- The record after its turn, if it goes on. -/
def after? (e : Execution) : TurnEnd → Option Execution
  | .awaiting => some { e with stage := .asking }
  | .gaveWay a => some { e with stage := .underWay a, gaveWay := e.gaveWay + 1 }
  | .stalled a => some { e with stage := .underWay a }
  | .succeeded | .failed _ => none

/-- A record is finished by a turn that is final. -/
theorem after?_eq_none_iff {how : TurnEnd} : e.after? how = none ↔ how.isFinal = true := by
  cases how <;> simp [after?, TurnEnd.isFinal]

/-- The calls of the checks that are made for a record in all. -/
def calls (e : Execution) (s : Script) : List CheckCall := (e.check? s).toList

/-- The calls of the checks that have been made for a record. -/
def made (e : Execution) (s : Script) : List CheckCall :=
  match e.stage with
  | .underWay _ => e.calls s
  | _ => []

/-- Whether a record succeeds. -/
def succeeds (e : Execution) (s : Script) : Bool := (e.check? s).isSome && s.checks.result.isOk

/-- The checks are started on a record exactly if it needs no activity from the platform or the
platform hands one out. -/
theorem isSome_check? :
    (e.check? s).isSome = true ↔ e.record.dryRun = some true ∨ ∃ a, s.fetch = .returned a := by
  simp only [check?, opening, Script.fetcher, Fetcher.constant]
  by_cases hdry : e.record.dryRun = some true
  · simp [hdry]
  · cases s.fetch <;> simp [hdry, CallEnd.result]

/-- What is known of a record agrees with its claim, and if its checks are under way then with the
activity that it was to have. -/
structure Sound (now : Instant) (tickInterval : Span) (s : Script) (e : Execution) : Prop where
  tardy : e.tardy = e.record.isTardy now tickInterval
  answer : ∀ a, e.stage = .underWay a → (e.opening s.fetcher).answer = .ok a

/-- A claimed record that had no turn agrees with its claim. -/
theorem sound_new (r : Record) : Sound now tickInterval s (.new now tickInterval r) :=
  ⟨rfl, fun _ h => nomatch h⟩

/-- The calls for a record depend on its claim alone. -/
theorem Sound.check?_eq (h : Sound now tickInterval s e) :
    e.check? s = (Execution.new now tickInterval e.record).check? s := by
  simp only [check?, opening, options, new, h.tardy]
  rfl

/-- The calls of a record are the same at any time of its checks. -/
theorem Sound.calls_eq (h : Sound now tickInterval s e) :
    e.calls s = (Execution.new now tickInterval e.record).calls s := by
  rw [calls, calls, h.check?_eq]

/-- So is its success. -/
theorem Sound.succeeds_eq (h : Sound now tickInterval s e) :
    e.succeeds s = (Execution.new now tickInterval e.record).succeeds s := by
  rw [succeeds, succeeds, h.check?_eq]

/-- A record whose activity was to be had is checked with it. -/
theorem check?_of_ok {a : Activity} (h : (e.opening s.fetcher).answer = .ok a) :
    e.check? s = some ⟨e.record.id, a, e.options⟩ := by
  rw [check?, h]

/-- A record whose activity was not to be had is not checked. -/
theorem check?_of_error {f : Failure} (h : (e.opening s.fetcher).answer = .error f) :
    e.check? s = none := by
  rw [check?, h]

/-- All that a turn can come to before the checks were started: the record waits for its activity,
it cannot have one, or the checks are started. -/
theorem openingTurn_cases (e : Execution) (s : Script) (pace : Pace) :
    ((e.openingTurn s pace).ending = .awaiting ∧ (e.openingTurn s pace).check = none) ∨
    (∃ f, (e.opening s.fetcher).answer = .error f ∧ (e.openingTurn s pace).ending = .failed f ∧
      (e.openingTurn s pace).check = none) ∨
    (∃ a, (e.opening s.fetcher).answer = .ok a ∧
      (e.openingTurn s pace).ending = s.proceed a pace ∧
      (e.openingTurn s pace).check = e.check? s) := by
  simp only [openingTurn]
  split
  · exact .inl ⟨rfl, rfl⟩
  · cases hanswer : (e.opening s.fetcher).answer with
    | error f => exact .inr (.inl ⟨f, rfl, rfl, rfl⟩)
    | ok a => exact .inr (.inr ⟨a, rfl, rfl, (check?_of_ok hanswer).symm⟩)

/-- All that a turn can come to. If the checks go on, they are started now or were before. -/
theorem Sound.turn_cases (h : Sound now tickInterval s e) (pace : Pace) :
    ((e.turn s pace).ending = .awaiting ∧ e.made s ++ (e.turn s pace).check.toList = []) ∨
    (∃ f, (e.opening s.fetcher).answer = .error f ∧ (e.turn s pace).ending = .failed f ∧
      e.made s ++ (e.turn s pace).check.toList = []) ∨
    (∃ a, (e.opening s.fetcher).answer = .ok a ∧ (e.turn s pace).ending = s.proceed a pace ∧
      e.made s ++ (e.turn s pace).check.toList = e.calls s) := by
  cases hstage : e.stage with
  | underWay a =>
      refine .inr (.inr ⟨a, h.answer a hstage, ?_, ?_⟩)
      · rw [turn, hstage]
      · rw [turn, made, hstage]
        exact List.append_nil _
  | _ =>
      have hturn : e.turn s pace = e.openingTurn s pace := by rw [turn, hstage]
      have hmade : e.made s = [] := by rw [made, hstage]
      rw [hturn, hmade]
      rcases e.openingTurn_cases s pace with
          ⟨hend, hcheck⟩ | ⟨f, hanswer, hend, hcheck⟩ | ⟨a, hanswer, hend, hcheck⟩
      · exact .inl ⟨hend, by rw [hcheck]; rfl⟩
      · exact .inr (.inl ⟨f, hanswer, hend, by rw [hcheck]; rfl⟩)
      · exact .inr (.inr ⟨a, hanswer, hend, by rw [hcheck]; rfl⟩)

/-! ### A record that goes on -/

/-- A record that goes on is the same record, and as late as before. -/
theorem record_after? {how : TurnEnd} (h : e.after? how = some e') :
    e'.record = e.record ∧ e'.tardy = e.tardy := by
  cases how with
  | succeeded => exact nomatch h
  | failed f => exact nomatch h
  | _ =>
      obtain rfl := Option.some.inj h
      exact ⟨rfl, rfl⟩

/-- Its checks are under way with the activity that it was to have. -/
theorem stage_after?_proceed {a : Activity} (h : e.after? (s.proceed a pace) = some e') :
    e'.stage = .underWay a := by
  cases pace with
  | finishes =>
      simp only [Script.proceed] at h
      split at h <;> exact nomatch h
  | _ =>
      obtain rfl := Option.some.inj h
      rfl

/-- A record that goes on after a turn still agrees with its claim. -/
theorem Sound.after? (h : Sound now tickInterval s e)
    (hafter : e.after? (e.turn s pace).ending = some e') : Sound now tickInterval s e' := by
  obtain ⟨hrecord, htardy⟩ := record_after? hafter
  refine ⟨by rw [htardy, hrecord, h.tardy], fun b hb => ?_⟩
  rcases h.turn_cases pace with ⟨hend, -⟩ | ⟨f, -, hend, -⟩ | ⟨a, hanswer, hend, -⟩
  · rw [hend] at hafter
    obtain rfl := Option.some.inj hafter
    exact nomatch hb
  · rw [hend] at hafter
    exact nomatch hafter
  · rw [hend] at hafter
    obtain rfl : a = b := Stage.underWay.inj ((stage_after?_proceed hafter).symm.trans hb)
    rw [opening, hrecord]
    exact hanswer

/-- The calls that have been made for a record that goes on are those from before and that of its
turn. -/
theorem Sound.made_turn (h : Sound now tickInterval s e)
    (hafter : e.after? (e.turn s pace).ending = some e') :
    e.made s ++ (e.turn s pace).check.toList = e'.made s := by
  rcases h.turn_cases pace with ⟨hend, hmade⟩ | ⟨f, -, hend, -⟩ | ⟨a, -, hend, hmade⟩
  · rw [hend] at hafter
    obtain rfl := Option.some.inj hafter
    exact hmade
  · rw [hend] at hafter
    exact nomatch hafter
  · have hcalls : e'.calls s = e.calls s := by
      rw [(h.after? hafter).calls_eq, h.calls_eq, (record_after? hafter).1]
    rw [hend] at hafter
    rw [hmade, made, stage_after?_proceed hafter, hcalls]

/-! ### A record that finishes -/

/-- When a record finishes all its calls have been made. -/
theorem Sound.calls_turn (h : Sound now tickInterval s e)
    (hfinal : (e.turn s pace).ending.isFinal = true) :
    e.made s ++ (e.turn s pace).check.toList = e.calls s := by
  rcases h.turn_cases pace with ⟨hend, -⟩ | ⟨f, hanswer, -, hmade⟩ | ⟨a, -, -, hmade⟩
  · rw [hend] at hfinal
    exact nomatch hfinal
  · rw [hmade, calls, check?_of_error hanswer]
    rfl
  · exact hmade

/-- A record finishes well exactly when it succeeds. -/
theorem Sound.isSuccess_turn (h : Sound now tickInterval s e)
    (hfinal : (e.turn s pace).ending.isFinal = true) :
    (e.turn s pace).ending.isSuccess = e.succeeds s := by
  rcases h.turn_cases pace with ⟨hend, -⟩ | ⟨f, hanswer, hend, -⟩ | ⟨a, hanswer, hend, -⟩
  · rw [hend] at hfinal
    exact nomatch hfinal
  · rw [hend, succeeds, check?_of_error hanswer]
    rfl
  · rw [hend] at hfinal ⊢
    rw [succeeds, check?_of_ok hanswer]
    cases pace with
    | finishes =>
        simp only [Script.proceed]
        cases s.checks.result <;> rfl
    | _ => exact nomatch hfinal

end Execution

/-! ### What a turn does to a tick -/

namespace Tick

variable {t : Tick} {e : Execution} {others : List Execution}

/-- The records of a tick that have had no turn, in the order in which they will have their first
one. -/
def unstarted (t : Tick) : List Execution := t.running.filter (·.isFresh) ++ t.waiting

/-- The record in front stays among those that have not finished if it goes on, and all others
stay. -/
theorem unfinished_endTurn (h : t.running = e :: others) (how : TurnEnd) (q : Queue) :
    (t.endTurn how q).2.1.unfinished.Perm
      ((e.after? how).toList ++ (others ++ t.stalled ++ t.waiting)) := by
  have hfinish (f : Option Failure) : (t.finish e others f q).2.1.unfinished.Perm
      (others ++ t.stalled ++ t.waiting) := by
    have hmoved : ((others ++ t.waiting.take 1) ++ (t.stalled ++ t.waiting.drop 1)).Perm
        ((others ++ t.stalled) ++ (t.waiting.take 1 ++ t.waiting.drop 1)) := by
      rw [List.append_assoc, List.append_assoc]
      exact (List.perm_append_comm_assoc _ _ _).append_left others
    rw [List.take_append_drop, ← List.append_assoc] at hmoved
    exact hmoved
  rw [endTurn, h]
  cases how with
  | awaiting =>
      simp only [unfinished, Execution.after?, Option.toList_some, List.append_assoc]
      exact List.perm_middle
  | gaveWay a =>
      simp only [unfinished, Execution.after?, Option.toList_some, List.append_assoc]
      exact List.perm_middle
  | stalled a =>
      simp only [unfinished, Execution.after?, Option.toList_some]
      rw [← List.append_assoc, List.append_assoc]
      exact List.perm_middle
  | succeeded => exact hfinish none
  | failed f => exact hfinish (some f)

/-- Those that wait have had no turn, and keep their order. -/
theorem waiting_endTurn (t : Tick) (how : TurnEnd) (q : Queue) :
    (t.endTurn how q).2.1.waiting.Sublist t.waiting := by
  rw [endTurn]
  split
  · exact .refl _
  · cases how with
    | succeeded => exact List.drop_sublist ..
    | failed f => exact List.drop_sublist ..
    | _ => exact .refl _

/-- The record in front is not fresh after its turn, and all others keep their order. -/
theorem unstarted_endTurn (h : t.running = e :: others)
    (hwaiting : ∀ w ∈ t.waiting, w.isFresh = true) (how : TurnEnd) (q : Queue) :
    (t.endTurn how q).2.1.unstarted = others.filter (·.isFresh) ++ t.waiting := by
  have hfinish (f : Option Failure) : (t.finish e others f q).2.1.unstarted =
      others.filter (·.isFresh) ++ t.waiting := by
    have hnext : (t.waiting.take 1).filter (·.isFresh) = t.waiting.take 1 :=
      List.filter_eq_self.mpr fun w hw => hwaiting w (List.mem_of_mem_take hw)
    simp only [finish, unstarted, List.filter_append, hnext, List.append_assoc,
      List.take_append_drop]
  rw [endTurn, h]
  cases how with
  | succeeded => exact hfinish none
  | failed f => exact hfinish (some f)
  | stalled a => rfl
  | _ =>
      simp only [unstarted, List.filter_append]
      exact congrArg (· ++ t.waiting) (List.append_nil _)

/-- The report of a tick counts the records that are finished. -/
theorem report_endTurn (h : t.running = e :: others) (how : TurnEnd) (q : Queue) :
    (t.endTurn how q).2.1.report =
      if how.isFinal then t.report.add how.isSuccess e.tardy else t.report := by
  rw [endTurn, h]
  cases how <;> rfl

/-- A record that is finished is taken out of the queue. -/
theorem queue_endTurn (h : t.running = e :: others) (how : TurnEnd) (q : Queue) :
    (t.endTurn how q).2.2 = if how.isFinal then (q.complete e.record.id).2 else q := by
  rw [endTurn, h]
  cases how <;> rfl

end Tick

end Deferral

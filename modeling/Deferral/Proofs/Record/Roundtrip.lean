import Deferral.Dispatch.Record
import Deferral.Proofs.Text.Basic
import Deferral.Proofs.Json.Roundtrip
import Deferral.Proofs.Time.Timestamps

/-!
# Records that read back

A record reads back from its JSON form and from the text of that, unless its tolerance is a limit,
which is written with a binary number. Each field is written as a value that its own reader reads
back, and a choice between forms is settled by the kind of the value: a flag is never read as a list
of sources, nor a list as a flag, whatever strings are in it. An id is written in groups of digits
with hyphens between them.

## Main results

* `digits?_hyphenated` — digits that were put into groups are found in them;
* `read?_render` — ids;
* `CancelRule.ofJson?_toJson`, `Span.ofJson?_toJson`, `Activity.ofJson?_toJson` — parts of records;
* `Record.ofJson?_ofMembers` — a record is read with whatever instant its timestamp is read as;
* `Record.ofJson?_parse?_render` — records.
-/

namespace Deferral.RecordId

variable {ns : List Nat} {cs : List Char}

/-! ### Groups -/

/-- How many digits fill groups of these lengths. -/
def digitCount : List Nat → Nat
  | [] => 0
  | n :: ns => n + digitCount ns

/-- Digits that fill their groups have one hyphen fewer than there are groups. -/
theorem length_hyphenated (hns : ns ≠ []) (hcs : cs.length = digitCount ns) :
    (hyphenated ns cs).length + 1 = cs.length + ns.length := by
  induction ns generalizing cs with
  | nil => exact absurd rfl hns
  | cons n ns ih =>
      cases ns with
      | nil => rfl
      | cons m ns =>
          rw [digitCount] at hcs
          have hdrop : (cs.drop n).length = digitCount (m :: ns) := by
            rw [List.length_drop]
            omega
          have hrest := ih (List.cons_ne_nil m ns) hdrop
          rw [List.length_drop] at hrest
          simp only [hyphenated, List.length_append, List.length_cons, List.length_take] at hrest ⊢
          omega

/-- **Groups.** Digits that fill their groups are found in them. -/
theorem digits?_hyphenated (hns : ns ≠ []) (hcs : cs.length = digitCount ns) :
    digits? ns (hyphenated ns cs) = some cs := by
  induction ns generalizing cs with
  | nil => exact absurd rfl hns
  | cons n ns ih =>
      cases ns with
      | nil =>
          simp only [digitCount, Nat.add_zero] at hcs
          rw [hyphenated, digits?, hcs, beq_self_eq_true, if_pos rfl]
      | cons m ns =>
          rw [digitCount] at hcs
          have hfirst : (cs.take n).length = n := List.length_take_of_le (by omega)
          have hdrop : (cs.drop n).length = digitCount (m :: ns) := by
            rw [List.length_drop]
            omega
          have hrest := ih (List.cons_ne_nil m ns) hdrop
          simp only [hyphenated, digits?, List.drop_left' hfirst, List.take_left' hfirst, hrest,
            Option.map_some, List.take_append_drop]

/-! ### Ids -/

/-- The 32 digits of an id stand for it. -/
theorem ofDigits?_hexDigits (id : RecordId) :
    ofDigits? (Text.hexDigits 32 id.bits.toNat) = some id := by
  have hread : Text.readHex? 0 (Text.hexDigits 32 id.bits.toNat) = some id.bits.toNat :=
    Text.readHex?_hexDigits_of_lt id.bits.isLt
  rw [ofDigits?, Text.length_hexDigits, hread]
  simp

/-- **Ids.** The text of an id reads back. -/
theorem read?_render (id : RecordId) : read? id.render = some id := by
  have hdigits := Text.length_hexDigits 32 id.bits.toNat
  have hlength : id.render.length = 36 := by
    have hgroups : id.render.length + 1 = _ := length_hyphenated (by decide) hdigits
    rw [hdigits] at hgroups
    exact Nat.succ.inj hgroups
  simp only [read?, hlength]
  rw [render, digits?_hyphenated (by decide) hdigits, Option.bind_some, ofDigits?_hexDigits]

/-- An id reads back from its JSON form. -/
theorem ofJson?_toJson (id : RecordId) : ofJson? id.toJson = some id := by
  rw [toJson, Json.text, ofJson?, String.toList_ofList, read?_render]

end Deferral.RecordId

namespace Deferral

open Json

/-! ### Words -/

/-- A kind of activities reads back from its JSON form. -/
theorem ActivityKind.ofJson?_toJson (k : ActivityKind) : ofJson? k.toJson = some k := by
  cases k <;> rfl

/-- A type of records reads back from its JSON form. -/
theorem DispatchType.ofJson?_toJson (t : DispatchType) : ofJson? t.toJson = some t := by
  cases t <;> rfl

/-- A policy reads back from its JSON form. -/
theorem OnExisting.ofJson?_toJson (p : OnExisting) : ofJson? p.toJson = some p := by
  cases p <;> rfl

/-! ### Rules -/

/-- A flag reads back as the tolerance it was written for. -/
theorem Tolerance.ofJson?_toJson {t : Tolerance} (h : t = .strict ∨ t = .tolerant) :
    ofJson? t.toJson = some t := by
  rcases h with rfl | rfl <;> rfl

/-- **Cancelling.** Any rule reads back, also from a list of no sources or of one. -/
theorem CancelRule.ofJson?_toJson (rule : CancelRule) : ofJson? rule.toJson = some rule := by
  cases rule with
  | never | anyFresh => rfl
  | sources texts =>
      have hlist : asOneOrMany? asString? (arr (texts.map str)) = some texts :=
        asList?_map asString?_str texts
      rw [toJson, ofJson?, hlist, Option.map_some]
      · exact nofun
      · exact nofun

/-! ### Times -/

/-- A span is the span of its nanoseconds. -/
theorem Span.ofNanos?_nanos (d : Span) : ofNanos? d.nanos = some d := dif_pos d.nanos_lt

/-- The seconds of a span fit 64 bits. -/
theorem Span.seconds_le (d : Span) : d.seconds ≤ Text.maxUnsigned64 := by
  have hlt := d.nanos_lt
  rw [spanLimit] at hlt
  rw [seconds, nanosPerSecond, Text.maxUnsigned64]
  omega

/-- What a span has beyond its seconds fits 32 bits. -/
theorem Span.subsecond_le (d : Span) : d.subsecond ≤ Text.maxUnsigned32 := by
  have hlt : d.subsecond < nanosPerSecond := Nat.mod_lt _ (by decide)
  rw [nanosPerSecond] at hlt
  rw [Text.maxUnsigned32]
  omega

/-- A span reads back from its JSON form. -/
theorem Span.ofJson?_toJson (d : Span) : ofJson? d.toJson = some d := by
  have hfields : closedFields? shape d.toJson =
      some [some (nat d.seconds), some (nat d.subsecond)] := rfl
  have hwhole : nanosPerSecond * d.seconds + d.subsecond = d.nanos :=
    Nat.div_add_mod d.nanos nanosPerSecond
  rw [ofJson?, hfields]
  simp only [required, Option.bind_eq_bind, Option.bind_some, asUnsigned64?,
    asNat?_nat d.seconds_le, asNat?_nat d.subsecond_le, hwhole, ofNanos?_nanos]

/-- An instant reads back from its JSON form. -/
theorem Instant.ofJson?_toJson (t : Instant) : ofJson? t.toJson = some t := by
  rw [toJson, Json.text, ofJson?, String.toList_ofList, Timestamp.read?_render]

/-! ### Activities -/

/-- An activity reads back from its JSON form. -/
theorem Activity.ofJson?_toJson (a : Activity) : ofJson? a.toJson = some a := by
  have hnames : ["id", "kind", "parent_id", "subreddit"].Nodup := by decide
  have hfields : fields? shape a.toJson =
      some [some (str a.id), some a.kind.toJson, some (ofOption str a.parentId),
        some (str a.subreddit)] := fields?_ofMembers rfl hnames
  rw [ofJson?, hfields]
  simp only [required, Option.bind_eq_bind, Option.bind_some, asString?_str,
    ActivityKind.ofJson?_toJson, optional_ofOption asString?_str (fun _ => nofun) a.parentId]

/-! ### Records -/

namespace Record

variable {r : Record}

/-- The members of the JSON form of a record, with a value for its timestamp. -/
def members (r : Record) (timestamp : Json) : List (String × Json) :=
  [
    ("id", r.id.toJson), ("activity", r.activity.toJson), ("type", r.type.toJson),
    ("queuedAt", timestamp), ("delay", r.delay.toJson),
    ("identifier", ofOption str r.identifier), ("goto", ofOption str r.goto),
    ("onExistingFound", r.onExisting.toJson), ("tardyTolerant", r.tolerance.toJson),
    ("cancelIfQueued", r.cancelRule.toJson), ("action", str r.action),
    ("dryRun", ofOption bool r.dryRun), ("processing", bool r.processing)]

/-- The JSON form of a record is made of its members. -/
theorem toJson_eq (r : Record) : r.toJson = ofMembers (r.members r.queuedAt.toJson) := rfl

/-- No two members have one key. -/
theorem nodup_members (r : Record) (timestamp : Json) :
    ((r.members timestamp).map (·.1)).Nodup := by
  have hnames : (shape.map (·.name)).Nodup := by decide
  exact hnames

/-- Each field of a record has its member. -/
theorem fields?_members (r : Record) (timestamp : Json) :
    fields? shape (ofMembers (r.members timestamp)) =
      some ((r.members timestamp).map fun m => some m.2) :=
  fields?_ofMembers rfl (r.nodup_members timestamp)

/-- **Timestamps.** A record is read with the instant that its timestamp is read as, whatever that
timestamp is, and with all other fields as they were written. -/
theorem ofJson?_ofMembers (h : r.tolerance = .strict ∨ r.tolerance = .tolerant)
    (timestamp : Json) :
    ofJson? (ofMembers (r.members timestamp)) =
      (Instant.ofJson? timestamp).map fun t => { r with queuedAt := t } := by
  rw [ofJson?, fields?_members]
  simp only [members, List.map_cons, List.map_nil, required, Option.bind_eq_bind, Option.bind_some,
    RecordId.ofJson?_toJson, Activity.ofJson?_toJson, DispatchType.ofJson?_toJson,
    Span.ofJson?_toJson, OnExisting.ofJson?_toJson, Tolerance.ofJson?_toJson h,
    CancelRule.ofJson?_toJson, asString?_str, asBool?_bool,
    optional_ofOption asString?_str (fun _ => nofun),
    optional_ofOption asBool?_bool (fun _ => nofun)]
  cases Instant.ofJson? timestamp <;> rfl

/-- A record without a limit for its tolerance reads back from its JSON form. -/
theorem ofJson?_toJson (h : r.tolerance = .strict ∨ r.tolerance = .tolerant) :
    ofJson? r.toJson = some r := by
  rw [toJson_eq, ofJson?_ofMembers h, Instant.ofJson?_toJson, Option.map_some]

/-! ### Their texts -/

/-- Natural numbers of 64 bits read back from their texts. -/
theorem plainWithin_nat {depth n : Nat} (hn : n ≤ Text.maxUnsigned64) :
    PlainWithin depth (nat n) :=
  .int depth ⟨by omega, by omega⟩

/-- Activities read back from their texts. -/
theorem plainWithin_activity (depth : Nat) (a : Activity) : PlainWithin (depth + 1) a.toJson := by
  refine .ofMembers ?_
  simp only [List.forall_mem_cons]
  exact ⟨.str _ _, .str _ _, .ofOption (.str _) _, .str _ _, nofun⟩

/-- Delays read back from their texts. -/
theorem plainWithin_delay (depth : Nat) (d : Span) : PlainWithin (depth + 1) d.toJson := by
  have hkeys : "nanos" < "secs" := by decide
  refine .obj (List.pairwise_pair.mpr hkeys) ?_
  simp only [List.forall_mem_cons]
  exact ⟨plainWithin_nat (d.subsecond_le.trans (by decide)), plainWithin_nat d.seconds_le, nofun⟩

/-- Rules for cancellation read back from their texts. -/
theorem plainWithin_cancelRule (depth : Nat) (rule : CancelRule) :
    PlainWithin (depth + 1) rule.toJson := by
  cases rule with
  | never | anyFresh => exact .bool _ _
  | sources texts =>
      refine .arr fun j hj => ?_
      obtain ⟨text, -, rfl⟩ := List.mem_map.mp hj
      exact .str _ _

/-- Tolerances without a limit read back from their texts. -/
theorem plainWithin_tolerance {t : Tolerance} (h : t = .strict ∨ t = .tolerant) (depth : Nat) :
    PlainWithin depth t.toJson := by
  rcases h with rfl | rfl <;> exact .bool _ _

/-- A record without a limit is nested no deeper than an activity in it. -/
theorem plainWithin_toJson (h : r.tolerance = .strict ∨ r.tolerance = .tolerant) (depth : Nat) :
    PlainWithin (depth + 2) r.toJson := by
  refine .ofMembers ?_
  simp only [List.forall_mem_cons]
  exact ⟨.str _ _, plainWithin_activity _ _, .str _ _, .str _ _, plainWithin_delay _ _,
    .ofOption (.str _) _, .ofOption (.str _) _, .str _ _, plainWithin_tolerance h _,
    plainWithin_cancelRule _ _, .str _ _, .ofOption (.bool _) _, .bool _ _, nofun⟩

/-- **Records.** A record whose tolerance is no limit reads back from its JSON form, and from the
text of that. -/
theorem ofJson?_parse?_render (h : r.tolerance = .strict ∨ r.tolerance = .tolerant) :
    ofJson? r.toJson = some r ∧ (parse? r.toJson.render).bind ofJson? = some r := by
  have hread := ofJson?_toJson h
  refine ⟨hread, ?_⟩
  rw [(plainWithin_toJson h 125).parse?_render, Option.bind_some, hread]

/-- A record with texts that look like something else, and a list of one source. -/
theorem ofJson?_parse?_render_lookalikes :
    let r : Record := {
      plain ⟨0x1F⟩ (.submission "null" "") .rerun ⟨5000000001, by decide⟩ .epoch with
      identifier := some ""
      goto := some "false"
      tolerance := .tolerant
      cancelRule := .sources ["true"]
      dryRun := some false }
    (r.tolerance = .strict ∨ r.tolerance = .tolerant) ∧
      ofJson? r.toJson = some r ∧ (parse? r.toJson.render).bind ofJson? = some r :=
  ⟨.inr rfl, ofJson?_parse?_render (.inr rfl)⟩

end Record

end Deferral

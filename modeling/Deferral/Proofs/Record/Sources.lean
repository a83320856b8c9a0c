import Deferral.Dispatch.Record
import Deferral.Proofs.Json.Roundtrip

/-!
# Sources that read back

The text of a source is read without the white space at its ends, and a tag that is empty is none.
So a source without a tag reads back, and one with a tag reads back exactly if the tag is not empty
and does not end with white space. What stands in front of a tag keeps white space at its beginning.

## Main results

* `read_text_tagged` — what is read where a tag was written;
* `read_text_iff_isTrimmed` — which sources read back, from their texts and from JSON texts.
-/

namespace Deferral

namespace Text

variable {cs : List Char}

/-- White space at the end of a text is in its second part if the first does not end with any. -/
theorem trimEnd_append (hcs : ∀ c ∈ cs.getLast?, isBlank c = false) (ds : List Char) :
    trimEnd (cs ++ ds) = cs ++ trimEnd ds := by
  have hself : cs.reverse.dropWhile isBlank = cs.reverse := by
    have htrim := congrArg List.reverse (trimEnd_eq_self hcs)
    rwa [trimEnd, List.reverse_reverse] at htrim
  rw [trimEnd, trimEnd, List.reverse_append, List.dropWhile_append, hself]
  split
  · next hempty =>
      rw [List.isEmpty_iff.mp hempty, List.reverse_reverse, List.reverse_nil, List.append_nil]
  · rw [List.reverse_append, List.reverse_reverse]

/-- A text is as it was without the white space at its end if there is none. -/
theorem trimEnd_eq_self_iff : trimEnd cs = cs ↔ ∀ c ∈ cs.getLast?, isBlank c = false := by
  refine ⟨fun h c hc => ?_, trimEnd_eq_self⟩
  have hreverse : cs.reverse.dropWhile isBlank = cs.reverse := List.reverse_eq_iff.mp h
  have hstop := List.head?_dropWhile_not isBlank cs.reverse
  rw [hreverse, List.head?_reverse] at hstop
  rwa [Option.mem_def.mp hc] at hstop

end Text

namespace Source

variable {s : Source}

/-- Whether the tag of a source, if there is one, is not empty and does not end with white space. -/
def IsTrimmed : Source → Prop
  | dispatch (some tag) => tag ≠ "" ∧ ∀ c ∈ tag.toList.getLast?, Text.isBlank c = false
  | _ => True

/-! ### Texts -/

/-- What stands in front of a tag begins and ends with no white space. -/
theorem trim_text_tagged (tag : String) :
    Text.trim (dispatch (some tag)).text.toList =
      "dispatch:".toList ++ Text.trimEnd tag.toList := by
  have hstart : Text.trimStart ("dispatch:".toList ++ tag.toList) =
      "dispatch:".toList ++ tag.toList := Text.trimStart_cons (by decide) _
  rw [text, String.toList_append, Text.trim, hstart, Text.trimEnd_append (by simp [Text.isBlank])]

/-- The tag is what stands behind the colon, if anything does. -/
theorem tag?_append (cs : List Char) :
    tag? ("dispatch:".toList ++ cs) = if cs = [] then none else some cs := by
  cases cs with
  | nil => rfl
  | cons c r => simp [tag?]

/-- **Tags.** Where a tag was written, the tag is read without the white space at its end, and
nothing is read if it has no more than that. -/
theorem read_text_tagged (tag : String) :
    read (dispatch (some tag)).text =
      if Text.trimEnd tag.toList = [] then .error (.unknown "dispatch:")
      else .ok (dispatch (some (String.ofList (Text.trimEnd tag.toList)))) := by
  have hpoll : "dispatch:".toList ++ Text.trimEnd tag.toList ≠ "poll".toList := by simp
  have huser : "dispatch:".toList ++ Text.trimEnd tag.toList ≠ "user".toList := by simp
  have hbare : "dispatch:".toList ++ Text.trimEnd tag.toList ≠ "dispatch".toList := by simp
  simp only [read, trim_text_tagged, if_neg hpoll, if_neg huser, if_neg hbare, tag?_append]
  by_cases hempty : Text.trimEnd tag.toList = []
  · simp only [hempty, if_true, List.append_nil, String.ofList_toList]
  · simp only [if_neg hempty]

/-- A source reads back from its text exactly if its tag reads back. -/
theorem read_text_iff : read s.text = .ok s ↔ s.IsTrimmed := by
  match s with
  | poll | user | dispatch none => exact iff_of_true rfl trivial
  | dispatch (some tag) =>
      rw [read_text_tagged, IsTrimmed, ← Text.trimEnd_eq_self_iff]
      split
      · next hempty =>
          refine iff_of_false nofun fun ⟨hne, htrim⟩ => hne ?_
          rw [← String.toList_inj, ← htrim, hempty]
          rfl
      · next hsome =>
          rw [Except.ok.injEq, dispatch.injEq, Option.some_inj, ← String.toList_inj,
            String.toList_ofList]
          refine (and_iff_right_of_imp fun htrim => ?_).symm
          rintro rfl
          exact hsome htrim

/-! ### JSON texts -/

/-- A source reads back from its JSON form if it does from its text. -/
theorem ofJson?_toJson : ofJson? s.toJson = some s ↔ read s.text = .ok s := by
  rw [toJson, ofJson?]
  cases read s.text with
  | ok t => rw [Except.toOption, Option.some_inj, Except.ok.injEq]
  | error e => exact iff_of_false nofun nofun

/-- The text of its JSON form reads back for every source. -/
theorem parse?_render_toJson (s : Source) : Json.parse? s.toJson.render = some s.toJson :=
  (Json.PlainWithin.str _ s.text).parse?_render

/-- **Sources.** A source reads back, from its text and from its JSON text, exactly if it has no tag
or a tag that is not empty and does not end with white space. The source that a record leads to is
such a source if the record has no identifier or one like this. -/
theorem read_text_iff_isTrimmed :
    (∀ s : Source, (read s.text = .ok s ↔ s.IsTrimmed) ∧
      ((Json.parse? s.toJson.render).bind ofJson? = some s ↔ s.IsTrimmed)) ∧
    ∀ r : Record, r.source.IsTrimmed ↔
      ∀ tag ∈ r.identifier, tag ≠ "" ∧ ∀ c ∈ tag.toList.getLast?, Text.isBlank c = false := by
  refine ⟨fun s => ⟨read_text_iff, ?_⟩, fun r => ?_⟩
  · rw [parse?_render_toJson, Option.bind_some, ofJson?_toJson, read_text_iff]
  · rw [Record.source]
    cases r.identifier with
    | none => exact iff_of_true trivial nofun
    | some tag => simp only [IsTrimmed, Option.mem_def, Option.some.injEq, forall_eq']

/-- Not every source reads back: of two tags, one is empty and one ends with white space. -/
theorem read_text_ne :
    read (dispatch (some "")).text = .error (.unknown "dispatch:") ∧
      read (dispatch (some "x ")).text = .ok (dispatch (some "x")) ∧
      ¬ ∀ s : Source, read s.text = .ok s := by
  have hempty : read (dispatch (some "")).text = .error (.unknown "dispatch:") := by decide
  have hblank : read (dispatch (some "x ")).text = .ok (dispatch (some "x")) := by decide
  refine ⟨hempty, hblank, fun h => ?_⟩
  have hread := h (dispatch (some ""))
  rw [hempty] at hread
  cases hread

end Source

end Deferral

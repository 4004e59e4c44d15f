import RuntimeValues.Value.Fault
import RuntimeValues.Proofs.Diagnostic.PlainText

/-!
# Telling faults apart

Among the faults of one number the message tells which fault it is, with the operation, the
kind, the count or the text that it names. So the plain text of an error tells the fault, the
context and the note, whatever was changed about the error since it arose. Only a raised text
of several lines could pass for an error with a note.
-/

namespace RuntimeValues

set_option autoImplicit false

theorem Operation.phrase_injective {op op' : Operation} (h : op.phrase = op'.phrase) :
    op = op' := by
  revert h
  cases op <;> cases op' <;> simp [phrase]

/-- No two kinds have phrases that end with the same two letters. -/
theorem Kind.eq_of_ending {actual actual' : Kind} {front front' : String}
    (h : front ++ actual.phrase = front' ++ actual'.phrase) : actual = actual' := by
  have hending := congrArg (fun text => text.toList.reverse.take 2) h
  simp only [String.toList_append, List.reverse_append] at hending
  revert hending
  cases actual <;> cases actual' <;> simp [phrase]

namespace Fault

theorem mismatch_of_message {op op' : Operation} {actual actual' : Kind}
    (h : (typeMismatch op actual).message = (typeMismatch op' actual').message) :
    op = op' ∧ actual = actual' := by
  obtain rfl := Kind.eq_of_ending h
  have hfront := (String.append_left_inj actual.phrase).mp h
  have hphrase := (String.append_right_inj "cannot ").mp ((String.append_left_inj " ").mp hfront)
  exact ⟨Operation.phrase_injective hphrase, rfl⟩

/-- The wording changes with the count, but the number stands in front of a space either way. -/
theorem message_rebindDuringCall (n : Nat) : ∃ rest, Text.Opens ' ' rest ∧
    (rebindDuringCall n).message = "cannot rebind a function while " ++ (n.repr ++ rest) := by
  by_cases h : n < 2
  · refine ⟨" call to it is in progress", by simp [Text.Opens], ?_⟩
    simp [message, h, String.append_assoc]
  · refine ⟨" calls to it are in progress", by simp [Text.Opens], ?_⟩
    simp [message, h, String.append_assoc]

theorem count_of_message {m n : Nat}
    (h : (rebindDuringCall m).message = (rebindDuringCall n).message) : m = n := by
  have hdigits : ∀ k : Nat, ' ' ∉ k.repr.toList := fun k hspace =>
    absurd (Text.isDigit_of_mem_repr hspace) (by decide)
  obtain ⟨rest, hopens, hm⟩ := message_rebindDuringCall m
  obtain ⟨rest', hopens', hn⟩ := message_rebindDuringCall n
  rw [hm, hn] at h
  have hcounts := (String.append_right_inj "cannot rebind a function while ").mp h
  exact Text.repr_injective
    (Text.append_inj_of_opens (hdigits m) (hdigits n) hopens hopens' hcounts).1

/-- A fault is told by its number and its message. -/
theorem eq_of_message {a b : Fault} (hnumber : a.number = b.number)
    (h : a.message = b.message) : a = b := by
  cases a with
  | typeMismatch op actual =>
    cases b with
    | typeMismatch op' actual' =>
      obtain ⟨rfl, rfl⟩ := mismatch_of_message h
      rfl
    | _ => cases hnumber
  | rebindDuringCall m =>
    cases b with
    | rebindDuringCall n => rw [count_of_message h]
    | _ => cases hnumber
  | raised text =>
    cases b with
    | raised text' => exact congrArg raised h
    | _ => cases hnumber
  | unboundFunction | alreadyRebound => cases b <;> first | rfl | cases hnumber

/-- The message is a single line. The library's own messages are; a program may raise any
text. -/
def SingleLine : Fault → Prop
  | raised text => '\n' ∉ text.toList
  | typeMismatch _ _ | unboundFunction | alreadyRebound | rebindDuringCall _ => True

theorem SingleLine.newline_not_mem {fault : Fault} (h : fault.SingleLine) :
    '\n' ∉ fault.message.toList := by
  cases fault with
  | typeMismatch op actual =>
    have hoperation : '\n' ∉ op.phrase.toList := by cases op <;> simp [Operation.phrase]
    have hkind : '\n' ∉ actual.phrase.toList := by cases actual <;> simp [Kind.phrase]
    simp [message, hoperation, hkind]
  | rebindDuringCall n =>
    have hdigits : '\n' ∉ n.repr.toList := fun hnewline =>
      absurd (Text.isDigit_of_mem_repr hnewline) (by decide)
    rw [Nat.toList_repr] at hdigits
    simp only [message]
    split <;> simp [hdigits]
  | raised text => exact h
  | unboundFunction | alreadyRebound => simp [message]

end Fault

/-- The plain text of an error tells everything about it. -/
theorem ValueError.eq_of_plain {d e : ValueError} (hd : d.cause.SingleLine)
    (he : e.cause.SingleLine) {red red' : String → String}
    (h : d.renderWith red .plain = e.renderWith red' .plain) : d = e := by
  obtain ⟨hcontext, hcode, hmessage, hrest⟩ :=
    Diagnostic.parts_of_plain (d := d) (e := e) hd.newline_not_mem he.newline_not_mem h
  have hnumber : d.cause.number = e.cause.number :=
    Nat.add_left_cancel (Cause.codeNumber_eq hcode)
  have hcause : d.cause = e.cause := Fault.eq_of_message hnumber hmessage
  have hhelp : d.help = e.help := congrArg Fault.help hcause
  exact Diagnostic.eq_of_parts hcause hcontext (Diagnostic.note_of_help hhelp hrest)

example (red : String → String) : (Fault.raised "a\nNote: b").error.renderWith red .plain =
    ((Fault.raised "a").error.apply (.setNote "b")).renderWith red .plain := by
  rfl

/-- Two errors arise and are changed on their way in whatever manner. If their plain texts are
the same, they have the same fault, the same context and the same note. -/
theorem ValueError.plain_text_tells_all {a b : Fault} {changes changes' : List Change}
    {red red' : String → String} (ha : a.SingleLine) (hb : b.SingleLine)
    (h : (a.error.applyAll changes).renderWith red .plain =
      (b.error.applyAll changes').renderWith red' .plain) :
    a = b ∧
      (a.error.applyAll changes).details.context = (b.error.applyAll changes').details.context ∧
      (a.error.applyAll changes).details.note = (b.error.applyAll changes').details.note := by
  have hcause : (a.error.applyAll changes).cause = a := by rw [Diagnostic.applyAll_eq]; rfl
  have hcause' : (b.error.applyAll changes').cause = b := by rw [Diagnostic.applyAll_eq]; rfl
  have heq : a.error.applyAll changes = b.error.applyAll changes' := by
    refine eq_of_plain ?_ ?_ h
    · rw [hcause]
      exact ha
    · rw [hcause']
      exact hb
  refine ⟨?_, ?_, ?_⟩
  · rw [← hcause, heq, hcause']
  · rw [heq]
  · rw [heq]

/-- Two ways in which an error comes to have a note that imitates another error with help. -/
def imitationThenContext : List Change :=
  [.setNote "E0103: x\nHelp: none", .offerContext none, .setContext .buildingList]

def contextThenImitation : List Change :=
  [.setContext .unknown, .offerContext (some .buildingList), .offerContext (some .callingFunction),
    .setNote "x", .setNote "E0103: x\nHelp: none"]

theorem ValueError.plain_text_tells_all_imitation :
    Fault.SingleLine (.raised "Help: none") ∧
      ((Fault.raised "Help: none").error.applyAll imitationThenContext).renderWith
          escapeRed .plain =
        ((Fault.raised "Help: none").error.applyAll contextThenImitation).renderWith id .plain ∧
      ((Fault.raised "Help: none").error.applyAll imitationThenContext).details.context =
        ((Fault.raised "Help: none").error.applyAll contextThenImitation).details.context ∧
      ((Fault.raised "Help: none").error.applyAll imitationThenContext).details.note =
        ((Fault.raised "Help: none").error.applyAll contextThenImitation).details.note := by
  have hsingle : Fault.SingleLine (.raised "Help: none") := by simp [Fault.SingleLine]
  have htext :
      ((Fault.raised "Help: none").error.applyAll imitationThenContext).renderWith
          escapeRed .plain =
        ((Fault.raised "Help: none").error.applyAll contextThenImitation).renderWith id .plain :=
    rfl
  exact ⟨hsingle, htext, (plain_text_tells_all hsingle hsingle htext).2⟩

end RuntimeValues

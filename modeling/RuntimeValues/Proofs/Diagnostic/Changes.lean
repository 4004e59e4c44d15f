import RuntimeValues.Diagnostic.Code
import Mathlib.Data.List.DropRight

/-!
# What changes make of an error

Of the contexts that are set the last one counts, and of those that are offered the first one, but
an offer counts only while the context is unknown. So what an error ends up with can be read off
the changes: the context that was set last, or else the first known one that was offered since.
Setting the context to `unknown` makes room for offers again. The note is the one that was set
last. Changes of the context and changes of the note do not meet, and no change touches the cause.
-/

namespace RuntimeValues

set_option autoImplicit false

def Context.isKnown (c : Context) : Bool := !decide (c = .unknown)

theorem Context.isKnown_iff (c : Context) : c.isKnown = true ↔ c ≠ .unknown := by
  simp [isKnown]

namespace Change

/-- The context that the change puts in the place of the old one. -/
def contextSet : Change → Option Context
  | setContext c => some c
  | offerContext _ | setNote _ => none

/-- The context that the change offers. -/
def contextOffered : Change → Option Context
  | offerContext c => c
  | setContext _ | setNote _ => none

/-- The note that the change puts in the place of the old one. -/
def noteSet : Change → Option String
  | setNote note => some note
  | setContext _ | offerContext _ => none

/-- The context that was set last, or the one there was if none was set. -/
def lastContext (start : Context) (changes : List Change) : Context :=
  (changes.filterMap contextSet).getLastD start

/-- The changes after the last one that set a context. -/
def sinceContext (changes : List Change) : List Change :=
  changes.rtakeWhile fun change => change.contextSet.isNone

/-- The first context that is known, if there is one. -/
def firstKnown (contexts : List Context) : Context :=
  (contexts.find? Context.isKnown).getD .unknown

/-- The context that the changes lead to. -/
def settledContext (start : Context) (changes : List Change) : Context :=
  if lastContext start changes = .unknown then
    firstKnown ((sinceContext changes).filterMap contextOffered)
  else lastContext start changes

/-- The note that was set last, or the one there was if none was set. -/
def lastNote (start : String) (changes : List Change) : String :=
  (changes.filterMap noteSet).getLastD start

theorem firstKnown_concat (contexts : List Context) (c : Context) :
    firstKnown (contexts ++ [c]) =
      if firstKnown contexts = .unknown then c else firstKnown contexts := by
  rcases Option.eq_none_or_eq_some (contexts.find? Context.isKnown) with hnone | ⟨known, hsome⟩
  · by_cases hc : c = .unknown <;>
      simp [firstKnown, List.find?_append, hnone, Context.isKnown, hc]
  · have hknown : known ≠ .unknown := (Context.isKnown_iff known).mp (List.find?_some hsome)
    simp [firstKnown, List.find?_append, hsome, hknown]

variable (start : Context) (changes : List Change)

theorem settledContext_concat_set (c : Context) :
    settledContext start (changes ++ [.setContext c]) = c := by
  have hlast : lastContext start (changes ++ [.setContext c]) = c := by
    simp [lastContext, contextSet, List.filterMap_append]
  have hsince : sinceContext (changes ++ [.setContext c]) = [] :=
    List.rtakeWhile_concat_neg _ _ _ (by simp [contextSet])
  rw [settledContext, hlast, hsince]
  split
  next h => exact h.symm
  next => rfl

/-- A change that sets no context keeps the context that was set last. -/
theorem lastContext_concat {change : Change} (h : change.contextSet = none) :
    lastContext start (changes ++ [change]) = lastContext start changes := by
  simp [lastContext, List.filterMap_append, h]

theorem sinceContext_concat {change : Change} (h : change.contextSet = none) :
    sinceContext (changes ++ [change]) = sinceContext changes ++ [change] :=
  List.rtakeWhile_concat_pos _ _ _ (by simp [h])

theorem settledContext_concat_offer (offer : Option Context) (note : String) :
    settledContext start (changes ++ [.offerContext offer]) =
      Details.offered ⟨settledContext start changes, note⟩ offer := by
  rw [settledContext, lastContext_concat start changes rfl, sinceContext_concat changes rfl,
    List.filterMap_append, settledContext]
  cases offer with
  | none => simp [List.filterMap_cons, contextOffered, Details.offered]
  | some c =>
    have honly : [Change.offerContext (some c)].filterMap contextOffered = [c] := rfl
    rw [honly, firstKnown_concat, Details.offered]
    split <;> rfl

theorem settledContext_concat_note (note : String) :
    settledContext start (changes ++ [.setNote note]) = settledContext start changes := by
  rw [settledContext, lastContext_concat start changes rfl, sinceContext_concat changes rfl,
    List.filterMap_append, settledContext]
  simp [List.filterMap_cons, contextOffered]

end Change

namespace Details

theorem applyAll_concat (d : Details) (changes : List Change) (change : Change) :
    d.applyAll (changes ++ [change]) = (d.applyAll changes).apply change := by
  rw [applyAll_append]
  rfl

theorem context_applyAll (d : Details) (changes : List Change) :
    (d.applyAll changes).context = Change.settledContext d.context changes := by
  induction changes using List.reverseRecOn with
  | nil => simp [Change.settledContext, Change.lastContext, Change.sinceContext, Change.firstKnown]
  | append_singleton changes change ih =>
    rw [applyAll_concat]
    cases change with
    | setContext c => rw [Change.settledContext_concat_set, apply_setContext]
    | offerContext c =>
      rw [Change.settledContext_concat_offer _ _ _ (d.applyAll changes).note, ← ih,
        apply_offerContext]
    | setNote note => rw [Change.settledContext_concat_note, apply_setNote, ih]

theorem note_applyAll (d : Details) (changes : List Change) :
    (d.applyAll changes).note = Change.lastNote d.note changes := by
  induction changes using List.reverseRecOn with
  | nil => rfl
  | append_singleton changes change ih =>
    rw [applyAll_concat]
    cases change <;> simp_all [Change.lastNote, Change.noteSet]

/-- The trail is what the changes make of the details one after the other. -/
theorem trail_eq_scanl (d : Details) (changes : List Change) :
    d.trail changes = changes.scanl apply d := by
  induction changes generalizing d with
  | nil => rfl
  | cons change rest ih => rw [trail, ih, List.scanl_cons]

/-- Neither changes of the note nor the note at the start make a difference to the context. -/
theorem context_applyAll_filter (d : Details) (note : String) (changes : List Change) :
    (applyAll ⟨d.context, note⟩ (changes.filter fun change => change.noteSet.isNone)).context =
      (d.applyAll changes).context := by
  induction changes generalizing d with
  | nil => rfl
  | cons change rest ih =>
    cases change with
    | setContext c => exact ih (d.apply (.setContext c))
    | offerContext offer =>
      have hoffer : offered ⟨d.context, note⟩ offer = d.offered offer := by cases offer <;> rfl
      rw [List.filter_cons_of_pos rfl, applyAll_cons, applyAll_cons, apply_offerContext, hoffer]
      exact ih (d.apply (.offerContext offer))
    | setNote text => exact ih (d.apply (.setNote text))

/-- Neither changes of the context nor the context at the start make a difference to the note. -/
theorem note_applyAll_filter (d : Details) (context : Context) (changes : List Change) :
    (applyAll ⟨context, d.note⟩ (changes.filter fun change => change.noteSet.isSome)).note =
      (d.applyAll changes).note := by
  induction changes generalizing d with
  | nil => rfl
  | cons change rest ih =>
    cases change with
    | setContext c => exact ih (d.apply (.setContext c))
    | offerContext offer => exact ih (d.apply (.offerContext offer))
    | setNote text => exact ih (d.apply (.setNote text))

end Details

namespace Diagnostic

variable {κ : Type}

theorem details_scanl (e : Diagnostic κ) (changes : List Change) :
    (changes.scanl apply e).map details = e.details.trail changes := by
  induction changes generalizing e with
  | nil => rfl
  | cons change rest ih => rw [List.scanl_cons, List.map_cons, ih, Details.trail, details_apply]

/-- Whatever changes are made of an error, its context is the last one that was set if that is
known, and else the first known one that was offered since. Its note is the one that was set last.
The two do not depend on each other, the cause stays, and changing the error is changing its
details. -/
theorem changes_settle [Cause κ] (e : Diagnostic κ) (changes : List Change) :
    (e.applyAll changes).details.context = Change.settledContext e.details.context changes ∧
    (e.applyAll changes).details.note = Change.lastNote e.details.note changes ∧
    ((e.applyAll changes).details.hasNote = true ↔
      Change.lastNote e.details.note changes ≠ "") ∧
    (∀ note, (applyAll ⟨e.cause, e.details.context, note⟩
        (changes.filter fun change => change.noteSet.isNone)).details.context =
      (e.applyAll changes).details.context) ∧
    (∀ context, (applyAll ⟨e.cause, context, e.details.note⟩
        (changes.filter fun change => change.noteSet.isSome)).details.note =
      (e.applyAll changes).details.note) ∧
    ((e.applyAll changes).cause = e.cause ∧ (e.applyAll changes).message = e.message ∧
      (e.applyAll changes).help = e.help ∧ (e.applyAll changes).code = e.code) ∧
    (changes.scanl apply e).map details = e.details.trail changes ∧
    e.details.trail changes = changes.scanl Details.apply e.details := by
  have hnote := Details.note_applyAll e.details changes
  have hcause := cause_applyAll e changes
  simp only [details_applyAll]
  refine ⟨Details.context_applyAll e.details changes, hnote, ?_,
    fun note => Details.context_applyAll_filter e.details note changes,
    fun context => Details.note_applyAll_filter e.details context changes,
    ⟨hcause, congrArg Cause.message hcause, congrArg Cause.help hcause,
      congrArg Cause.code hcause⟩,
    details_scanl e changes, Details.trail_eq_scanl e.details changes⟩
  rw [Details.hasNote_iff, hnote]

-- setting the context to `unknown` makes room for offers again
example : (Details.during .accessingValue).applyAll
    [.setContext .buildingList, .setContext .unknown, .offerContext (some .callingFunction),
      .offerContext (some .buildingList)] = Details.during .callingFunction := rfl

end Diagnostic

end RuntimeValues

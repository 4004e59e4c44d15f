import RuntimeValues.Proofs.Session.Attempt
import RuntimeValues.Proofs.Value.Sequence

/-!
# Mismatches of kinds

An operation is rejected on a value exactly if the kind of the value does not support it, and
the error names the operation and the kind. Wherever such an error arises in a session and
whatever is changed about it on its way, the kind that it names is not the one that supports
the operation. Walking a list asks for first members only, so the error of an improper list
never names another operation.
-/

namespace RuntimeValues

set_option autoImplicit false

/-- The error of an outcome, if it is one. -/
def Outcome.error? {α : Type} : Outcome α → Option ValueError
  | .ok _ => none
  | .error e => some e

/-- The error with which the operation is rejected on the value itself. -/
def Operation.rejection (v : Value) : Operation → Option ValueError
  | getNumber => Outcome.error? v.getNumber
  | getBoolean => Outcome.error? v.getBoolean
  | getFirst => Outcome.error? v.getFirst
  | getSecond => Outcome.error? v.getSecond
  | call => Outcome.error? v.asFunction

theorem Operation.rejection_eq_some_iff {v : Value} {op : Operation} {e : ValueError} :
    op.rejection v = some e ↔
      v.kind ≠ op.supportedBy ∧ e = (Fault.typeMismatch op v.kind).error := by
  cases op <;> cases v <;>
    simp [rejection, Outcome.error?, Value.getNumber, Value.getBoolean, Value.getFirst,
      Value.getSecond, Value.asFunction, Value.mismatch, Value.kind, supportedBy, eq_comm]

/-- A call is rejected before anything else happens, and only on a value that is no function. -/
theorem Config.call_rejected_iff {v argument : Value} {frames : List Frame} {s : Store} :
    step ⟨.give (.ok argument), .argument v :: frames, s⟩ =
        .inr ⟨.give (.error (Fault.typeMismatch .call v.kind).error), frames, s⟩ ↔
      v.kind ≠ .function := by
  cases v with
  | function f =>
    refine iff_of_false (fun hstep => ?_) (fun hkind => hkind rfl)
    have hframes : .leave f :: frames = frames := by
      rw [← Body.frames_start argument (.leave f :: frames) (s.enter f) (s.cell f).active]
      exact congrArg Config.frames (Sum.inr.inj hstep)
    exact absurd hframes (List.cons_ne_self _ _)
  | number _ | boolean _ | null | pair _ _ => exact iff_of_true rfl Kind.noConfusion

theorem Fault.message_mismatch_ne {op : Operation} {actual : Kind}
    (h : op.supportedBy ≠ actual) :
    (typeMismatch op actual).message ≠ "cannot get the numeric value of a number" := by
  cases op <;> cases actual <;> first | exact absurd rfl h | decide

theorem Fault.message_rebindDuringCall_ne (n : Nat) :
    (rebindDuringCall n).message ≠ "cannot get the numeric value of a number" := by
  intro h
  -- the messages part at the letter after `cannot`
  have hletter := congrArg (fun text => text.toList[7]?) h
  simp only [message] at hletter
  split at hletter
  · simp [String.toList_append] at hletter
  · simp [String.toList_append] at hletter

/-- The fault is no use of an operation on a kind that supports it. -/
def Fault.Truthful : Fault → Prop
  | typeMismatch op actual => op.supportedBy ≠ actual
  | unboundFunction | alreadyRebound | rebindDuringCall _ | raised _ => True

/-- Only a raised text can say that a number has no numeric value. -/
theorem Fault.Truthful.message_ne {fault : Fault} (h : fault.Truthful)
    (hraised : ∀ text, fault ≠ .raised text) :
    fault.message ≠ "cannot get the numeric value of a number" := by
  cases fault with
  | typeMismatch op actual => exact message_mismatch_ne h
  | rebindDuringCall n => exact message_rebindDuringCall_ne n
  | unboundFunction | alreadyRebound => decide
  | raised text => exact absurd rfl (hraised text)

theorem Fault.Plain.truthful {fault : Fault} (h : fault.Plain) : fault.Truthful := by
  cases fault with
  | typeMismatch op actual => exact h
  | unboundFunction | alreadyRebound | rebindDuringCall _ | raised _ => trivial

theorem Point.Raises.truthful {p : Point} {cause : Fault} (h : p.Raises cause) :
    cause.Truthful := by
  cases p with
  | idle session pending => exact h.elim
  | busy kept request c pending =>
    cases cause with
    | typeMismatch op actual => exact h
    | unboundFunction | alreadyRebound | rebindDuringCall _ | raised _ => trivial

/-- The operator walks its operand as a list. -/
def UnaryOp.walks : UnaryOp → Bool
  | relist | reverse | length => true
  | getNumber | getBoolean | getFirst | getSecond | isNull | isRebound => false

theorem UnaryOp.walk_of_error {op : UnaryOp} {s : Store} {v : Value} {e : ValueError}
    (hwalks : op.walks = true) (h : op.apply s v = .error e) : v.toList = .error e := by
  cases op with
  | relist | reverse | length => exact Outcome.map_eq_error_iff.mp h
  | getNumber | getBoolean | getFirst | getSecond | isNull | isRebound => cases hwalks

/-- The next step walks this value as a list. -/
def Point.Walks (v : Value) (p : Point) : Prop :=
  ∃ kept request op frames s pending, op.walks = true ∧
    p = .busy kept request ⟨.give (.ok v), .unary op :: frames, s⟩ pending

theorem Point.Walks.cause {p : Point} {v : Value} {e : ValueError} (h : p.Walks v)
    (hgives : p.next.Gives (.error e)) : e.cause = .typeMismatch .getFirst v.tail.kind := by
  obtain ⟨kept, request, op, frames, s, pending, hwalks, rfl⟩ := h
  have herror : op.apply s v = .error e := Control.give.inj hgives
  exact Value.cause_of_walk (UnaryOp.walk_of_error hwalks herror)

namespace Session

variable {requests : List Request} {k : Nat}

theorem truthful_of_fails {cause : Fault} (h : (point requests k).Fails cause) :
    cause.Truthful := by
  obtain ⟨i, -, hraises, -⟩ := raises_of_fails h
  exact hraises.truthful

theorem truthful_of_reply {fuel : Nat} {replies : List Reply} {final : Session} {reply : Reply}
    {e : ValueError} (h : initial.askAll fuel requests = some (replies, final))
    (hreply : reply ∈ replies) (herror : reply.answer = .error e) : e.cause.Truthful := by
  rcases fails_of_reply h hreply herror with ⟨k, hfails⟩ | ⟨v, hwalk⟩
  · exact truthful_of_fails hfails
  · exact (Value.plain_walk hwalk).truthful

/-- An operation is rejected on a value exactly if the kind of the value does not support it,
and the error says which operation and which kind. At every point of a session, and in every
reply, an error of this sort names a kind that does not support the operation; where a list
was walked the operation is the one for first members, for as long as the error is on its way.
Nothing but a raised text says that a number has no numeric value. -/
theorem mismatches_are_truthful :
    (∀ (v : Value) op e, Operation.rejection v op = some e ↔
      v.kind ≠ op.supportedBy ∧ e = (Fault.typeMismatch op v.kind).error) ∧
    (∀ (v argument : Value) frames s,
      Config.step ⟨.give (.ok argument), .argument v :: frames, s⟩ =
          .inr ⟨.give (.error (Fault.typeMismatch .call v.kind).error), frames, s⟩ ↔
        v.kind ≠ .function) ∧
    (∀ (v : Value) e, v.toList = .error e →
      e.cause = .typeMismatch .getFirst v.tail.kind ∧ v.tail.kind ≠ .pair ∧ v.tail ≠ .null) ∧
    (∀ requests k op actual, (point requests k).Fails (.typeMismatch op actual) →
      op.supportedBy ≠ actual) ∧
    (∀ requests i v, (point requests i).Walks v →
      (∀ e, (point requests (i + 1)).Gives (.error e) →
        e.cause = .typeMismatch .getFirst v.tail.kind) ∧
      ∀ k > i, ∀ op actual, (∀ m, i < m → m ≤ k →
        (point requests m).Fails (.typeMismatch op actual)) → op = .getFirst) ∧
    (∀ requests k cause, (point requests k).Fails cause → (∀ text, cause ≠ .raised text) →
      cause.message ≠ "cannot get the numeric value of a number") ∧
    ∀ requests fuel replies final, initial.askAll fuel requests = some (replies, final) →
      ∀ reply ∈ replies, ∀ e, reply.answer = .error e →
        (∀ op actual, e.cause = .typeMismatch op actual → op.supportedBy ≠ actual) ∧
        ((∀ text, e.cause ≠ .raised text) →
          e.message ≠ "cannot get the numeric value of a number") := by
  refine ⟨fun v op e => Operation.rejection_eq_some_iff,
    fun v argument frames s => Config.call_rejected_iff, fun v e hwalk => ?_,
    fun requests k op actual => truthful_of_fails, fun requests i v hwalks => ⟨?_, ?_⟩,
    fun requests k cause hfails => (truthful_of_fails hfails).message_ne, ?_⟩
  · obtain ⟨hnull, -⟩ := Value.tail_of_walk hwalk
    exact ⟨Value.cause_of_walk hwalk, v.kind_tail, hnull⟩
  · intro e hgives
    rw [point_succ] at hgives
    exact hwalks.cause hgives
  · intro k hk op actual hsince
    obtain ⟨e, hgives, hcause⟩ := hsince (i + 1) (Nat.lt_succ_self i) hk
    rw [point_succ] at hgives
    rw [hwalks.cause hgives] at hcause
    exact (Fault.typeMismatch.inj hcause).1.symm
  · intro requests fuel replies final h reply hreply e herror
    have htruthful := truthful_of_reply h hreply herror
    refine ⟨fun op actual hcause => ?_, htruthful.message_ne⟩
    rw [hcause] at htruthful
    exact htruthful

/-- Asks an improper list for its length, changes the note of the error and catches it. -/
def improperLength : Request where
  question := .view
  program := .attempt (.amend (.setNote "not a list")
    (.unary .length (.binary .pair .null (.boolean true)))) .null
  keepAs := none

theorem mismatches_are_truthful_improperLength :
    Operation.rejection (.boolean true) .call =
        some (Fault.typeMismatch .call .boolean).error ∧
      (point [improperLength] 9).Walks (.pair .null (.boolean true)) ∧
      (∃ e, (point [improperLength] 10).Gives (.error e) ∧
        e.cause = .typeMismatch .getFirst .boolean) ∧
      (point [improperLength] 11).Fails (.typeMismatch .getFirst .boolean) ∧
      Operation.getFirst.supportedBy ≠ .boolean := by
  obtain ⟨hrejection, -, -, htruthful, hwalk, -⟩ := mismatches_are_truthful
  have hwalks : (point [improperLength] 9).Walks (.pair .null (.boolean true)) :=
    ⟨_, _, .length, _, _, _, rfl, rfl⟩
  have hfails : (point [improperLength] 11).Fails (.typeMismatch .getFirst .boolean) :=
    ⟨_, rfl, rfl⟩
  refine ⟨?_, hwalks, ⟨_, rfl, ?_⟩, hfails, htruthful _ 11 _ _ hfails⟩
  · exact (hrejection (.boolean true) .call _).mpr ⟨Kind.noConfusion, rfl⟩
  · exact (hwalk _ 9 _ hwalks).1 _ rfl

end Session

end RuntimeValues

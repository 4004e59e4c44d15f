import RuntimeValues.Proofs.Event.Basic

/-!
# Where errors arise

An error that a step hands on was either handed to it, perhaps with other details, or it
arises in that step. `Config.Raises` says which faults can arise in a step, one cause at a
time, and `raises_of_error` says that these are all.
-/

namespace RuntimeValues

set_option autoImplicit false

/-- The faults that need no look at a function: a mismatch that is one, and raised texts. -/
def Fault.Plain : Fault → Prop
  | typeMismatch operation actual => operation.supportedBy ≠ actual
  | raised _ => True
  | unboundFunction | alreadyRebound | rebindDuringCall _ => False

/-- The faults that can arise in the next step. -/
def Config.Raises (c : Config) : Fault → Prop
  | .typeMismatch operation actual => operation.supportedBy ≠ actual
  | .unboundFunction => ∃ f v frames s,
      c = ⟨.give (.ok v), .argument (.function f) :: frames, s⟩ ∧ (s.cell f).active = .unbound
  | .alreadyRebound => ∃ f body, .refused f body .alreadyRebound ∈ c.events
  | .rebindDuringCall n => ∃ f body, .refused f body (.callsInFlight n) ∈ c.events
  | .raised _ => True

theorem Fault.Plain.raises {fault : Fault} (h : fault.Plain) (c : Config) : c.Raises fault := by
  cases fault with
  | typeMismatch _ _ => exact h
  | raised _ => trivial
  | unboundFunction | alreadyRebound | rebindDuringCall _ => exact h.elim

namespace Value

theorem plain_getNumber {v : Value} {e : ValueError} (h : v.getNumber = .error e) :
    e.cause.Plain := by
  cases v <;> cases h <;> exact Kind.noConfusion

theorem plain_getBoolean {v : Value} {e : ValueError} (h : v.getBoolean = .error e) :
    e.cause.Plain := by
  cases v <;> cases h <;> exact Kind.noConfusion

theorem plain_getFirst {v : Value} {e : ValueError} (h : v.getFirst = .error e) :
    e.cause.Plain := by
  cases v <;> cases h <;> exact Kind.noConfusion

theorem plain_getSecond {v : Value} {e : ValueError} (h : v.getSecond = .error e) :
    e.cause.Plain := by
  cases v <;> cases h <;> exact Kind.noConfusion

theorem plain_asFunction {v : Value} {e : ValueError} (h : v.asFunction = .error e) :
    e.cause.Plain := by
  cases v <;> cases h <;> exact Kind.noConfusion

theorem plain_walk {v : Value} {passed : List Value} {e : ValueError}
    (h : walk passed v = .error e) : e.cause.Plain := by
  induction v generalizing passed with
  | pair first second _ ih => exact ih h
  | null => cases h
  | number _ | boolean _ | function _ =>
    cases h
    exact Kind.noConfusion

theorem plain_identical {v w : Value} {e : ValueError} (h : v.identical w = .error e) :
    e.cause.Plain := by
  cases v <;> cases w <;> cases h <;> trivial

end Value

theorem UnaryOp.plain_apply {op : UnaryOp} {s : Store} {v : Value} {e : ValueError}
    (h : op.apply s v = .error e) : e.cause.Plain := by
  cases op with
  | getNumber => exact Value.plain_getNumber (Outcome.map_eq_error_iff.mp h)
  | getBoolean => exact Value.plain_getBoolean (Outcome.map_eq_error_iff.mp h)
  | getFirst => exact Value.plain_getFirst h
  | getSecond => exact Value.plain_getSecond h
  | isNull => cases h
  | isRebound => exact Value.plain_asFunction (Outcome.map_eq_error_iff.mp h)
  | relist | reverse | length => exact Value.plain_walk (Outcome.map_eq_error_iff.mp h)

theorem BinaryOp.plain_onNumbers {left right : Value} {f : Int → Int → Outcome Value}
    {e : ValueError} (hf : ∀ m n, f m n = .error e → e.cause.Plain)
    (h : onNumbers left right f = .error e) : e.cause.Plain := by
  simp only [onNumbers] at h
  split at h
  next e' hleft =>
    cases h
    exact Value.plain_getNumber hleft
  next =>
    split at h
    next e' hright =>
      cases h
      exact Value.plain_getNumber hright
    next => exact hf _ _ h

theorem BinaryOp.plain_checked {n : Int} {e : ValueError} (h : checked n = .error e) :
    e.cause.Plain := by
  simp only [checked] at h
  split at h <;> cases h
  trivial

theorem BinaryOp.plain_apply {op : BinaryOp} {left right : Value} {e : ValueError}
    (h : op.apply left right = .error e) : e.cause.Plain := by
  cases op with
  | pair => cases h
  | add | subtract | multiply =>
    simp only [apply] at h
    exact plain_onNumbers (fun m n => plain_checked) h
  | equal | less =>
    simp only [apply] at h
    exact plain_onNumbers (fun m n hf => by cases hf) h
  | same => exact Value.plain_identical (Outcome.map_eq_error_iff.mp h)

/-- Binding fails because it is refused, or because there is no function to bind. -/
theorem Slot.error_bind {slot : Slot} {body : Body} {s : Store} {e : ValueError}
    (h : (slot.bind body s).1 = .error e) :
    (∃ f reason, .refused f body reason ∈ slot.attempt body s ∧ e = reason.error) ∨
      e.cause.Plain := by
  obtain ⟨v⟩ := slot
  cases v with
  | function f =>
    cases hrebind : (s.cell f).rebind body with
    | ok after =>
      rw [bind_of_ok hrebind] at h
      cases h
    | error reason =>
      rw [bind_of_refused hrebind] at h
      cases h
      exact .inl ⟨f, reason, by simp [attempt, Store.attempt, hrebind], rfl⟩
  | number _ | boolean _ | null | pair _ _ =>
    cases h
    exact .inr Kind.noConfusion

namespace Config

variable {c next : Config} {e : ValueError}

theorem raises_of_refused {f : FunctionId} {body : Body} {reason : Refusal}
    (h : .refused f body reason ∈ c.events) : c.Raises reason.error.cause := by
  cases reason with
  | callsInFlight n => exact ⟨f, body, h⟩
  | alreadyRebound => exact ⟨f, body, h⟩

theorem raises_of_bind {slot : Slot} {body : Body} {s : Store}
    (hevents : ∀ event ∈ slot.attempt body s, event ∈ c.events)
    (h : (slot.bind body s).1 = .error e) : c.Raises e.cause := by
  rcases Slot.error_bind h with ⟨f, reason, hmem, rfl⟩ | hplain
  · exact raises_of_refused (hevents _ hmem)
  · exact hplain.raises c

end Config

theorem Expr.raises_start {env : Env} {frames : List Frame} {s : Store} {program : Expr}
    {e : ValueError} (h : (program.start env frames s).control = .give (.error e)) :
    Config.Raises ⟨.eval env program, frames, s⟩ e.cause := by
  cases program with
  | bind name param body =>
    cases hslot : s.slot? name with
    | some slot =>
      simp only [start, hslot, Control.give.injEq] at h
      refine Config.raises_of_bind (fun event hevent => ?_) (Outcome.map_eq_error_iff.mp h)
      simp only [Config.events, events, hslot]
      exact List.mem_cons_of_mem _ hevent
    | none =>
      simp only [start, hslot] at h
      cases h
      trivial
  | recursive self param body =>
    simp only [start, Store.makeRecursive_eq] at h
    cases h
  | var name =>
    simp only [start] at h
    split at h <;> cases h
    trivial
  | prelude name =>
    simp only [start] at h
    split at h <;> cases h
    trivial
  | slotFunction name =>
    simp only [start] at h
    split at h <;> cases h
    trivial
  | raise _ =>
    cases h
    trivial
  | _ => cases h

theorem Builtin.plain_named {b : Builtin} {outcome : Outcome Value} {e : ValueError}
    (houtcome : ∀ e', outcome = .error e' → e'.cause.Plain) (h : b.named outcome = .error e) :
    e.cause.Plain := by
  cases outcome with
  | ok v => cases h
  | error e' =>
    cases h
    exact houtcome e' rfl

/-- A body starts with an error if it is missing or if it is a look into what is no pair. -/
theorem Body.unbound_or_plain {argument : Value} {frames : List Frame} {s : Store} {body : Body}
    {e : ValueError} (h : (body.start argument frames s).control = .give (.error e)) :
    (body = .unbound ∧ e = Fault.unboundFunction.error) ∨ e.cause.Plain := by
  rcases body with _ | _ | (_ | _ | _ | _) | _
  case unbound =>
    cases h
    exact .inl ⟨rfl, rfl⟩
  case builtin.first =>
    have hnamed : Builtin.first.named argument.getFirst = .error e := Control.give.inj h
    exact .inr (Builtin.plain_named (fun _ => Value.plain_getFirst) hnamed)
  case builtin.second =>
    have hnamed : Builtin.second.named argument.getSecond = .error e := Control.give.inj h
    exact .inr (Builtin.plain_named (fun _ => Value.plain_getSecond) hnamed)
  all_goals cases h

theorem Frame.raises_resume {v : Value} {frames : List Frame} {s : Store} {frame : Frame}
    {e : ValueError} (h : (frame.resume v frames s).control = .give (.error e)) :
    Config.Raises ⟨.give (.ok v), frame :: frames, s⟩ e.cause := by
  cases frame with
  | unary op => exact (UnaryOp.plain_apply (Control.give.inj h)).raises _
  | binaryRight op left => exact (BinaryOp.plain_apply (Control.give.inj h)).raises _
  | argument function =>
    cases function with
    | function f =>
      rcases Body.unbound_or_plain h with ⟨hactive, rfl⟩ | hplain
      · exact ⟨f, v, frames, s, rfl, hactive⟩
      · exact hplain.raises _
    | number _ | boolean _ | null | pair _ _ =>
      cases h
      exact Kind.noConfusion
  | rebind body =>
    have hbind := Outcome.map_eq_error_iff.mp (Control.give.inj h)
    exact Config.raises_of_bind (fun event hevent => hevent) hbind
  | iterate count _ _ _ => cases count <;> cases h
  | ifThenElse _ _ _ =>
    simp only [resume] at h
    split at h
    · cases h
    · cases h
    next e' hcondition =>
      cases h
      exact (Value.plain_getBoolean hcondition).raises _
  | _ => cases h

/-- An error that is handed on was handed over or arises in the step. -/
theorem Config.raises_of_error {c next : Config} {e : ValueError} (hstep : c.step = .inr next)
    (h : next.control = .give (.error e)) :
    (∃ before, c.control = .give (.error before) ∧ before.cause = e.cause) ∨
      c.Raises e.cause := by
  obtain ⟨control, frames, s⟩ := c
  rcases control with ⟨env, program⟩ | before | v
  · cases hstep
    exact .inr (Expr.raises_start h)
  · rcases frames with _ | ⟨frame, frames⟩
    · cases hstep
    · cases hstep
      cases frame with
      | restate =>
        cases h
        exact .inr trivial
      | attempt _ _ => cases h
      | _ =>
        cases h
        exact .inl ⟨_, rfl, rfl⟩
  · rcases frames with _ | ⟨frame, frames⟩
    · cases hstep
    · cases hstep
      exact .inr (Frame.raises_resume h)

end RuntimeValues

import RuntimeValues.Proofs.Event.Attempt
import RuntimeValues.Proofs.Scope.Step
import RuntimeValues.Proofs.Evaluation
import RuntimeValues.Proofs.Twin.Basic

/-!
# Twins cannot be told apart

A program that neither asks whether a function is rebound nor rebinds a function runs in step
in twin stores: each step takes both evaluations to the same control and the same frames, by
the same events. So both end together, with the same outcome and the same notices, and they
end in twin stores.
-/

namespace RuntimeValues

set_option autoImplicit false

/-- Programs that never ask whether a function is rebound and never rebind one. -/
def Scope.blind : Scope where
  functions _ := True
  forms form :=
    (∀ operand, form ≠ .unary .isRebound operand) ∧
      ∀ target param body, form ≠ .rebind target param body

/-- The configuration without its store. -/
def Config.code (c : Config) : Control × List Frame := (c.control, c.frames)

/-- The configurations do the same next, in twin stores. -/
structure Config.Twins (f : FunctionId) (g : Body) (c d : Config) : Prop where
  code : c.code = d.code
  store : c.store.Twins f g d.store

variable {f : FunctionId} {g : Body} {s t : Store}

theorem Slot.attempt_twins (h : s.Twins f g t) {slot : Slot} (hslot : slot.function ≠ .function f)
    (body : Body) :
    slot.attempt body s = slot.attempt body t ∧ ∀ e ∈ slot.attempt body s, e.Spares f := by
  obtain ⟨v⟩ := slot
  cases v with
  | function k =>
    have hk : k ≠ f := fun hk => hslot (congrArg Value.function hk)
    refine ⟨?_, fun e he => ?_⟩
    · simp only [attempt, Store.attempt, h.cells k hk]
    · obtain rfl := List.mem_singleton.mp he
      simp only [Store.attempt]
      split
      · exact hk
      · trivial
  | number _ | boolean _ | null | pair _ _ => exact ⟨rfl, by simp [attempt]⟩

theorem Expr.events_twins (h : s.Twins f g t) (env : Env) (program : Expr) :
    program.events env s = program.events env t ∧ ∀ e ∈ program.events env s, e.Spares f := by
  have hnew : s.cells.size ≠ f := Nat.ne_of_gt h.lt_size
  cases program with
  | lambda _ _ | declare _ =>
    simp only [events, ← h.size, List.forall_mem_singleton]
    exact ⟨trivial, hnew⟩
  | recursive self param body =>
    simp only [events, ← h.size, List.forall_mem_cons]
    exact ⟨trivial, hnew, hnew, by simp⟩
  | bind name param body =>
    simp only [events, ← h.slot? name]
    split
    next slot hslot =>
      obtain ⟨heq, hspares⟩ := Slot.attempt_twins (h.eraseSlot name) (h.function_ne hslot)
        (.closure env param body)
      rw [heq] at hspares ⊢
      exact ⟨rfl, List.forall_mem_cons.mpr ⟨trivial, hspares⟩⟩
    next => simp
  | builtin _ | prelude _ =>
    refine ⟨?_, fun e he => ?_⟩
    · simp only [events, Store.preludeEvents, h.preludeBuilt]
    · obtain ⟨rfl, -⟩ := Store.mem_preludeEvents.mp he
      trivial
  | _ => simp [events]

theorem Body.events_twins (h : s.Twins f g t) (argument : Value) (body : Body) :
    body.events argument s = body.events argument t ∧
      ∀ e ∈ body.events argument s, e.Spares f := by
  have hnew : s.cells.size ≠ f := Nat.ne_of_gt h.lt_size
  rcases body with _ | _ | (_ | _ | _ | _) | _
  case builtin.pair =>
    simp only [events, ← h.size, List.forall_mem_singleton]
    exact ⟨trivial, hnew⟩
  all_goals simp [events]

theorem Frame.events_twins (h : s.Twins f g t) (v : Value) {frame : Frame}
    (hframe : frame.Within .blind) :
    frame.events v s = frame.events v t ∧ ∀ e ∈ frame.events v s, e.Spares f := by
  cases frame with
  | argument function =>
    cases function with
    | function k =>
      obtain ⟨heq, hspares⟩ := Body.events_twins h v (s.cell k).active
      simp only [events, ← h.active k, heq]
      rw [heq] at hspares
      exact ⟨trivial, List.forall_mem_cons.mpr ⟨trivial, hspares⟩⟩
    | _ => simp [events]
  | leave k => exact ⟨rfl, List.forall_mem_singleton.mpr trivial⟩
  | rebind body =>
    obtain ⟨-, target, param, program, -, hform⟩ := hframe
    exact absurd rfl (hform target param program)
  | _ => simp [events]

theorem Config.Twins.events {c d : Config} (h : Twins f g c d) (hc : c.Within .blind) :
    c.events = d.events ∧ ∀ e ∈ c.events, e.Spares f := by
  obtain ⟨control, frames, s⟩ := c
  obtain ⟨_, _, t⟩ := d
  obtain ⟨hcode, hstore⟩ := h
  obtain ⟨rfl, rfl⟩ := Prod.mk.inj hcode
  rcases control with ⟨env, program⟩ | e | v
  · exact Expr.events_twins hstore env program
  · rcases frames with _ | ⟨frame, frames⟩
    · exact ⟨rfl, by simp [Config.events]⟩
    · cases frame <;> exact ⟨rfl, by simp [Config.events, Event.Spares]⟩
  · rcases frames with _ | ⟨frame, frames⟩
    · exact ⟨rfl, by simp [Config.events]⟩
    · exact Frame.events_twins hstore v (hc.frames frame List.mem_cons_self)

theorem Slot.outcome_twins (h : s.Twins f g t) {slot : Slot} (hslot : slot.function ≠ .function f)
    (body : Body) :
    ((slot.bind body s).1.map fun _ => Value.null) =
      (slot.bind body t).1.map fun _ => Value.null := by
  obtain ⟨v⟩ := slot
  cases v with
  | function k =>
    have hk : k ≠ f := fun hk => hslot (congrArg Value.function hk)
    rw [outcome_bind, outcome_bind, h.cells k hk]
  | number _ | boolean _ | null | pair _ _ => rfl

theorem Expr.code_start (h : s.Twins f g t) (env : Env) (frames : List Frame) (program : Expr) :
    (program.start env frames s).code = (program.start env frames t).code := by
  cases program with
  | lambda _ _ | declare _ => simp only [start, Store.allocate, Store.declare, h.size, Config.code]
  | recursive self param body =>
    simp only [start, Store.makeRecursive_eq, h.size, Config.code]
  | slotFunction name =>
    simp only [start, h.slot? name]
    split <;> rfl
  | bind name param body =>
    simp only [start, ← h.slot? name]
    split
    next slot hslot =>
      have houtcome := Slot.outcome_twins (h.eraseSlot name) (h.function_ne hslot)
        (.closure env param body)
      simp only [Config.code, houtcome]
    next => rfl
  | var name =>
    simp only [start]
    split <;> rfl
  | prelude name =>
    simp only [start]
    split <;> rfl
  | _ => rfl

theorem Body.code_start (h : s.Twins f g t) (argument : Value) (frames : List Frame)
    (body : Body) : (body.start argument frames s).code = (body.start argument frames t).code := by
  rcases body with _ | _ | (_ | _ | _ | _) | _
  case builtin.pair => simp only [start, Store.allocate, h.size, Config.code]
  all_goals rfl

/-- Whether a function is rebound is the only question that twin stores answer differently. -/
theorem UnaryOp.apply_twins {op : UnaryOp} (hop : op ≠ .isRebound) (s t : Store) (v : Value) :
    op.apply s v = op.apply t v := by
  cases op with
  | isRebound => exact absurd rfl hop
  | _ => rfl

theorem Frame.code_resume (h : s.Twins f g t) (v : Value) (frames : List Frame) {frame : Frame}
    (hframe : frame.Within .blind) :
    (frame.resume v frames s).code = (frame.resume v frames t).code := by
  cases frame with
  | unary op =>
    obtain ⟨operand, hasks, -⟩ := hframe
    have hop : op ≠ .isRebound := by
      rintro rfl
      exact hasks operand rfl
    simp only [resume, Config.code, UnaryOp.apply_twins hop s t]
  | argument function =>
    cases function with
    | function k =>
      have henter : (s.enter k).Twins f g (t.enter k) := h.apply (e := .called k) trivial
      simp only [resume, Value.asFunction, Store.call, h.active k]
      exact Body.code_start henter v _ _
    | _ => rfl
  | rebind body =>
    obtain ⟨-, target, param, program, -, hform⟩ := hframe
    exact absurd rfl (hform target param program)
  | iterate count _ _ _ => cases count <;> rfl
  | ifThenElse _ _ _ =>
    simp only [resume]
    split <;> rfl
  | _ => rfl

theorem Frame.code_unwind (e : ValueError) (frames : List Frame) (s t : Store) (frame : Frame) :
    (frame.unwind e frames s).code = (frame.unwind e frames t).code := by
  cases frame <;> rfl

namespace Config.Twins

variable {c c' d : Config}

/-- A step in one store is the same step in the other. -/
theorem step (h : Twins f g c d) (hc : c.Within .blind) (hstep : c.step = .inr c') :
    ∃ d', d.step = .inr d' ∧ Twins f g c' d' := by
  have hcode : ∃ d', d.step = .inr d' ∧ c'.code = d'.code := by
    obtain ⟨control, frames, s⟩ := c
    obtain ⟨_, _, t⟩ := d
    obtain ⟨hcode, hstore⟩ := h
    obtain ⟨rfl, rfl⟩ := Prod.mk.inj hcode
    rcases control with ⟨env, program⟩ | e | v
    · cases hstep
      exact ⟨_, rfl, Expr.code_start hstore env frames program⟩
    · rcases frames with _ | ⟨frame, frames⟩
      · cases hstep
      · cases hstep
        exact ⟨_, rfl, Frame.code_unwind e frames s t frame⟩
    · rcases frames with _ | ⟨frame, frames⟩
      · cases hstep
      · cases hstep
        exact ⟨_, rfl, Frame.code_resume hstore v frames (hc.frames frame List.mem_cons_self)⟩
  obtain ⟨d', hd, hcode⟩ := hcode
  obtain ⟨hevents, hspares⟩ := h.events hc
  refine ⟨d', hd, hcode, ?_⟩
  rw [store_step hstep, store_step hd, ← hevents]
  exact h.store.after hspares

theorem done (h : Twins f g c d) {outcome : Outcome Value} {s : Store}
    (hdone : c.step = .inl (outcome, s)) : d.step = .inl (outcome, d.store) := by
  obtain rfl := Config.eq_of_done hdone
  obtain ⟨control, frames, t⟩ := d
  obtain ⟨hcontrol, hframes⟩ := Prod.mk.inj h.code
  cases hcontrol
  cases hframes
  cases outcome <;> rfl

end Config.Twins

/-- Two evaluations have ended with the same outcome and have written the same notices since
these stores. The stores that they leave are twins. -/
def EndsAlike (f : FunctionId) (g : Body) (s t : Store) (first second : Outcome Value × Store) :
    Prop :=
  first.1 = second.1 ∧ first.2.Twins f g second.2 ∧
    ∃ notices : Array Notice, first.2.log = s.log ++ notices ∧ second.2.log = t.log ++ notices

/-- Notices written before count too. -/
theorem EndsAlike.of_after {history : List Event} {first second : Outcome Value × Store}
    (h : EndsAlike f g (s.after history) (t.after history) first second) :
    EndsAlike f g s t first second := by
  obtain ⟨houtcome, hstore, notices, hfirst, hsecond⟩ := h
  refine ⟨houtcome, hstore, (history.filterMap Event.notice).toArray ++ notices, ?_, ?_⟩
  · rw [hfirst, Store.log_after, Array.append_assoc]
  · rw [hsecond, Store.log_after, Array.append_assoc]

theorem Config.Twins.run {c d : Config} (h : Twins f g c d) (hc : c.Within .blind) (fuel : Nat) :
    Option.Rel (EndsAlike f g c.store d.store) (c.run fuel) (d.run fuel) := by
  induction fuel generalizing c d with
  | zero => exact .none
  | succ fuel ih =>
    cases hstep : c.step with
    | inl result =>
      obtain ⟨outcome, s⟩ := result
      have hs : c.store = s := by rw [eq_of_done hstep]
      simp only [Config.run, hstep, h.done hstep]
      exact .some ⟨rfl, hs ▸ h.store, #[], by rw [hs]; simp, by simp⟩
    | inr c' =>
      obtain ⟨d', hd, h'⟩ := h.step hc hstep
      have hc' := within_step hc (fun _ => trivial) (fun _ _ _ _ => trivial) hstep
      obtain ⟨hevents, -⟩ := h.events hc
      have hrun := ih h' hc'
      rw [store_step hstep, store_step hd, ← hevents] at hrun
      simp only [Config.run, hstep, hd]
      generalize c'.run fuel = first at hrun ⊢
      generalize d'.run fuel = second at hrun ⊢
      cases hrun with
      | none => exact .none
      | some hends => exact .some hends.of_after

theorem Value.within_blind (v : Value) : v.Within .blind := by
  induction v with
  | pair first second hfirst hsecond => exact ⟨hfirst, hsecond⟩
  | number _ | boolean _ | null | function _ => trivial

theorem Config.within_begin_blind (env : Env) {program : Expr} (hprogram : program.Within .blind)
    (hbodies : ∀ k, (s.cell k).Within .blind) : (Config.begin env program s).Within .blind := by
  refine ⟨⟨fun entry _ => entry.2.within_blind, hprogram⟩, by simp [Config.begin], hbodies, ?_⟩
  exact fun entry _ => entry.2.function.within_blind

/-- A function that was declared and then bound cannot be told apart from one that was made
with the same body. Programs that do not ask whether a function is rebound, and do not rebind
functions, end alike in both stores after any number of steps, or in neither. -/
theorem bound_indistinguishable (h : s.Twins f g t) (hbodies : ∀ k, (s.cell k).Within .blind)
    (env : Env) (program : Expr) (hprogram : program.Within .blind) (fuel : Nat) :
    Option.Rel (EndsAlike f g s t) ((Config.begin env program s).run fuel)
      ((Config.begin env program t).run fuel) := by
  have htwins : Config.Twins f g (.begin env program s) (.begin env program t) := ⟨rfl, h⟩
  exact htwins.run (Config.within_begin_blind env hprogram hbodies) fuel

/-- Calls itself, which is the first function after the built-in ones, until it gets null. -/
def selfCaller : Body :=
  .closure [("f", .function 4)] "x"
    (.ifThenElse (.unary .isNull (.var "x")) (.number 7) (.call (.var "f") .null))

/-- Declares another function, binds it to a call of the first one and calls it. -/
def lateBinding : Expr :=
  .letIn "h" (.declare "s")
    (.andThen (.bind "s" "y" (.call (.var "f") (.var "y"))) (.call (.var "h") (.boolean true)))

theorem bound_indistinguishable_lateBinding :
    Option.Rel (EndsAlike 4 selfCaller (.declareBound .initial selfCaller)
        (Store.initial.allocate selfCaller).2)
      ((Config.begin [("f", .function 4)] lateBinding (.declareBound .initial selfCaller)).run 36)
      ((Config.begin [("f", .function 4)] lateBinding (Store.initial.allocate selfCaller).2).run
        36) ∧
    ((Config.begin [("f", .function 4)] lateBinding (.declareBound .initial selfCaller)).run
      36).map Prod.fst = some (.ok (.number 7)) := by
  have htwins := Store.Twins.of_declareBound (s := .initial) (by simp [Store.initial]) selfCaller
  have hself : selfCaller.Within .blind :=
    ⟨fun entry _ => entry.2.within_blind, by simp [Expr.Within, Scope.blind]⟩
  have hbodies : (Store.declareBound .initial selfCaller).Within .blind := by
    rw [Store.declareBound, Slot.store_bind]
    refine Store.within_after ?_ (Slot.within_attempt hself)
    exact Store.within_allocate (Store.within_initial _) trivial
  have hprogram : lateBinding.Within .blind := by simp [lateBinding, Expr.Within, Scope.blind]
  exact ⟨bound_indistinguishable htwins hbodies.cells _ lateBinding hprogram 36, rfl⟩

end RuntimeValues

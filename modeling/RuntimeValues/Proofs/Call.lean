import RuntimeValues.Proofs.Evaluation

/-!
# Calls

A call on its own: a value is called with an argument in a store, and nothing waits for the
outcome. The rules here say what an evaluation comes to once its subprograms have ended, and what
a call comes to once the body of its function has. A counter that was raised by a call is back
when the call has ended, so a call whose body changes nothing leaves the store as it was, and one
whose body only makes functions leaves a store that extends it.
-/

namespace RuntimeValues

set_option autoImplicit false

/-- The value is about to be called with the argument, with nothing to be done after it. -/
def Config.beginCall (function argument : Value) (s : Store) : Config :=
  ⟨.give (.ok argument), [.argument function], s⟩

namespace Store

variable {s : Store} {f : FunctionId}

/-- There is nothing to run where there is no function. -/
theorem lt_size_of_active {body : Body} (h : (s.cell f).active = body) (hbody : body ≠ .unbound) :
    f < s.cells.size := by
  refine Nat.lt_of_not_le fun hf => hbody (h.symm.trans ?_)
  rw [cell_of_size_le s f hf]
  rfl

/-- Making a function and ending a call may change places. -/
theorem leave_allocate_enter (s : Store) (body : Body) (hf : f < s.cells.size) :
    ((s.enter f).allocate body).2.leave f = (s.allocate body).2 := by
  obtain ⟨cells, slots, log, built⟩ := s
  simp only [enter, leave, allocate, modify, mk.injEq, and_true]
  apply Array.ext_getElem?
  intro i
  simp only [Array.getElem?_modify, Array.getElem?_push, Array.size_modify]
  by_cases hi : f = i
  · subst hi
    have hne : f ≠ cells.size := Nat.ne_of_lt hf
    simp only [if_pos, if_neg hne]
    cases cells[f]? <;> simp
  · simp [hi]

end Store

namespace Config

variable {env : Env} {s t u : Store} {f : FunctionId} {v w function : Value}
  {e : ValueError} {result : Outcome Value × Store}

theorem ends_of_start {program : Expr} {outcome : Outcome Value}
    (h : program.start env [] s = ⟨.give outcome, [], t⟩) :
    Ends (.begin env program s) (outcome, t) := by
  have hstep : step (.begin env program s) = .inr ⟨.give outcome, [], t⟩ := congrArg Sum.inr h
  exact (ends_iff_of_step hstep).mpr ((ends_give _ _).mpr rfl)

theorem ends_var {name : String} (h : env.lookup name = some v) :
    Ends (.begin env (.var name) s) (.ok v, s) := by
  refine ends_of_start ?_
  simp only [Expr.start, h]

/-- A name stands for what it was bound to last. -/
theorem ends_var_last (name : String) (v : Value) (env : Env) (s : Store) :
    Ends (.begin ((name, v) :: env) (.var name) s) (.ok v, s) := ends_var List.lookup_cons_self

theorem ends_number (n : Int64) (env : Env) (s : Store) :
    Ends (.begin env (.number n) s) (.ok (.number n), s) := ends_of_start rfl

theorem ends_prelude {name : String} (h : Prelude.lookup name = some v) :
    Ends (.begin env (.prelude name) s) (.ok v, s.usePrelude) := by
  refine ends_of_start ?_
  simp only [Expr.start, h]

theorem Ends.letIn {bound : Expr} (h : Ends (.begin env bound s) (.ok v, t)) (name : String)
    (body : Expr) : Ends (.begin env (.letIn name bound body) s) result ↔
      Ends (.begin ((name, v) :: env) body t) result :=
  (ends_iff_of_step rfl).trans (h.inside_iff.trans (ends_iff_of_step rfl))

theorem Ends.andThen {first : Expr} (h : Ends (.begin env first s) (.ok v, t)) (second : Expr) :
    Ends (.begin env (.andThen first second) s) result ↔ Ends (.begin env second t) result :=
  (ends_iff_of_step rfl).trans (h.inside_iff.trans (ends_iff_of_step rfl))

theorem Ends.ifThenElse {condition : Expr} {b : Bool}
    (h : Ends (.begin env condition s) (.ok (.boolean b), t)) (yes no : Expr) :
    Ends (.begin env (.ifThenElse condition yes no) s) result ↔
      Ends (.begin env (if b then yes else no) t) result := by
  refine (ends_iff_of_step rfl).trans (h.inside_iff.trans (ends_iff_of_step ?_))
  cases b <;> rfl

/-- An error on the left is the outcome. -/
theorem Ends.binary_left {left : Expr} (h : Ends (.begin env left s) (.error e, t))
    (op : BinaryOp) (right : Expr) :
    Ends (.begin env (.binary op left right) s) (.error e, t) := by
  refine (ends_iff_of_step rfl).mpr (h.inside_iff.mpr ?_)
  exact (ends_iff_of_step rfl).mpr ((ends_give _ _).mpr rfl)

/-- An error on the right is the outcome, if there is none on the left. -/
theorem Ends.binary_right {left right : Expr} (hleft : Ends (.begin env left s) (.ok v, t))
    (hright : Ends (.begin env right t) (.error e, u)) (op : BinaryOp) :
    Ends (.begin env (.binary op left right) s) (.error e, u) := by
  refine (ends_iff_of_step rfl).mpr (hleft.inside_iff.mpr ?_)
  refine (ends_iff_of_step rfl).mpr (hright.inside_iff.mpr ?_)
  exact (ends_iff_of_step rfl).mpr ((ends_give _ _).mpr rfl)

theorem Ends.call {callee argument : Expr} (hcallee : Ends (.begin env callee s) (.ok function, t))
    (hargument : Ends (.begin env argument t) (.ok v, u)) :
    Ends (.begin env (.call callee argument) s) result ↔
      Ends (.beginCall function v u) result :=
  (ends_iff_of_step rfl).trans (hcallee.inside_iff.trans
    ((ends_iff_of_step rfl).trans hargument.inside_iff))

/-- The body of a closure is evaluated with the very argument under its parameter, and the call
gives what the body gives. -/
theorem ends_call_closure {param : String} {program : Expr} {outcome : Outcome Value}
    (hactive : (s.cell f).active = .closure env param program) :
    Ends ⟨.give (.ok v), [.argument (.function f)], s⟩ (outcome, t) ↔
      ∃ u, Ends (.begin ((param, v) :: env) program (s.enter f)) (outcome, u) ∧ t = u.leave f := by
  rw [ends_call, hactive]
  rfl

/-- A call whose body gives an outcome at once leaves the store as it was. -/
theorem ends_call_of_gives {outcome : Outcome Value}
    (h : (s.cell f).active.start v [] (s.enter f) = ⟨.give outcome, [], s.enter f⟩) :
    Ends ⟨.give (.ok v), [.argument (.function f)], s⟩ (outcome, s) := by
  refine ends_call.mpr ⟨s.enter f, ?_, (Store.leave_enter s f).symm⟩
  rw [h]
  exact (ends_give _ _).mpr rfl

/-- A call leaves the store as it was if the evaluation of the body does. -/
theorem ends_call_of_unchanged {param : String} {program : Expr} {outcome : Outcome Value}
    (hactive : (s.cell f).active = .closure env param program)
    (h : Ends (.begin ((param, v) :: env) program (s.enter f)) (outcome, s.enter f)) :
    Ends (.beginCall (.function f) v s) (outcome, s) :=
  (ends_call_closure hactive).mpr ⟨s.enter f, h, (Store.leave_enter s f).symm⟩

/-- A call whose body is a function again makes that function and leaves the rest as it was. -/
theorem ends_call_curried {param next : String} {program : Expr}
    (hactive : (s.cell f).active = .closure env param (.lambda next program)) :
    Ends (.beginCall (.function f) v s) (.ok (.function s.cells.size),
      (s.allocate (.closure ((param, v) :: env) next program)).2) := by
  have hf : f < s.cells.size := Store.lt_size_of_active hactive Body.noConfusion
  refine (ends_call_closure hactive).mpr ⟨_, ?_, (Store.leave_allocate_enter s _ hf).symm⟩
  rw [← Store.size_enter s f]
  exact ends_of_start rfl

/-- A call of a function that has no body yet fails and leaves the store as it was. -/
theorem ends_call_unbound (hactive : (s.cell f).active = .unbound) :
    Ends (.beginCall (.function f) v s) (.error Fault.unboundFunction.error, s) := by
  refine ends_call_of_gives ?_
  rw [hactive]
  rfl

/-- A partial application makes a pair of what it keeps and the argument. -/
theorem ends_call_pairWith (hactive : (s.cell f).active = .pairWith v) :
    Ends (.beginCall (.function f) w s) (.ok (.pair v w), s) := by
  refine ends_call_of_gives ?_
  rw [hactive]
  rfl

theorem ends_call_pair (hactive : (s.cell f).active = .builtin .pair) :
    Ends (.beginCall (.function f) v s)
      (.ok (.function s.cells.size), (s.allocate (.pairWith v)).2) := by
  have hf : f < s.cells.size := Store.lt_size_of_active hactive Body.noConfusion
  refine ends_call.mpr ⟨((s.enter f).allocate (.pairWith v)).2, ?_,
    (Store.leave_allocate_enter s _ hf).symm⟩
  rw [hactive, ← Store.size_enter s f]
  exact (ends_give _ _).mpr rfl

theorem ends_call_first (hactive : (s.cell f).active = .builtin .first) :
    Ends (.beginCall (.function f) v s) (Builtin.first.named v.getFirst, s) := by
  refine ends_call_of_gives ?_
  rw [hactive]
  rfl

theorem ends_call_second (hactive : (s.cell f).active = .builtin .second) :
    Ends (.beginCall (.function f) v s) (Builtin.second.named v.getSecond, s) := by
  refine ends_call_of_gives ?_
  rw [hactive]
  rfl

theorem ends_call_isNull (hactive : (s.cell f).active = .builtin .isNull) :
    Ends (.beginCall (.function f) v s) (.ok (.boolean v.isNull), s) := by
  refine ends_call_of_gives ?_
  rw [hactive]
  rfl

end Config

namespace Store

variable {s t u : Store} {f : FunctionId}

/-- What the call runs does not hang on the counters. -/
@[simp] theorem active_enter (s : Store) (f g : FunctionId) :
    ((s.enter g).cell f).active = (s.cell f).active := by
  by_cases hg : g < s.cells.size
  · rw [enter, cell_modify s g f _ hg]
    split <;> rfl
  · rw [enter, modify_of_size_le s g _ (Nat.le_of_not_lt hg)]

/-- The store has the functions of `s`, with their bodies and counters, and the slots, the notices
and the prelude of `s`. It may have further functions. -/
structure Extends (t s : Store) : Prop where
  size : s.cells.size ≤ t.cells.size
  cells : ∀ f < s.cells.size, t.cell f = s.cell f
  slots : t.slots = s.slots
  log : t.log = s.log
  preludeBuilt : t.preludeBuilt = s.preludeBuilt

namespace Extends

theorem refl (s : Store) : s.Extends s := ⟨Nat.le_refl _, fun _ _ => rfl, rfl, rfl, rfl⟩

theorem trans (h : u.Extends t) (h' : t.Extends s) : u.Extends s where
  size := Nat.le_trans h'.size h.size
  cells := fun f hf => (h.cells f (Nat.lt_of_lt_of_le hf h'.size)).trans (h'.cells f hf)
  slots := h.slots.trans h'.slots
  log := h.log.trans h'.log
  preludeBuilt := h.preludeBuilt.trans h'.preludeBuilt

theorem allocate (s : Store) (body : Body) : (s.allocate body).2.Extends s where
  size := by simp
  cells := fun f hf => by rw [cell_allocate, if_neg (Nat.ne_of_lt hf)]
  slots := rfl
  log := rfl
  preludeBuilt := rfl

/-- A call of a further function is not noticed by the others. -/
theorem enter (h : t.Extends s) (hf : s.cells.size ≤ f) : (t.enter f).Extends s where
  size := by
    rw [size_enter]
    exact h.size
  cells := fun g hg => by
    have hne : g ≠ f := Nat.ne_of_lt (Nat.lt_of_lt_of_le hg hf)
    by_cases hft : f < t.cells.size
    · rw [Store.enter, cell_modify t f g _ hft, if_neg hne, h.cells g hg]
    · rw [Store.enter, modify_of_size_le t f _ (Nat.le_of_not_lt hft), h.cells g hg]
  slots := h.slots
  log := h.log
  preludeBuilt := h.preludeBuilt

/-- When a call has ended, its counter is back. -/
theorem leave (h : t.Extends (s.enter f)) (hf : f < s.cells.size) : (t.leave f).Extends s := by
  have hsize : s.cells.size ≤ t.cells.size := by
    have hle := h.size
    rwa [size_enter] at hle
  refine ⟨by rwa [size_leave], fun g hg => ?_, h.slots, h.log, h.preludeBuilt⟩
  have hcell : t.cell g = if g = f then (s.cell g).enter else s.cell g := by
    rw [h.cells g (by rwa [size_enter]), Store.enter, cell_modify s f g _ hf]
  rw [Store.leave, cell_modify t f g _ (Nat.lt_of_lt_of_le hf hsize), hcell]
  split <;> simp

/-- What has a body to run keeps it. -/
theorem active_eq {body : Body} (h : t.Extends s) (hactive : (s.cell f).active = body)
    (hbody : body ≠ .unbound) : (t.cell f).active = body := by
  rw [h.cells f (lt_size_of_active hactive hbody), hactive]

end Extends

end Store

end RuntimeValues

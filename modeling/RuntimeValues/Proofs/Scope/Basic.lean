import RuntimeValues.Program.Machine

/-!
# What a configuration refers to

A scope says which functions the values of a configuration may be, and which forms its
programs may have. With the functions of the store it says that no identity dangles; with a
restricted set of forms it says that code which avoids a form cannot meet it later.
Whatever a value, a program, a frame or a store refers to is judged by one definition each.
-/

namespace RuntimeValues

set_option autoImplicit false

/-- What may be referred to. -/
structure Scope where
  functions : FunctionId → Prop
  forms : Expr → Prop

/-- Everything but the function `n`. -/
def Scope.without (n : Nat) : Scope := ⟨(· ≠ n), fun _ => True⟩

/-- The first scope allows nothing that the second one forbids. -/
structure Scope.Le (a b : Scope) : Prop where
  functions : ∀ f, a.functions f → b.functions f
  forms : ∀ e, a.forms e → b.forms e

def Value.Within (scope : Scope) : Value → Prop
  | pair first second => first.Within scope ∧ second.Within scope
  | function f => scope.functions f
  | number _ | boolean _ | null => True

def Env.Within (scope : Scope) (env : Env) : Prop := ∀ entry ∈ env, entry.2.Within scope

/-- The program and all its subprograms have allowed forms. -/
def Expr.Within (scope : Scope) : Expr → Prop
  | lambda param body => scope.forms (.lambda param body) ∧ body.Within scope
  | recursive self param body => scope.forms (.recursive self param body) ∧ body.Within scope
  | bind slot param body => scope.forms (.bind slot param body) ∧ body.Within scope
  | rebind target param body =>
    scope.forms (.rebind target param body) ∧ target.Within scope ∧ body.Within scope
  | unary op operand => scope.forms (.unary op operand) ∧ operand.Within scope
  | binary op left right =>
    scope.forms (.binary op left right) ∧ left.Within scope ∧ right.Within scope
  | call callee argument =>
    scope.forms (.call callee argument) ∧ callee.Within scope ∧ argument.Within scope
  | letIn name bound body =>
    scope.forms (.letIn name bound body) ∧ bound.Within scope ∧ body.Within scope
  | andThen first second =>
    scope.forms (.andThen first second) ∧ first.Within scope ∧ second.Within scope
  | iterate count name start body =>
    scope.forms (.iterate count name start body) ∧ start.Within scope ∧ body.Within scope
  | ifThenElse condition yes no =>
    scope.forms (.ifThenElse condition yes no) ∧ condition.Within scope ∧ yes.Within scope ∧
      no.Within scope
  | attempt body handler =>
    scope.forms (.attempt body handler) ∧ body.Within scope ∧ handler.Within scope
  | restate body => scope.forms (.restate body) ∧ body.Within scope
  | amend change body => scope.forms (.amend change body) ∧ body.Within scope
  | program => scope.forms program

def Body.Within (scope : Scope) : Body → Prop
  | closure env _ program => Env.Within scope env ∧ program.Within scope
  | pairWith first => first.Within scope
  | unbound | builtin _ => True

theorem Value.Within.mono {a b : Scope} (h : a.Le b) {v : Value} (hv : v.Within a) :
    v.Within b := by
  induction v with
  | pair first second hfirst hsecond => exact ⟨hfirst hv.1, hsecond hv.2⟩
  | function f => exact h.functions f hv
  | number _ | boolean _ | null => trivial

theorem Env.Within.mono {a b : Scope} (h : a.Le b) {env : Env} (henv : Env.Within a env) :
    Env.Within b env := fun entry hentry => (henv entry hentry).mono h

theorem Expr.Within.mono {a b : Scope} (h : a.Le b) {e : Expr} (he : e.Within a) :
    e.Within b := by
  induction e <;> simp only [Expr.Within] at he ⊢ <;> simp_all [h.forms]

theorem Body.Within.mono {a b : Scope} (h : a.Le b) {body : Body} (hbody : body.Within a) :
    body.Within b := by
  cases body with
  | closure env param program => exact ⟨hbody.1.mono h, hbody.2.mono h⟩
  | pairWith first => exact Value.Within.mono h hbody
  | unbound | builtin _ => trivial

/-- A program within a scope has an allowed form itself. -/
theorem Expr.Within.form {scope : Scope} {e : Expr} (he : e.Within scope) : scope.forms e := by
  cases e <;> simp only [Expr.Within] at he <;> simp_all

/-- All programs are within a scope that allows all forms. -/
theorem Expr.within_of_forms {scope : Scope} (h : ∀ e, scope.forms e) (program : Expr) :
    program.Within scope := by
  induction program <;> simp_all [Expr.Within]

theorem Env.within_cons {scope : Scope} {env : Env} {name : String} {v : Value}
    (hv : v.Within scope) (henv : Env.Within scope env) :
    Env.Within scope ((name, v) :: env) := by
  intro entry hentry
  rcases List.mem_cons.mp hentry with rfl | hold
  · exact hv
  · exact henv entry hold

theorem Env.within_of_lookup {scope : Scope} {env : Env} {name : String} {v : Value}
    (henv : Env.Within scope env) (h : env.lookup name = some v) : v.Within scope := by
  obtain ⟨first, last, hsplit, -⟩ := List.lookup_eq_some_iff.mp h
  exact henv (name, v) (by rw [hsplit]; simp)

/-- A frame that looks for a form of program also says that the form is allowed. -/
def Frame.Within (scope : Scope) : Frame → Prop
  | unary op => ∃ operand, scope.forms (.unary op operand)
  | binaryLeft _ env right => Env.Within scope env ∧ right.Within scope
  | binaryRight _ left => left.Within scope
  | callee env operand => Env.Within scope env ∧ operand.Within scope
  | argument function => function.Within scope
  | leave f => scope.functions f
  | rebind body =>
    body.Within scope ∧ ∃ target param program, scope.forms (.rebind target param program)
  | letIn env _ body => Env.Within scope env ∧ body.Within scope
  | andThen env second => Env.Within scope env ∧ second.Within scope
  | iterate _ env _ body => Env.Within scope env ∧ body.Within scope
  | ifThenElse env yes no => Env.Within scope env ∧ yes.Within scope ∧ no.Within scope
  | attempt env handler => Env.Within scope env ∧ handler.Within scope
  | restate | amend _ => True

/-- Errors refer to nothing. -/
def Control.Within (scope : Scope) : Control → Prop
  | eval env program => Env.Within scope env ∧ program.Within scope
  | give (.ok v) => v.Within scope
  | give (.error _) => True

def Cell.Within (scope : Scope) (c : Cell) : Prop :=
  c.body.Within scope ∧ ∀ body, c.rebound = some body → body.Within scope

structure Store.Within (scope : Scope) (s : Store) : Prop where
  cells : ∀ f, (s.cell f).Within scope
  slots : ∀ entry ∈ s.slots, entry.2.function.Within scope

structure Config.Within (scope : Scope) (c : Config) : Prop where
  control : c.control.Within scope
  frames : ∀ frame ∈ c.frames, frame.Within scope
  store : c.store.Within scope

theorem Control.within_give {scope : Scope} {outcome : Outcome Value}
    (h : ∀ v, outcome = .ok v → v.Within scope) : Control.Within scope (.give outcome) := by
  cases outcome with
  | ok v => exact h v rfl
  | error e => trivial

theorem Frame.Within.mono {a b : Scope} (h : a.Le b) {frame : Frame} (hf : frame.Within a) :
    frame.Within b := by
  cases frame with
  | unary op =>
    obtain ⟨operand, hform⟩ := hf
    exact ⟨operand, h.forms _ hform⟩
  | binaryRight _ left => exact Value.Within.mono h hf
  | argument function => exact Value.Within.mono h hf
  | leave f => exact h.functions f hf
  | rebind body =>
    obtain ⟨hbody, target, param, program, hform⟩ := hf
    exact ⟨hbody.mono h, target, param, program, h.forms _ hform⟩
  | ifThenElse env yes no => exact ⟨hf.1.mono h, hf.2.1.mono h, hf.2.2.mono h⟩
  | restate | amend _ => trivial
  | binaryLeft _ _ _ | callee _ _ | letIn _ _ _ | andThen _ _ | iterate _ _ _ _ | attempt _ _ =>
    exact ⟨hf.1.mono h, hf.2.mono h⟩

theorem Cell.Within.mono {a b : Scope} (h : a.Le b) {c : Cell} (hc : c.Within a) :
    c.Within b := ⟨hc.1.mono h, fun body hbody => (hc.2 body hbody).mono h⟩

theorem Store.Within.mono {a b : Scope} (h : a.Le b) {s : Store} (hs : s.Within a) :
    s.Within b :=
  ⟨fun f => (hs.cells f).mono h, fun entry hentry => (hs.slots entry hentry).mono h⟩

theorem Store.within_initial (scope : Scope) : initial.Within scope := by
  refine ⟨fun f => ?_, by simp [initial]⟩
  rcases f with _ | _ | _ | _ | f <;> exact ⟨trivial, by simp [cell, initial, Builtin.all, default]⟩

theorem Config.Within.mono {a b : Scope} (h : a.Le b) {c : Config} (hc : c.Within a) :
    c.Within b := by
  refine ⟨?_, fun frame hframe => (hc.frames frame hframe).mono h, hc.store.mono h⟩
  obtain ⟨control, frames, s⟩ := c
  rcases control with ⟨env, program⟩ | e | v
  · exact ⟨hc.control.1.mono h, hc.control.2.mono h⟩
  · trivial
  · exact Value.Within.mono h hc.control

end RuntimeValues

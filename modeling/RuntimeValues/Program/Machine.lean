import RuntimeValues.Function.Slot
import RuntimeValues.Program.Operator

/-!
# Evaluation

A program is evaluated by a machine. A configuration has a control, which is either a
program about to be evaluated or an outcome about to be handed on, a list of frames, which
say what is still to be done with the outcome, innermost first, and the store. One total
function takes a configuration to the next, so a run is a chain of configurations and any
point of it can be spoken about. A call that is running is a frame `leave` on the list; the
store counts the same calls.
-/

namespace RuntimeValues

set_option autoImplicit false

/-- What the machine does next. -/
inductive Control where
  /-- Evaluate a program where the names have these values. -/
  | eval (env : Env) (program : Expr)
  /-- Hand this outcome to the innermost frame. -/
  | give (outcome : Outcome Value)

/-- What is to be done with the outcome of a subprogram. -/
inductive Frame where
  | unary (op : UnaryOp)
  | binaryLeft (op : BinaryOp) (env : Env) (right : Expr)
  | binaryRight (op : BinaryOp) (left : Value)
  | callee (env : Env) (operand : Expr)
  | argument (function : Value)
  /-- A call of this function is running, and the outcome is that of the call. -/
  | leave (f : FunctionId)
  | rebind (body : Body)
  | letIn (env : Env) (name : String) (body : Expr)
  | andThen (env : Env) (second : Expr)
  | iterate (count : Nat) (env : Env) (name : String) (body : Expr)
  | ifThenElse (env : Env) (yes no : Expr)
  | attempt (env : Env) (handler : Expr)
  | restate
  | amend (change : Change)

/-- A point of a run. -/
structure Config where
  control : Control
  frames : List Frame
  store : Store

/-- A body starts to work on an argument. -/
def Body.start (body : Body) (argument : Value) (frames : List Frame) (s : Store) : Config :=
  match body with
  | closure env param program => ⟨.eval ((param, argument) :: env) program, frames, s⟩
  | unbound => ⟨.give (.error Fault.unboundFunction.error), frames, s⟩
  | builtin .pair =>
    let (f, after) := s.allocate (.pairWith argument)
    ⟨.give (.ok (.function f)), frames, after⟩
  | builtin .first => ⟨.give (Builtin.first.named argument.getFirst), frames, s⟩
  | builtin .second => ⟨.give (Builtin.second.named argument.getSecond), frames, s⟩
  | builtin .isNull => ⟨.give (.ok (.boolean argument.isNull)), frames, s⟩
  | pairWith first => ⟨.give (.ok (.pair first argument)), frames, s⟩

/-- A call of a function starts. It keeps the body that is active now. -/
def Store.call (s : Store) (f : FunctionId) (argument : Value) (frames : List Frame) :
    Config :=
  (s.cell f).active.start argument (.leave f :: frames) (s.enter f)

/-- The evaluation of a program starts. -/
def Expr.start (env : Env) (frames : List Frame) (s : Store) : Expr → Config
  | number n => ⟨.give (.ok (.number n)), frames, s⟩
  | boolean b => ⟨.give (.ok (.boolean b)), frames, s⟩
  | null => ⟨.give (.ok .null), frames, s⟩
  | var name =>
    match env.lookup name with
    | some v => ⟨.give (.ok v), frames, s⟩
    | none =>
      ⟨.give (.error (ValueError.raised ("unbound variable `" ++ name ++ "`"))), frames, s⟩
  | lambda param body =>
    let (f, after) := s.allocate (.closure env param body)
    ⟨.give (.ok (.function f)), frames, after⟩
  | recursive self param body =>
    let (outcome, after) := s.makeRecursive fun this => .closure ((self, this) :: env) param body
    ⟨.give outcome, frames, after⟩
  | builtin b => ⟨.give (.ok (Prelude.constant b)), frames, s.usePrelude⟩
  | prelude name =>
    match Prelude.lookup name with
    | some v => ⟨.give (.ok v), frames, s.usePrelude⟩
    | none =>
      ⟨.give (.error (ValueError.raised ("no prelude " ++ name))), frames, s.usePrelude⟩
  | declare name =>
    let (slot, after) := s.declare
    ⟨.give (.ok slot.function), frames, after.insertSlot name slot⟩
  | slotFunction name =>
    match s.slot? name with
    | some slot => ⟨.give (.ok slot.function), frames, s⟩
    | none => ⟨.give (.error (ValueError.raised ("no slot " ++ name))), frames, s⟩
  | bind name param body =>
    match s.slot? name with
    | some slot =>
      let (outcome, after) := slot.bind (.closure env param body) (s.eraseSlot name)
      ⟨.give (outcome.map fun _ => .null), frames, after⟩
    | none => ⟨.give (.error (ValueError.raised ("no slot " ++ name))), frames, s⟩
  | rebind target param body =>
    ⟨.eval env target, .rebind (.closure env param body) :: frames, s⟩
  | unary op operand => ⟨.eval env operand, .unary op :: frames, s⟩
  | binary op left right => ⟨.eval env left, .binaryLeft op env right :: frames, s⟩
  | call callee argument => ⟨.eval env callee, .callee env argument :: frames, s⟩
  | letIn name bound body => ⟨.eval env bound, .letIn env name body :: frames, s⟩
  | andThen first second => ⟨.eval env first, .andThen env second :: frames, s⟩
  | iterate count name start body =>
    ⟨.eval env start, .iterate count env name body :: frames, s⟩
  | ifThenElse condition yes no => ⟨.eval env condition, .ifThenElse env yes no :: frames, s⟩
  | raise text => ⟨.give (.error (ValueError.raised text)), frames, s⟩
  | attempt body handler => ⟨.eval env body, .attempt env handler :: frames, s⟩
  | restate body => ⟨.eval env body, .restate :: frames, s⟩
  | amend change body => ⟨.eval env body, .amend change :: frames, s⟩

namespace Frame

/-- The frame gets a value; the frames outside it are given. -/
def resume (v : Value) (frames : List Frame) (s : Store) : Frame → Config
  | unary op => ⟨.give (op.apply s v), frames, s⟩
  | binaryLeft op env right => ⟨.eval env right, .binaryRight op v :: frames, s⟩
  | binaryRight op left => ⟨.give (op.apply left v), frames, s⟩
  | callee env operand => ⟨.eval env operand, .argument v :: frames, s⟩
  | argument function =>
    match function.asFunction with
    | .ok f => s.call f v frames
    | .error e => ⟨.give (.error e), frames, s⟩
  | leave f => ⟨.give (.ok v), frames, s.leave f⟩
  | rebind body =>
    let (outcome, after) := Slot.bind ⟨v⟩ body s
    ⟨.give (outcome.map fun _ => .null), frames, after⟩
  | letIn env name body => ⟨.eval ((name, v) :: env) body, frames, s⟩
  | andThen env second => ⟨.eval env second, frames, s⟩
  | iterate 0 _ _ _ => ⟨.give (.ok v), frames, s⟩
  | iterate (count + 1) env name body =>
    ⟨.eval ((name, v) :: env) body, .iterate count env name body :: frames, s⟩
  | ifThenElse env yes no =>
    match v.getBoolean with
    | .ok true => ⟨.eval env yes, frames, s⟩
    | .ok false => ⟨.eval env no, frames, s⟩
    | .error e => ⟨.give (.error e), frames, s⟩
  | attempt _ _ | restate | amend _ => ⟨.give (.ok v), frames, s⟩

/-- The frame gets an error; the frames outside it are given. -/
def unwind (e : ValueError) (frames : List Frame) (s : Store) : Frame → Config
  | leave f => ⟨.give (.error e), frames, s.leave f⟩
  | attempt env handler => ⟨.eval env handler, frames, s⟩
  | restate => ⟨.give (.error (ValueError.raised e.message)), frames, s⟩
  | amend change => ⟨.give (.error (e.apply change)), frames, s⟩
  | _ => ⟨.give (.error e), frames, s⟩

end Frame

namespace Config

/-- A program that is about to be evaluated, with nothing to be done after it. -/
def begin (env : Env) (program : Expr) (s : Store) : Config := ⟨.eval env program, [], s⟩

/-- The next configuration, or the outcome and the store if nothing is left to be done. -/
def step : Config → (Outcome Value × Store) ⊕ Config
  | ⟨.eval env program, frames, s⟩ => .inr (program.start env frames s)
  | ⟨.give outcome, [], s⟩ => .inl (outcome, s)
  | ⟨.give (.ok v), frame :: frames, s⟩ => .inr (frame.resume v frames s)
  | ⟨.give (.error e), frame :: frames, s⟩ => .inr (frame.unwind e frames s)

/-- The outcome and the store after at most `fuel` steps, if that is enough. -/
def run : Nat → Config → Option (Outcome Value × Store)
  | 0, _ => none
  | fuel + 1, c =>
    match c.step with
    | .inl result => some result
    | .inr next => run fuel next

/-- More fuel does not change a result. -/
theorem run_mono {fuel more : Nat} {c : Config} {result : Outcome Value × Store}
    (h : c.run fuel = some result) (hle : fuel ≤ more) : c.run more = some result := by
  induction fuel generalizing c more with
  | zero => simp [run] at h
  | succ fuel ih =>
    cases more with
    | zero => omega
    | succ more =>
      simp only [run] at h ⊢
      split at h
      · exact h
      · exact ih h (Nat.le_of_succ_le_succ hle)

end Config

end RuntimeValues

import RuntimeValues.Diagnostic.Details
import RuntimeValues.Prelude.Builtin

/-!
# Programs

Programs that work with values. Literals, functions, bindings and control are as in a small
strict functional language; beside them stand the operations on values, the ways to give a
declared function its body, and the ways to change an error that passes by.
-/

namespace RuntimeValues

set_option autoImplicit false

/-- An operation on one value. -/
inductive UnaryOp where
  | getNumber
  | getBoolean
  | getFirst
  | getSecond
  | isNull
  | isRebound
  | relist
  | reverse
  | length
deriving DecidableEq

/-- An operation on two values. -/
inductive BinaryOp where
  | pair
  | add
  | subtract
  | multiply
  | equal
  | less
  | same
deriving DecidableEq

/-- A program. Subprograms are evaluated from left to right, and the first error is the
result, unless it is caught. -/
inductive Expr where
  | number (n : Int64)
  | boolean (b : Bool)
  | null
  /-- The value bound to a name most recently. -/
  | var (name : String)
  /-- A new function of one parameter. -/
  | lambda (param : String) (body : Expr)
  /-- A new function whose body can use the function itself under the name `self`. -/
  | recursive (self param : String) (body : Expr)
  /-- The constant that stands for a function of the prelude. -/
  | builtin (b : Builtin)
  /-- Whatever the prelude has under a name. -/
  | prelude (name : String)
  /-- A new function without a body, whose body is to be bound through the named slot. -/
  | declare (slot : String)
  /-- The function that the named slot belongs to. -/
  | slotFunction (slot : String)
  /-- Uses up the named slot and gives its function the body. -/
  | bind (slot param : String) (body : Expr)
  /-- Gives the function that `target` evaluates to another body. -/
  | rebind (target : Expr) (param : String) (body : Expr)
  | unary (op : UnaryOp) (operand : Expr)
  | binary (op : BinaryOp) (left right : Expr)
  | call (callee argument : Expr)
  /-- `body` with the name bound to the value of `bound`. -/
  | letIn (name : String) (bound body : Expr)
  /-- Both in order, with the value of the second. -/
  | andThen (first second : Expr)
  /-- Starts from the value of `start` and replaces it `count` times by the value of `body`,
  in which the name is bound to the value so far. -/
  | iterate (count : Nat) (name : String) (start body : Expr)
  | ifThenElse (condition yes no : Expr)
  | raise (text : String)
  /-- `handler` in place of `body` if that ends with an error. -/
  | attempt (body handler : Expr)
  /-- Keeps of an error its message alone, as the text of a new one. -/
  | restate (body : Expr)
  /-- Changes the details of an error. -/
  | amend (change : Change) (body : Expr)

namespace Expr

/-- A list of the values of the elements. -/
def list : List Expr → Expr
  | [] => null
  | element :: rest => binary .pair element (list rest)

/-- All in order, with the value of the last one; null if there is none. -/
def sequence : List Expr → Expr
  | [] => null
  | [last] => last
  | first :: rest => andThen first (sequence rest)

end Expr

end RuntimeValues

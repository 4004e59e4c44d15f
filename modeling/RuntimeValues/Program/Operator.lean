import RuntimeValues.Program.Expr
import RuntimeValues.Function.Store
import RuntimeValues.Value.Sequence

/-!
# Operators

What the operators of a program do once their operands are values. None of them changes the
store. Numbers have 64 bits; a result that does not fit is an error, never a wrapped number.
-/

namespace RuntimeValues

set_option autoImplicit false

/-- Whether two values are one and the same. Only null and functions have an identity, and
a value of another kind is none of them. -/
def Value.identical : Value → Value → Outcome Bool
  | null, null => .ok true
  | function f, function g => .ok (f = g)
  | null, _ | _, null | function _, _ | _, function _ => .ok false
  | _, _ => .error (ValueError.raised "no identity")

namespace BinaryOp

/-- Whether an integer has at most 64 bits. -/
def fits (n : Int) : Bool := Int64.minValue.toInt ≤ n && n ≤ Int64.maxValue.toInt

/-- The number, if it fits. -/
def checked (n : Int) : Outcome Value :=
  if fits n then .ok (.number (Int64.ofInt n))
  else .error (ValueError.raised "integer overflow")

/-- What is done with two numbers. The left operand is the first to be asked for one. -/
def onNumbers (left right : Value) (result : Int → Int → Outcome Value) : Outcome Value :=
  match left.getNumber with
  | .error e => .error e
  | .ok m =>
    match right.getNumber with
    | .error e => .error e
    | .ok n => result m.toInt n.toInt

def apply (left right : Value) : BinaryOp → Outcome Value
  | pair => .ok (.pair left right)
  | add => onNumbers left right fun m n => checked (m + n)
  | subtract => onNumbers left right fun m n => checked (m - n)
  | multiply => onNumbers left right fun m n => checked (m * n)
  | equal => onNumbers left right fun m n => .ok (.boolean (m = n))
  | less => onNumbers left right fun m n => .ok (.boolean (m < n))
  | same => (left.identical right).map .boolean

/-- A number that fits is written down as it is. -/
theorem toInt_ofInt_of_fits {n : Int} (h : fits n = true) : (Int64.ofInt n).toInt = n := by
  simp only [fits, Bool.and_eq_true, decide_eq_true_eq] at h
  exact Int64.toInt_ofInt_of_le h.1 (Int.lt_of_le_of_lt h.2 (by decide))

end BinaryOp

/-- The result of an operation on one value. Whether a function is rebound is the only
question that needs the store. -/
def UnaryOp.apply (s : Store) (v : Value) : UnaryOp → Outcome Value
  | getNumber => v.getNumber.map .number
  | getBoolean => v.getBoolean.map .boolean
  | getFirst => v.getFirst
  | getSecond => v.getSecond
  | isNull => .ok (.boolean v.isNull)
  | isRebound => v.asFunction.map fun f => .boolean (s.cell f).isRebound
  | relist => v.toList.map Value.ofList
  | reverse => v.toList.map fun elements => Value.ofList elements.reverse
  | length => v.toList.map fun elements => .number (Int64.ofNat elements.length)

end RuntimeValues

import RuntimeValues.Value.Fault

/-!
# Values

Values are numbers, booleans, null, pairs and functions. A function is known by its
identity alone; what it does is kept in the store. Each operation succeeds exactly on the
values of the kind that supports it and otherwise fails with the operation and the kind it
met.
-/

namespace RuntimeValues

set_option autoImplicit false

/-- The identity of a function. Two function values are the same function when their
identities are equal. -/
abbrev FunctionId := Nat

/-- A value. Pairs nest to any depth and share their members freely. -/
inductive Value where
  | number (n : Int64)
  | boolean (b : Bool)
  | null
  | pair (first second : Value)
  | function (id : FunctionId)
deriving DecidableEq, Inhabited

namespace Value

def kind : Value → Kind
  | number _ => .number
  | boolean _ => .boolean
  | null => .null
  | pair _ _ => .pair
  | function _ => .function

/-- The error of using the operation on this value, whose kind does not support it. -/
def mismatch (v : Value) (operation : Operation) : ValueError :=
  (Fault.typeMismatch operation v.kind).error

def getNumber : Value → Outcome Int64
  | number n => .ok n
  | v => .error (v.mismatch .getNumber)

def getBoolean : Value → Outcome Bool
  | boolean b => .ok b
  | v => .error (v.mismatch .getBoolean)

def getFirst : Value → Outcome Value
  | pair first _ => .ok first
  | v => .error (v.mismatch .getFirst)

def getSecond : Value → Outcome Value
  | pair _ second => .ok second
  | v => .error (v.mismatch .getSecond)

/-- The function that a call of this value runs. -/
def asFunction : Value → Outcome FunctionId
  | function id => .ok id
  | v => .error (v.mismatch .call)

def isNull : Value → Bool
  | null => true
  | _ => false

theorem isNull_iff (v : Value) : v.isNull = true ↔ v = null := by
  cases v <;> simp [isNull]

theorem getNumber_eq_ok_iff (v : Value) (n : Int64) : v.getNumber = .ok n ↔ v = number n := by
  cases v <;> simp [getNumber]

theorem getBoolean_eq_ok_iff (v : Value) (b : Bool) : v.getBoolean = .ok b ↔ v = boolean b := by
  cases v <;> simp [getBoolean]

theorem getFirst_eq_ok_iff (v first : Value) :
    v.getFirst = .ok first ↔ ∃ second, v = pair first second := by
  cases v <;> simp [getFirst]

theorem getSecond_eq_ok_iff (v second : Value) :
    v.getSecond = .ok second ↔ ∃ first, v = pair first second := by
  cases v <;> simp [getSecond]

theorem asFunction_eq_ok_iff (v : Value) (id : FunctionId) :
    v.asFunction = .ok id ↔ v = function id := by
  cases v <;> simp [asFunction]

end Value

end RuntimeValues

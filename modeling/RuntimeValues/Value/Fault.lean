import RuntimeValues.Diagnostic.Render
import RuntimeValues.Value.Kind

/-!
# Faults

Why working with a value can fail, and the errors that arise from it. Each fault that the
values themselves report arises in a fixed context; a fault raised by a program arises in
none. The wording stands here and nowhere else.
-/

namespace RuntimeValues

set_option autoImplicit false

/-- A reason for failure when working with values. -/
inductive Fault where
  /-- The operation was used on a value whose kind does not support it. -/
  | typeMismatch (operation : Operation) (actual : Kind)
  /-- A declared function was called before it got its body. -/
  | unboundFunction
  /-- A function that already had its second body was to get another one. -/
  | alreadyRebound
  /-- A function was to get another body while calls to it were running. -/
  | rebindDuringCall (callsInFlight : Nat)
  /-- A program failed with a text of its own. -/
  | raised (text : String)
deriving DecidableEq

namespace Fault

def message : Fault → String
  | typeMismatch operation actual => "cannot " ++ operation.phrase ++ " " ++ actual.phrase
  | unboundFunction => "function called before its body was bound"
  | alreadyRebound => "function body is already rebound"
  | rebindDuringCall n =>
    if n < 2 then
      "cannot rebind a function while " ++ n.repr ++ " call to it is in progress"
    else
      "cannot rebind a function while " ++ n.repr ++ " calls to it are in progress"
  | raised text => text

def help : Fault → String
  | typeMismatch operation _ =>
    "`" ++ operation.name ++ "` only works on " ++ operation.supportedBy.phrase ++ "."
  | alreadyRebound => "A function can be rebound at most once."
  | unboundFunction | rebindDuringCall _ | raised _ => ""

def number : Fault → Nat
  | typeMismatch _ _ => 0
  | unboundFunction => 1
  | alreadyRebound => 2
  | rebindDuringCall _ => 3
  | raised _ => 4

/-- The context in which a fault arises. -/
def context : Fault → Context
  | typeMismatch .call _ => .callingFunction
  | typeMismatch _ _ => .accessingValue
  | unboundFunction => .callingFunction
  | alreadyRebound | rebindDuringCall _ => .rebindingFunction
  | raised _ => .unknown

/-- Faults of values are area 1. -/
instance : Cause Fault where
  area _ := 1
  number := number
  message := message
  help := help

/-- Whether the fault is the use of an operation on a kind that does not support it. -/
def isTypeMismatch : Fault → Bool
  | typeMismatch _ _ => true
  | _ => false

end Fault

/-- An error that working with a value ended with. -/
abbrev ValueError := Diagnostic Fault

/-- The error of a fault that has just arisen. -/
def Fault.error (fault : Fault) : ValueError := .during fault.context fault

/-- The error that a program raises with a text of its own. -/
def ValueError.raised (text : String) : ValueError := (Fault.raised text).error

@[simp] theorem Fault.cause_error (fault : Fault) : fault.error.cause = fault := rfl

/-- What working with values gives: a result or an error. -/
abbrev Outcome := Except ValueError

namespace Outcome

variable {α β : Type}

theorem map_eq_ok_iff {outcome : Outcome α} {g : α → β} {b : β} :
    outcome.map g = .ok b ↔ ∃ a, outcome = .ok a ∧ g a = b := by
  cases outcome <;> simp [Except.map]

theorem map_eq_error_iff {outcome : Outcome α} {g : α → β} {e : ValueError} :
    outcome.map g = .error e ↔ outcome = .error e := by
  cases outcome <;> simp [Except.map]

end Outcome

end RuntimeValues

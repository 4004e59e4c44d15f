import RuntimeValues.Diagnostic.Details

/-!
# Errors

An error is a cause together with details. Each cause belongs to an area of the library
and has a number within that area; the two make its code. Changing the details never
changes the cause, and so never the code, the message or the help.
-/

namespace RuntimeValues

set_option autoImplicit false

/-- What every kind of cause says about itself. A cause without help has empty help. -/
class Cause (κ : Type) where
  /-- The number of the area that the cause belongs to. -/
  area : κ → Nat
  /-- The number of the cause within its area. -/
  number : κ → Nat
  /-- The main sentence: lower case, without a full stop. -/
  message : κ → String
  /-- Further sentences that help to mend the error. -/
  help : κ → String

/-- An error: why it arose, and what was noted about it since. -/
structure Diagnostic (κ : Type) where
  cause : κ
  details : Details := {}
deriving DecidableEq

namespace Diagnostic

variable {κ : Type}

/-- An error with this cause that arose in the given context. -/
def during (context : Context) (cause : κ) : Diagnostic κ :=
  ⟨cause, .during context⟩

def apply (d : Diagnostic κ) (change : Change) : Diagnostic κ :=
  ⟨d.cause, d.details.apply change⟩

/-- All changes, the first one first. -/
def applyAll (d : Diagnostic κ) (changes : List Change) : Diagnostic κ :=
  changes.foldl apply d

@[simp] theorem cause_apply (d : Diagnostic κ) (change : Change) :
    (d.apply change).cause = d.cause := rfl

@[simp] theorem details_apply (d : Diagnostic κ) (change : Change) :
    (d.apply change).details = d.details.apply change := rfl

theorem applyAll_eq (d : Diagnostic κ) (changes : List Change) :
    d.applyAll changes = ⟨d.cause, d.details.applyAll changes⟩ := by
  induction changes generalizing d with
  | nil => rfl
  | cons change rest ih => exact ih (d.apply change)

@[simp] theorem cause_applyAll (d : Diagnostic κ) (changes : List Change) :
    (d.applyAll changes).cause = d.cause := by
  rw [applyAll_eq]

@[simp] theorem details_applyAll (d : Diagnostic κ) (changes : List Change) :
    (d.applyAll changes).details = d.details.applyAll changes := by
  rw [applyAll_eq]

def message [Cause κ] (d : Diagnostic κ) : String := Cause.message d.cause

def help [Cause κ] (d : Diagnostic κ) : String := Cause.help d.cause

end Diagnostic

end RuntimeValues

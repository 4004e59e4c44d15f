/-!
# Contexts

What a program was doing when an error arose. The context `unknown` is that of an
error which nobody has placed yet. It alone has an empty phrase, and it alone gives
way to an offered context.
-/

namespace RuntimeValues

set_option autoImplicit false

/-- The activity during which an error arose. -/
inductive Context where
  | unknown
  | accessingValue
  | callingFunction
  | rebindingFunction
  | buildingList
  | evaluatingPrelude
deriving DecidableEq, Inhabited

namespace Context

/-- The activity as it stands in the title of an error. -/
def phrase : Context → String
  | unknown => ""
  | accessingValue => "accessing a value"
  | callingFunction => "calling a function"
  | rebindingFunction => "rebinding a function"
  | buildingList => "walking a list"
  | evaluatingPrelude => "evaluating a prelude function"

theorem phrase_injective {c d : Context} (h : c.phrase = d.phrase) : c = d := by
  revert h
  cases c <;> cases d <;> simp [phrase]

end Context

end RuntimeValues

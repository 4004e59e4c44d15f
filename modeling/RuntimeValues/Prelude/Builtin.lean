import RuntimeValues.Value.Basic

/-!
# Built-in functions

The functions that every program starts with. They have the first four identities, in the
order of `Builtin.all`, so each of them is the same value in every program and at any time.
-/

namespace RuntimeValues

set_option autoImplicit false

/-- A function that every program starts with. -/
inductive Builtin where
  /-- Waits for a second argument and makes a pair of both. -/
  | pair
  | first
  | second
  | isNull
deriving DecidableEq, Inhabited

namespace Builtin

def all : List Builtin := [pair, first, second, isNull]

def name : Builtin → String
  | pair => "pair"
  | first => "first"
  | second => "second"
  | isNull => "is_null"

def id : Builtin → FunctionId
  | pair => 0
  | first => 1
  | second => 2
  | isNull => 3

/-- The function itself. -/
def value (b : Builtin) : Value := .function b.id

/-- What a call gives if its body gave this. An error names the function that it passed
through, in place of any context and note it had. -/
def named (b : Builtin) : Outcome Value → Outcome Value
  | .ok v => .ok v
  | .error e => .error ((e.apply (.setContext .evaluatingPrelude)).apply
      (.setNote ("in prelude function `" ++ b.name ++ "`")))

theorem all_getElem?_id (b : Builtin) : all[b.id]? = some b := by
  cases b <;> rfl

theorem mem_all (b : Builtin) : b ∈ all := List.mem_of_getElem? (all_getElem?_id b)

theorem id_injective {b c : Builtin} (h : b.id = c.id) : b = c := by
  have hb := all_getElem?_id b
  rw [h, all_getElem?_id c] at hb
  exact (Option.some.inj hb).symm

end Builtin

end RuntimeValues

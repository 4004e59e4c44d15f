import RuntimeValues.Prelude.Builtin
import RuntimeValues.Prelude.Error

/-!
# The prelude

The built-in functions and null, each under its name. A name can be looked up in two ways,
which differ only in what they say about a name that is not there. The built-in functions can
also be had as constants.
-/

namespace RuntimeValues.Prelude

set_option autoImplicit false

def table : List (String × Value) :=
  Builtin.all.map (fun b => (b.name, b.value)) ++ [("null", .null)]

def names : List String := table.map Prod.fst

/-- The value under a name, if there is one. -/
def lookup (name : String) : Option Value := table.lookup name

/-- The constant that stands for a built-in function: what the table has under its name, and null
if it has nothing there. -/
def constant (b : Builtin) : Value := (lookup b.name).getD .null

/-- The value under a name, or the error that lists the names there are. -/
def find (name : String) : Except PreludeError Value :=
  match lookup name with
  | some v => .ok v
  | none => .error (PreludeError.unknownName name names)

theorem lookup_builtin (b : Builtin) : lookup b.name = some b.value := by
  cases b <;> rfl

@[simp] theorem constant_eq (b : Builtin) : constant b = b.value := by
  rw [constant, lookup_builtin, Option.getD_some]

end RuntimeValues.Prelude

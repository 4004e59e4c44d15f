import RuntimeValues.Diagnostic.Render
import RuntimeValues.Text.ByteOrder
import RuntimeValues.Text.Enumeration

/-!
# Names that the prelude does not have

The error of asking the prelude for a name that it does not have. It keeps the names that
there are in the order of their bytes, so it does not depend on the order they came in.
-/

namespace RuntimeValues

set_option autoImplicit false

/-- The name that was asked for, and the names that there are. -/
structure UnknownName where
  name : String
  available : List String
deriving DecidableEq

namespace UnknownName

def message (cause : UnknownName) : String := "no prelude named `" ++ cause.name ++ "`"

def help (cause : UnknownName) : String :=
  "Available preludes are " ++ Text.enumerate "and" "`" "`" cause.available ++ "."

/-- Unknown names are area 2, of which they are the only cause. -/
instance : Cause UnknownName where
  area _ := 2
  number _ := 0
  message := message
  help := help

end UnknownName

/-- An error of looking into the prelude. -/
abbrev PreludeError := Diagnostic UnknownName

/-- The error of a name that is not among the available ones. -/
def PreludeError.unknownName (name : String) (available : List String) : PreludeError :=
  .during .evaluatingPrelude ⟨name, Text.sorted available⟩

end RuntimeValues

/-!
# Kinds and operations

The five kinds of values and the five operations that only some kinds support.
Each operation is supported by exactly one kind.
-/

namespace RuntimeValues

set_option autoImplicit false

/-- The kind of a value. -/
inductive Kind where
  | number
  | boolean
  | null
  | pair
  | function
deriving DecidableEq, Inhabited

/-- How a sentence names a value of this kind. -/
def Kind.phrase : Kind → String
  | number => "a number"
  | boolean => "a boolean"
  | null => "null"
  | pair => "a pair"
  | function => "a function"

/-- An operation that fails on values of a kind that does not support it. -/
inductive Operation where
  | getNumber
  | getBoolean
  | getFirst
  | getSecond
  | call
deriving DecidableEq, Inhabited

namespace Operation

/-- The one kind whose values support the operation. -/
def supportedBy : Operation → Kind
  | getNumber => .number
  | getBoolean => .boolean
  | getFirst => .pair
  | getSecond => .pair
  | call => .function

/-- The name under which a program uses the operation. -/
def name : Operation → String
  | getNumber => "get_number"
  | getBoolean => "get_boolean"
  | getFirst => "get_first"
  | getSecond => "get_second"
  | call => "call"

/-- The verb phrase that a sentence continues with the phrase of a kind. -/
def phrase : Operation → String
  | getNumber => "get the numeric value of"
  | getBoolean => "get the boolean value of"
  | getFirst => "get the first member of"
  | getSecond => "get the second member of"
  | call => "call"

end Operation

end RuntimeValues

import RuntimeValues.Program.Machine

/-!
# Sessions

A session evaluates programs one after the other in one store. Each request says what is to
be told about the value, and may keep the value under a name for later requests. An error
ends its own request only; what was done to the store until then stays. The prelude is built
before the first request.
-/

namespace RuntimeValues

set_option autoImplicit false

/-- What a value looks like from outside: its kind and, if it is no deeper, its content. -/
inductive View where
  | number (n : Int64)
  | boolean (b : Bool)
  | null
  | pair (first second : Kind)
  | function (rebound : Bool)
deriving DecidableEq

def Store.view (s : Store) : Value → View
  | .number n => .number n
  | .boolean b => .boolean b
  | .null => .null
  | .pair first second => .pair first.kind second.kind
  | .function f => .function (s.cell f).isRebound

/-- All that the operations on values tell about one value. -/
structure Inspection where
  kind : Kind
  isNull : Bool
  text : String
  debugText : String
  number : Outcome Int64
  boolean : Outcome Bool
  first : Outcome View
  second : Outcome View
  /-- Whether the value, taken as a function, is rebound. -/
  rebound : Outcome Bool

def Store.inspect (s : Store) (v : Value) : Inspection where
  kind := v.kind
  isNull := v.isNull
  text := v.serialize
  debugText := v.debugText
  number := v.getNumber
  boolean := v.getBoolean
  first := v.getFirst.map s.view
  second := v.getSecond.map s.view
  rebound := v.asFunction.map fun f => (s.cell f).isRebound

/-- A list seen from outside: its length, the elements at its start, and its last one. -/
structure ListView where
  length : Nat
  start : List View
  last : Option View
deriving DecidableEq

/-- The start of a list that is seen has at most eight elements. -/
def ListView.limit : Nat := 8

def Store.viewList (s : Store) (elements : List Value) : ListView where
  length := elements.length
  start := (elements.take ListView.limit).map s.view
  last := elements.getLast?.map s.view

/-- What a request asks about the value of its program. -/
inductive Question where
  | view
  | text
  | inspection
  | list
deriving DecidableEq

/-- What a request is told about the value of its program. -/
inductive Answer where
  | view (v : View)
  | text (s : String)
  | inspection (i : Inspection)
  | list (l : ListView)

/-- The answer to a question about a value. Only the question for a list can fail. -/
def Question.answer (s : Store) (v : Value) : Question → Outcome Answer
  | view => .ok (.view (s.view v))
  | text => .ok (.text v.serialize)
  | inspection => .ok (.inspection (s.inspect v))
  | list => v.toList.map fun elements => .list (s.viewList elements)

/-- A program, what is asked about its value, and the name to keep the value under. -/
structure Request where
  question : Question
  program : Expr
  keepAs : Option String

/-- The answer to a request, or the error that took its place. -/
structure Reply where
  answer : Outcome Answer
  /-- The notices written while the program was evaluated. -/
  log : List Notice

/-- The values kept so far, and the store. -/
structure Session where
  env : Env
  store : Store

namespace Session

/-- The session that nothing was asked yet. -/
def initial : Session := ⟨[], .initial⟩

/-- The names after an evaluation. A value is added under the name it is to be kept as. -/
def keep (env : Env) (name : Option String) (outcome : Outcome Value) : Env :=
  match name, outcome with
  | some name, .ok v => (name, v) :: env
  | _, _ => env

/-- Answers one request, if the fuel is enough for its program. -/
def ask (fuel : Nat) (session : Session) (request : Request) : Option (Reply × Session) := do
  let start := session.store.log.size
  let (outcome, after) ← (Config.begin session.env request.program session.store).run fuel
  let answer := outcome.bind (request.question.answer after)
  let log := (after.log.extract start after.log.size).toList
  return (⟨answer, log⟩, ⟨keep session.env request.keepAs outcome, after⟩)

/-- Answers the requests in order. -/
def askAll (fuel : Nat) (session : Session) : List Request → Option (List Reply × Session)
  | [] => some ([], session)
  | request :: rest => do
    let (reply, next) ← session.ask fuel request
    let (replies, final) ← next.askAll fuel rest
    return (reply :: replies, final)

end Session

end RuntimeValues

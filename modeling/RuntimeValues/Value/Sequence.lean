import RuntimeValues.Value.Text

/-!
# Lists

A list is a chain of pairs that ends in null. `ofList` builds such a chain and `toList`
walks it; a chain that ends in anything else is an improper list, and the error says how
many elements were passed and what stands at the end. `Walk.step` is one round of the walk. What
all rounds come to is `walk`, which goes down the chain by recursion.
-/

namespace RuntimeValues

set_option autoImplicit false

/-- A walk under way: the members that were passed, with the last one first, and the rest. -/
structure Walk where
  passed : List Value
  rest : Value

namespace Walk

def start (v : Value) : Walk := ⟨[], v⟩

/-- The error of a member that the rest does not have. -/
def improper (w : Walk) (e : ValueError) : ValueError :=
  (e.apply (.setContext .buildingList)).apply
    (.setNote ("improper list: the tail after " ++ w.passed.length.repr ++ " element(s) is `" ++
      w.rest.serialize ++ "`"))

/-- The walk is over at null. Before that the rest is asked for both members, and the first of
two errors is the one that is told. -/
def step (w : Walk) : Outcome (List Value) ⊕ Walk :=
  if w.rest.isNull then .inl (.ok w.passed.reverse)
  else
    match w.rest.getFirst, w.rest.getSecond with
    | .ok first, .ok second => .inr ⟨first :: w.passed, second⟩
    | .error e, _ => .inl (.error (w.improper e))
    | _, .error e => .inl (.error (w.improper e))

/-- The walk after this many steps. There is none if it is over before. -/
def after : Nat → Walk → Option Walk
  | 0, w => some w
  | n + 1, w =>
    match w.step with
    | .inl _ => none
    | .inr next => after n next

end Walk

namespace Value

/-- The chain of pairs whose first members are the elements. -/
def ofList (elements : List Value) : Value := elements.foldr pair null

/-- The error of a chain that ends in `tail`, which is not null, after `count` elements. -/
def improperTail (count : Nat) (tail : Value) : ValueError :=
  ((tail.mismatch .getFirst).apply (.setContext .buildingList)).apply
    (.setNote ("improper list: the tail after " ++ count.repr ++ " element(s) is `" ++
      tail.serialize ++ "`"))

/-- What a walk comes to, by recursion along the rest of the chain. The elements passed so far are
kept with the last one first. -/
def walk (passed : List Value) : Value → Outcome (List Value)
  | null => .ok passed.reverse
  | pair first second => walk (first :: passed) second
  | tail => .error (improperTail passed.length tail)

/-- The elements of a list. -/
def toList (v : Value) : Outcome (List Value) := walk [] v

@[simp] theorem ofList_nil : ofList [] = null := rfl

@[simp] theorem ofList_cons (v : Value) (rest : List Value) :
    ofList (v :: rest) = pair v (ofList rest) := rfl

theorem walk_ofList (passed elements : List Value) :
    walk passed (ofList elements) = .ok (passed.reverse ++ elements) := by
  induction elements generalizing passed with
  | nil => simp [walk]
  | cons v rest ih => simp [walk, ih]

theorem toList_ofList (elements : List Value) : toList (ofList elements) = .ok elements :=
  walk_ofList [] elements

end Value

/-- A step past a pair leaves the result of the walk as it is, and the last step gives it. -/
theorem Walk.step_eq (w : Walk) :
    w.step =
      match w.rest with
      | .pair first second => .inr ⟨first :: w.passed, second⟩
      | _ => .inl (Value.walk w.passed w.rest) := by
  obtain ⟨passed, rest⟩ := w
  cases rest <;> rfl

end RuntimeValues

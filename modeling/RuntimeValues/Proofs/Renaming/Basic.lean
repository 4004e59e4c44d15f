import RuntimeValues.Proofs.Scope.Basic

/-!
# Renaming functions

An identity says which function a value is and nothing else. Here every part of a
configuration is given other identities by one map, and the operations on values are shown to
work alike before and after: they look at the kind of a value and at its members, and the only
one that compares identities needs the map to be injective. Texts and errors mention no
identity at all.
-/

namespace RuntimeValues

set_option autoImplicit false

variable {r : FunctionId → FunctionId}

/-- The value with the identity `r f` in place of `f`. -/
def Value.rename (r : FunctionId → FunctionId) : Value → Value
  | pair first second => pair (first.rename r) (second.rename r)
  | function f => function (r f)
  | number n => number n
  | boolean b => boolean b
  | null => null

def Env.rename (r : FunctionId → FunctionId) (env : Env) : Env :=
  env.map fun entry => (entry.1, entry.2.rename r)

def Body.rename (r : FunctionId → FunctionId) : Body → Body
  | closure env param program => closure (Env.rename r env) param program
  | pairWith first => pairWith (first.rename r)
  | unbound => unbound
  | builtin b => builtin b

def Cell.rename (r : FunctionId → FunctionId) (c : Cell) : Cell where
  body := c.body.rename r
  rebound := c.rebound.map (Body.rename r)
  callsInFlight := c.callsInFlight

def Slot.rename (r : FunctionId → FunctionId) (slot : Slot) : Slot := ⟨slot.function.rename r⟩

/-- Errors mention no identity. -/
def Outcome.rename (r : FunctionId → FunctionId) (outcome : Outcome Value) : Outcome Value :=
  outcome.map (Value.rename r)

def Control.rename (r : FunctionId → FunctionId) : Control → Control
  | eval env program => eval (Env.rename r env) program
  | give outcome => give (Outcome.rename r outcome)

def Frame.rename (r : FunctionId → FunctionId) : Frame → Frame
  | unary op => unary op
  | binaryLeft op env right => binaryLeft op (Env.rename r env) right
  | binaryRight op left => binaryRight op (left.rename r)
  | callee env operand => callee (Env.rename r env) operand
  | argument function => argument (function.rename r)
  | leave f => leave (r f)
  | rebind body => rebind (body.rename r)
  | letIn env name body => letIn (Env.rename r env) name body
  | andThen env second => andThen (Env.rename r env) second
  | iterate count env name body => iterate count (Env.rename r env) name body
  | ifThenElse env yes no => ifThenElse (Env.rename r env) yes no
  | attempt env handler => attempt (Env.rename r env) handler
  | restate => restate
  | amend change => amend change

namespace Value

@[simp] theorem kind_rename (v : Value) : (v.rename r).kind = v.kind := by
  cases v <;> rfl

@[simp] theorem mismatch_rename (v : Value) (operation : Operation) :
    (v.rename r).mismatch operation = v.mismatch operation := by
  simp only [mismatch, kind_rename]

@[simp] theorem isNull_rename (v : Value) : (v.rename r).isNull = v.isNull := by
  cases v <;> rfl

@[simp] theorem getNumber_rename (v : Value) : (v.rename r).getNumber = v.getNumber := by
  cases v <;> rfl

@[simp] theorem getBoolean_rename (v : Value) : (v.rename r).getBoolean = v.getBoolean := by
  cases v <;> rfl

theorem getFirst_rename (v : Value) :
    (v.rename r).getFirst = Outcome.rename r v.getFirst := by
  cases v <;> rfl

theorem getSecond_rename (v : Value) :
    (v.rename r).getSecond = Outcome.rename r v.getSecond := by
  cases v <;> rfl

@[simp] theorem text_rename (v : Value) : (v.rename r).text = v.text := by
  induction v with
  | pair first second hfirst hsecond => simp only [rename, text, hfirst, hsecond]
  | number _ | boolean _ | null | function _ => rfl

theorem improperTail_rename (count : Nat) (v : Value) :
    improperTail count (v.rename r) = improperTail count v := by
  simp only [improperTail, mismatch_rename, serialize_eq_text, text_rename]

theorem ofList_rename (elements : List Value) :
    (ofList elements).rename r = ofList (elements.map (rename r)) := by
  induction elements with
  | nil => rfl
  | cons v rest ih => simp only [ofList_cons, rename, ih, List.map_cons]

theorem walk_rename (passed : List Value) (v : Value) :
    walk (passed.map (rename r)) (v.rename r) = (walk passed v).map (List.map (rename r)) := by
  induction v generalizing passed with
  | null => simp [rename, walk, Except.map]
  | pair first second _ ih => exact ih (first :: passed)
  | number _ | boolean _ => simp only [rename, walk, Except.map, List.length_map]
  | function f =>
    simp only [rename, walk, Except.map, List.length_map]
    exact congrArg Except.error (improperTail_rename (r := r) passed.length (function f))

theorem toList_rename (v : Value) :
    (v.rename r).toList = v.toList.map (List.map (rename r)) := walk_rename [] v

theorem identical_rename (hr : Function.Injective r) (v w : Value) :
    (v.rename r).identical (w.rename r) = v.identical w := by
  cases v <;> cases w <;> simp only [rename, identical]
  rw [decide_eq_decide.mpr hr.eq_iff]

end Value

theorem Env.lookup_rename (env : Env) (name : String) :
    (Env.rename r env).lookup name = (env.lookup name).map (Value.rename r) := by
  induction env with
  | nil => rfl
  | cons entry rest ih =>
    obtain ⟨bound, v⟩ := entry
    simp only [rename, List.map_cons, List.lookup_cons] at ih ⊢
    split
    · rfl
    · exact ih

/-- An operation on one value works alike if it does not ask about a function, or if the
functions that correspond are rebound alike. -/
theorem UnaryOp.apply_rename {s t : Store} (h : ∀ f, (s.cell (r f)).isRebound = (t.cell f).isRebound)
    (op : UnaryOp) (v : Value) : op.apply s (v.rename r) = Outcome.rename r (op.apply t v) := by
  cases op with
  | getFirst => exact Value.getFirst_rename v
  | getSecond => exact Value.getSecond_rename v
  | getNumber | getBoolean | isNull => cases v <;> rfl
  | isRebound =>
    cases v with
    | function f => simp [apply, Value.rename, Value.asFunction, Except.map, Outcome.rename, h f]
    | _ => rfl
  | relist | reverse | length =>
    simp only [apply, Value.toList_rename, Outcome.rename]
    cases v.toList with
    | error e => rfl
    | ok elements => simp [Except.map, Value.ofList_rename, Value.rename]

theorem BinaryOp.onNumbers_rename (left right : Value) {f : Int → Int → Outcome Value}
    (hf : ∀ m n, Outcome.rename r (f m n) = f m n) :
    onNumbers (left.rename r) (right.rename r) f = Outcome.rename r (onNumbers left right f) := by
  simp only [onNumbers, Value.getNumber_rename]
  split
  · rfl
  · split
    · rfl
    · exact (hf _ _).symm

theorem BinaryOp.checked_rename (n : Int) : Outcome.rename r (checked n) = checked n := by
  simp only [checked]
  split <;> rfl

theorem BinaryOp.apply_rename (hr : Function.Injective r) (op : BinaryOp) (left right : Value) :
    op.apply (left.rename r) (right.rename r) = Outcome.rename r (op.apply left right) := by
  cases op with
  | pair => rfl
  | add | subtract | multiply =>
    simp only [apply]
    exact onNumbers_rename left right fun m n => checked_rename _
  | equal | less =>
    simp only [apply]
    exact onNumbers_rename left right fun m n => rfl
  | same =>
    simp only [apply, Value.identical_rename hr]
    cases left.identical right <;> rfl

theorem Builtin.named_rename (b : Builtin) (outcome : Outcome Value) :
    b.named (Outcome.rename r outcome) = Outcome.rename r (b.named outcome) := by
  cases outcome <;> rfl

theorem Cell.active_rename (c : Cell) : (c.rename r).active = c.active.rename r := by
  obtain ⟨body, rebound, n⟩ := c
  cases rebound <;> rfl

theorem Cell.isRebound_rename (c : Cell) : (c.rename r).isRebound = c.isRebound := by
  simp only [isRebound, rename, Option.isSome_map]

theorem Cell.rebind_rename (c : Cell) (body : Body) :
    (c.rename r).rebind (body.rename r) = (c.rebind body).map (Cell.rename r) := by
  have hcalls : (c.rename r).callsInFlight = c.callsInFlight := rfl
  simp only [rebind, isRebound_rename, hcalls]
  split
  · rfl
  · split <;> rfl

section Scope

variable {scope : Scope}

theorem Value.rename_of_within (hr : ∀ f, scope.functions f → r f = f) {v : Value}
    (hv : v.Within scope) : v.rename r = v := by
  induction v with
  | pair first second hfirst hsecond => simp only [rename, hfirst hv.1, hsecond hv.2]
  | function f => simp only [rename, hr f hv]
  | number _ | boolean _ | null => rfl

theorem Env.rename_of_within (hr : ∀ f, scope.functions f → r f = f) {env : Env}
    (henv : Env.Within scope env) : Env.rename r env = env := by
  refine (List.map_congr_left fun entry hentry => ?_).trans (List.map_id env)
  rw [Value.rename_of_within hr (henv entry hentry)]
  rfl

theorem Body.rename_of_within (hr : ∀ f, scope.functions f → r f = f) {body : Body}
    (hbody : body.Within scope) : body.rename r = body := by
  cases body with
  | closure env param program => rw [rename, Env.rename_of_within hr hbody.1]
  | pairWith first => rw [rename, Value.rename_of_within hr hbody]
  | unbound | builtin _ => rfl

theorem Cell.rename_of_within (hr : ∀ f, scope.functions f → r f = f) {c : Cell}
    (hc : c.Within scope) : c.rename r = c := by
  obtain ⟨body, rebound, n⟩ := c
  have hbody : body.rename r = body := Body.rename_of_within hr hc.1
  have hrebound : rebound.map (Body.rename r) = rebound := by
    cases rebound with
    | none => rfl
    | some replacement =>
      exact congrArg some (Body.rename_of_within hr (hc.2 replacement rfl))
  simp only [rename, hbody, hrebound]

theorem Value.within_rename (hr : ∀ f, scope.functions (r f)) (v : Value) :
    (v.rename r).Within scope := by
  induction v with
  | pair first second hfirst hsecond => exact ⟨hfirst, hsecond⟩
  | function f => exact hr f
  | number _ | boolean _ | null => trivial

theorem Env.within_rename (hr : ∀ f, scope.functions (r f)) (env : Env) :
    Env.Within scope (Env.rename r env) := by
  intro entry hentry
  obtain ⟨old, -, rfl⟩ := List.mem_map.mp hentry
  exact old.2.within_rename hr

theorem Body.within_rename (hr : ∀ f, scope.functions (r f)) (hforms : ∀ e, scope.forms e)
    (body : Body) : (body.rename r).Within scope := by
  cases body with
  | closure env param program =>
    exact ⟨Env.within_rename hr env, program.within_of_forms hforms⟩
  | pairWith first => exact first.within_rename hr
  | unbound | builtin _ => trivial

theorem Cell.within_rename (hr : ∀ f, scope.functions (r f)) (hforms : ∀ e, scope.forms e)
    (c : Cell) : (c.rename r).Within scope := by
  refine ⟨c.body.within_rename hr hforms, fun body hbody => ?_⟩
  obtain ⟨old, -, rfl⟩ := Option.map_eq_some_iff.mp hbody
  exact old.within_rename hr hforms

end Scope

end RuntimeValues

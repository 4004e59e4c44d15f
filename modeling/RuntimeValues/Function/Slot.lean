import RuntimeValues.Function.Store

/-!
# Binding bodies

A function can be declared before its body is known. Binding its slot gives it the body and
is written down. A recursive function is declared, handed to the maker of its body and bound
at once, so nobody meets it without a body.
-/

namespace RuntimeValues

set_option autoImplicit false

/-- Gives the function of a slot its body. What is not a function has no body to give. -/
def Slot.bind (slot : Slot) (body : Body) (s : Store) : Outcome Unit × Store :=
  match slot.function.asFunction with
  | .error e => (.error e, s)
  | .ok f =>
    match s.rebind f body with
    | (.ok _, after) => (.ok (), after.record .bound)
    | (.error e, after) => (.error e, after)

theorem Slot.bind_of_ok {f : FunctionId} {body : Body} {s : Store} {after : Cell}
    (h : (s.cell f).rebind body = .ok after) :
    Slot.bind ⟨.function f⟩ body s = (.ok (), (s.modify f fun _ => after).record .bound) := by
  simp [bind, Value.asFunction, Store.rebind, h]

theorem Slot.bind_of_refused {f : FunctionId} {body : Body} {s : Store} {reason : Refusal}
    (h : (s.cell f).rebind body = .error reason) :
    Slot.bind ⟨.function f⟩ body s = (.error reason.error, s.record (.rejected reason)) := by
  simp [bind, Value.asFunction, Store.rebind, h]

theorem Slot.bind_of_mismatch {v : Value} {body : Body} {s : Store}
    (h : ∀ f, v ≠ .function f) : Slot.bind ⟨v⟩ body s = (.error (v.mismatch .call), s) := by
  cases v <;> simp_all [bind, Value.asFunction]

namespace Store

/-- A new function without a body, as the slot for binding it. -/
def declare (s : Store) : Slot × Store :=
  let (f, after) := s.allocate .unbound
  (⟨.function f⟩, after)

/-- A new function whose body is made from the function itself. -/
def makeRecursive (s : Store) (body : Value → Body) : Outcome Value × Store :=
  let (slot, declared) := s.declare
  match slot.bind (body slot.function) declared with
  | (.ok _, after) => (.ok slot.function, after)
  | (.error e, after) => (.error e, after)

end Store

/-- A function that has just been declared gets its body, since no call of it can have started. -/
theorem Slot.bind_declared (s : Store) (body : Body) :
    Slot.bind ⟨.function s.cells.size⟩ body (s.allocate .unbound).2 =
      (.ok (), ((s.allocate .unbound).2.modify s.cells.size fun c =>
        { c with rebound := some body }).record .bound) := by
  have hcell : (s.allocate .unbound).2.cell s.cells.size = ⟨.unbound, none, 0⟩ := by
    rw [Store.cell_allocate, if_pos rfl]
  have hrebind : ((s.allocate .unbound).2.cell s.cells.size).rebind body =
      .ok { (s.allocate .unbound).2.cell s.cells.size with rebound := some body } := by
    rw [Cell.rebind_eq_ok_iff, hcell]
    simp
  rw [Slot.bind_of_ok hrebind, Store.modify_const _ _ fun c => { c with rebound := some body }]

/-- A recursive function always gets its body. -/
theorem Store.makeRecursive_eq (s : Store) (body : Value → Body) :
    s.makeRecursive body =
      (.ok (.function s.cells.size),
        ((s.allocate .unbound).2.modify s.cells.size fun c =>
          { c with rebound := some (body (.function s.cells.size)) }).record .bound) := by
  have hbind := Slot.bind_declared s (body (.function s.cells.size))
  simp only [makeRecursive, declare]
  rw [show (s.allocate .unbound).1 = s.cells.size from rfl, hbind]

end RuntimeValues

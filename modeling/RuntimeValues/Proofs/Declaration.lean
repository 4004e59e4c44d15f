import RuntimeValues.Proofs.Call

/-!
# Declaring functions and binding their bodies

A function that was declared waits in the table of slots until its slot is bound. What is done
under other names and to other functions meanwhile leaves it waiting, so any number of functions
can be declared first, and their bodies, which may call each other, can be bound in any order.
-/

namespace RuntimeValues

set_option autoImplicit false

namespace Store

variable {s : Store} {name other : String} {f g : FunctionId} {body : Body}

/-- The store with a new function that waits for its body under the name. -/
def declareAs (s : Store) (name : String) : Store :=
  (s.allocate .unbound).2.insertSlot name ⟨.function s.cells.size⟩

/-- The store in which the function has been given the body through the slot. -/
def bindAs (s : Store) (name : String) (f : FunctionId) (body : Body) : Store :=
  ((s.eraseSlot name).modify f fun c => { c with rebound := some body }).record .bound

/-- The slot under the name belongs to a function that was declared, and nobody has called it. -/
structure Declared (s : Store) (name : String) (f : FunctionId) : Prop where
  slot : s.slot? name = some ⟨.function f⟩
  lt_size : f < s.cells.size
  cell : s.cell f = ⟨.unbound, none, 0⟩

theorem size_declareAs (s : Store) (name : String) :
    (s.declareAs name).cells.size = s.cells.size + 1 := size_allocate s .unbound

theorem declared_declareAs (s : Store) (name : String) :
    (s.declareAs name).Declared name s.cells.size where
  slot := List.lookup_cons_self
  lt_size := by
    rw [size_declareAs]
    exact Nat.lt_succ_self _
  cell := by rw [declareAs, cell_insertSlot, cell_allocate, if_pos rfl]

theorem Declared.declareAs (h : s.Declared other f) (hne : other ≠ name) :
    (s.declareAs name).Declared other f where
  slot := (slot?_insertSlot_of_ne _ hne).trans h.slot
  lt_size := by
    rw [size_declareAs]
    exact Nat.lt_succ_of_lt h.lt_size
  cell := by
    rw [Store.declareAs, cell_insertSlot, cell_allocate, if_neg (Nat.ne_of_lt h.lt_size), h.cell]

theorem cell_bindAs (hf : f < s.cells.size) : (s.bindAs name f body).cell g =
    if g = f then { s.cell g with rebound := some body } else s.cell g :=
  cell_modify (s.eraseSlot name) f g _ hf

theorem Declared.cell_bindAs (h : s.Declared name f) :
    (s.bindAs name f body).cell f = ⟨.unbound, some body, 0⟩ := by
  rw [Store.cell_bindAs h.lt_size, if_pos rfl, h.cell]

theorem Declared.bindAs (h : s.Declared other g) (hf : f < s.cells.size) (hne : other ≠ name)
    (hfg : g ≠ f) (body : Body) : (s.bindAs name f body).Declared other g where
  slot := (slot?_eraseSlot hne).trans h.slot
  lt_size := by
    rw [Store.bindAs, size_record, size_modify]
    exact h.lt_size
  cell := by rw [Store.cell_bindAs hf, if_neg hfg, h.cell]

end Store

namespace Config

variable {env : Env} {s : Store} {f : FunctionId}

theorem ends_declare (name : String) (env : Env) (s : Store) :
    Ends (.begin env (.declare name) s) (.ok (.function s.cells.size), s.declareAs name) :=
  ends_of_start rfl

/-- A function that waits for its body gets it through its slot. -/
theorem ends_bind {name : String} (h : s.Declared name f) (param : String) (program : Expr) :
    Ends (.begin env (.bind name param program) s)
      (.ok .null, s.bindAs name f (.closure env param program)) := by
  have hidle : ((s.eraseSlot name).cell f).rebind (.closure env param program) =
      .ok { (s.eraseSlot name).cell f with rebound := some (.closure env param program) } := by
    refine Cell.rebind_of_idle ?_ ?_ _ <;> rw [Store.cell_eraseSlot, h.cell]
  have hbind := Slot.bind_of_ok hidle
  rw [Store.modify_const (s.eraseSlot name) f
    fun c => { c with rebound := some (.closure env param program) }] at hbind
  refine ends_of_start ?_
  simp only [Expr.start, h.slot, hbind]
  rfl

/-- Bindings of two functions that wait for their bodies both succeed. -/
theorem ends_bind_both {name name' : String} {g : FunctionId} (hf : s.Declared name f)
    (hg : s.Declared name' g) (hname : name ≠ name') (hfg : f ≠ g) (env : Env)
    (param param' : String) (program program' : Expr) :
    ∃ t, Ends (.begin env (.andThen (.bind name param program) (.bind name' param' program')) s)
        (.ok .null, t) ∧
      (t.cell f).rebound = some (.closure env param program) ∧
      (t.cell g).rebound = some (.closure env param' program') := by
  have hlater := hg.bindAs hf.lt_size hname.symm hfg.symm (.closure env param program)
  refine ⟨_, ((ends_bind hf param program).andThen _).mpr (ends_bind hlater param' program'),
    ?_, ?_⟩
  · rw [Store.cell_bindAs hlater.lt_size, if_neg hfg, hf.cell_bindAs]
  · rw [hlater.cell_bindAs]

end Config

end RuntimeValues

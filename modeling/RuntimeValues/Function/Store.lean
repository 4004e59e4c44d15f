import RuntimeValues.Function.Cell
import RuntimeValues.Prelude.Table

/-!
# The store

The store holds all that programs change: the functions made so far, the slots through which
declared functions await their bodies, and the notices that were written. Every attempt to give
a function a body is noted, and so is building the table of the prelude, which is done once, when
it is first looked into. An identity is the place of a function in the store, so functions are
never lost and never mixed up. The `cell_` lemmas say what each operation does to the function
under each identity.
-/

namespace RuntimeValues

set_option autoImplicit false

/-- A handle for giving a function its body. -/
structure Slot where
  function : Value
deriving DecidableEq

/-- What is written down: what came of an attempt to give a function a body, and how many values
the prelude was built with. -/
inductive Notice where
  | bound
  | rejected (reason : Refusal)
  | preludeBuilt (count : Nat)
deriving DecidableEq

/-- The notice as a line of text that starts with its level. -/
def Notice.line : Notice → String
  | bound => "debug: bound a forward-declared function"
  | rejected (.callsInFlight n) =>
    "error: rebind rejected: " ++ n.repr ++ " call(s) in flight"
  | rejected .alreadyRebound => "error: rebind rejected: the function is already rebound"
  | preludeBuilt n => "debug: built " ++ n.repr ++ " prelude values"

@[simp] theorem Notice.line_bound : bound.line = "debug: bound a forward-declared function" := rfl

@[simp] theorem Notice.line_callsInFlight (n : Nat) : (rejected (.callsInFlight n)).line =
    "error: rebind rejected: " ++ n.repr ++ " call(s) in flight" := rfl

@[simp] theorem Notice.line_alreadyRebound : (rejected .alreadyRebound).line =
    "error: rebind rejected: the function is already rebound" := rfl

@[simp] theorem Notice.line_preludeBuilt (n : Nat) :
    (preludeBuilt n).line = "debug: built " ++ n.repr ++ " prelude values" := rfl

/-- All that programs change. Each slot has a name, and the newest notice is the last. -/
structure Store where
  cells : Array Cell
  slots : List (String × Slot) := []
  log : Array Notice := #[]
  /-- Whether the table of the prelude has been built. -/
  preludeBuilt : Bool := true

namespace Store

/-- The store that a program starts with: the built-in functions and nothing else. The prelude
has been built by then. -/
def initial : Store where
  cells := (Builtin.all.map fun b => ⟨.builtin b, none, 0⟩).toArray

/-- The function with this identity. -/
def cell (s : Store) (f : FunctionId) : Cell := s.cells[f]?.getD default

/-- A new function. Its identity is the number of functions there were. -/
def allocate (s : Store) (body : Body) : FunctionId × Store :=
  (s.cells.size, { s with cells := s.cells.push ⟨body, none, 0⟩ })

/-- Changes one function. -/
def modify (s : Store) (f : FunctionId) (change : Cell → Cell) : Store :=
  { s with cells := s.cells.modify f change }

/-- A call of the function starts. -/
def enter (s : Store) (f : FunctionId) : Store := s.modify f Cell.enter

/-- A call of the function ends. -/
def leave (s : Store) (f : FunctionId) : Store := s.modify f Cell.leave

def record (s : Store) (notice : Notice) : Store := { s with log := s.log.push notice }

/-- The table of the prelude is built, which is written down. -/
def buildPrelude (s : Store) : Store :=
  { s.record (.preludeBuilt Prelude.table.length) with preludeBuilt := true }

/-- The prelude is looked into. Its table is built if that has not been done yet. -/
def usePrelude (s : Store) : Store := if s.preludeBuilt then s else s.buildPrelude

/-- The slot under a name. -/
def slot? (s : Store) (name : String) : Option Slot := s.slots.lookup name

def eraseSlot (s : Store) (name : String) : Store :=
  { s with slots := s.slots.filter (·.1 ≠ name) }

/-- Puts a slot under a name, in place of the one that was there. -/
def insertSlot (s : Store) (name : String) (slot : Slot) : Store :=
  { s with slots := (name, slot) :: s.slots.filter (·.1 ≠ name) }

/-- Gives a function another body. A refusal changes no function and is written down. -/
def rebind (s : Store) (f : FunctionId) (body : Body) : Outcome Unit × Store :=
  match (s.cell f).rebind body with
  | .ok after => (.ok (), s.modify f fun _ => after)
  | .error reason => (.error reason.error, s.record (.rejected reason))

theorem mem_slots_of_slot? {s : Store} {name : String} {slot : Slot}
    (h : s.slot? name = some slot) : (name, slot) ∈ s.slots := by
  obtain ⟨first, last, hsplit, -⟩ := List.lookup_eq_some_iff.mp h
  rw [hsplit]
  exact List.mem_append_right _ List.mem_cons_self

theorem eraseSlot_of_free {s : Store} {name : String} (h : s.slot? name = none) :
    s.eraseSlot name = s := by
  have hfree : s.slots.filter (fun entry => entry.1 ≠ name) = s.slots := by
    refine List.filter_eq_self.mpr fun entry hentry => ?_
    have hne : name ≠ entry.1 := bne_iff_ne.mp (List.lookup_eq_none_iff.mp h entry hentry)
    exact decide_eq_true hne.symm
  simp only [eraseSlot, hfree]

theorem slot?_eraseSlot {s : Store} {name other : String} (h : other ≠ name) :
    (s.eraseSlot name).slot? other = s.slot? other := by
  obtain ⟨cells, slots, log, built⟩ := s
  simp only [slot?, eraseSlot]
  induction slots with
  | nil => rfl
  | cons entry rest ih =>
    by_cases hentry : entry.1 = name
    · have hother : (other == entry.1) = false := by
        rw [hentry]
        exact beq_eq_false_iff_ne.mpr h
      rw [List.filter_cons_of_neg (by simp [hentry]), List.lookup_cons, hother]
      exact ih
    · rw [List.filter_cons_of_pos (by simp [hentry]), List.lookup_cons, List.lookup_cons, ih]

theorem slot?_insertSlot_of_ne {s : Store} {name other : String} (slot : Slot)
    (h : other ≠ name) : (s.insertSlot name slot).slot? other = s.slot? other := by
  have hlookup : (s.insertSlot name slot).slot? other = (s.eraseSlot name).slot? other := by
    simp only [slot?, insertSlot, List.lookup_cons, beq_eq_false_iff_ne.mpr h]
    rfl
  rw [hlookup, slot?_eraseSlot h]

theorem cell_initial (b : Builtin) : initial.cell b.id = ⟨.builtin b, none, 0⟩ := by
  cases b <;> rfl

theorem id_lt_size_initial (b : Builtin) : b.id < initial.cells.size := by
  cases b <;> decide

theorem cell_push (s : Store) (c : Cell) (f : FunctionId) :
    cell { s with cells := s.cells.push c } f = if f = s.cells.size then c else s.cell f := by
  simp only [cell, Array.getElem?_push]
  split <;> simp_all

theorem cell_allocate (s : Store) (body : Body) (f : FunctionId) :
    (s.allocate body).2.cell f =
      if f = s.cells.size then ⟨body, none, 0⟩ else s.cell f :=
  cell_push s ⟨body, none, 0⟩ f

theorem cell_modify (s : Store) (f g : FunctionId) (change : Cell → Cell)
    (h : f < s.cells.size) :
    (s.modify f change).cell g = if g = f then change (s.cell g) else s.cell g := by
  simp only [cell, modify, Array.getElem?_modify]
  by_cases hg : g = f
  · subst hg
    simp [h]
  · simp [hg, Ne.symm hg]

/-- Writing down what a change makes of the present state is making the change. -/
theorem modify_const (s : Store) (f : FunctionId) (change : Cell → Cell) :
    s.modify f (fun _ => change (s.cell f)) = s.modify f change := by
  obtain ⟨cells, slots, log, built⟩ := s
  simp only [modify, cell, mk.injEq, and_true]
  apply Array.ext_getElem?
  intro i
  simp only [Array.getElem?_modify]
  split
  next hi =>
    subst hi
    cases cells[f]? <;> rfl
  next => rfl

/-- Changing a function that does not exist changes nothing. -/
theorem modify_of_size_le (s : Store) (f : FunctionId) (change : Cell → Cell)
    (h : s.cells.size ≤ f) : s.modify f change = s := by
  obtain ⟨cells, slots, log, built⟩ := s
  simp only [modify, mk.injEq, and_true]
  apply Array.ext_getElem?
  intro i
  rw [Array.getElem?_modify]
  split
  next hi =>
    subst hi
    rw [Array.getElem?_eq_none h]
    rfl
  next => rfl

@[simp] theorem cell_record (s : Store) (notice : Notice) (f : FunctionId) :
    (s.record notice).cell f = s.cell f := rfl

@[simp] theorem cell_buildPrelude (s : Store) (f : FunctionId) :
    s.buildPrelude.cell f = s.cell f := rfl

@[simp] theorem cell_eraseSlot (s : Store) (name : String) (f : FunctionId) :
    (s.eraseSlot name).cell f = s.cell f := rfl

@[simp] theorem cell_insertSlot (s : Store) (name : String) (slot : Slot) (f : FunctionId) :
    (s.insertSlot name slot).cell f = s.cell f := rfl

theorem cell_congr {s t : Store} (h : t.cells = s.cells) (f : FunctionId) :
    t.cell f = s.cell f := by
  simp only [cell, h]

theorem cell_of_size_le (s : Store) (f : FunctionId) (h : s.cells.size ≤ f) :
    s.cell f = default := by
  simp [cell, Array.getElem?_eq_none h]

@[simp] theorem size_allocate (s : Store) (body : Body) :
    (s.allocate body).2.cells.size = s.cells.size + 1 := by
  simp [allocate]

@[simp] theorem size_modify (s : Store) (f : FunctionId) (change : Cell → Cell) :
    (s.modify f change).cells.size = s.cells.size := by
  simp [modify]

@[simp] theorem size_enter (s : Store) (f : FunctionId) :
    (s.enter f).cells.size = s.cells.size := size_modify s f _

@[simp] theorem size_leave (s : Store) (f : FunctionId) :
    (s.leave f).cells.size = s.cells.size := size_modify s f _

@[simp] theorem size_record (s : Store) (notice : Notice) :
    (s.record notice).cells.size = s.cells.size := rfl

@[simp] theorem size_buildPrelude (s : Store) : s.buildPrelude.cells.size = s.cells.size := rfl

@[simp] theorem size_eraseSlot (s : Store) (name : String) :
    (s.eraseSlot name).cells.size = s.cells.size := rfl

@[simp] theorem size_insertSlot (s : Store) (name : String) (slot : Slot) :
    (s.insertSlot name slot).cells.size = s.cells.size := rfl

theorem usePrelude_of_built {s : Store} (h : s.preludeBuilt = true) : s.usePrelude = s := if_pos h

theorem cells_usePrelude (s : Store) : s.usePrelude.cells = s.cells := by
  rw [usePrelude]
  split <;> rfl

@[simp] theorem cell_usePrelude (s : Store) (f : FunctionId) : s.usePrelude.cell f = s.cell f :=
  cell_congr (cells_usePrelude s) f

@[simp] theorem size_usePrelude (s : Store) : s.usePrelude.cells.size = s.cells.size :=
  congrArg Array.size (cells_usePrelude s)

theorem usePrelude_enter (s : Store) (f : FunctionId) :
    (s.enter f).usePrelude = s.usePrelude.enter f := by
  obtain ⟨cells, slots, log, built⟩ := s
  cases built <;> rfl

theorem usePrelude_allocate (s : Store) (body : Body) :
    (s.allocate body).2.usePrelude = (s.usePrelude.allocate body).2 := by
  obtain ⟨cells, slots, log, built⟩ := s
  cases built <;> rfl

theorem preludeBuilt_usePrelude (s : Store) : s.usePrelude.preludeBuilt = true := by
  rw [usePrelude]
  split
  next h => exact h
  next => rfl

/-- A call that has ended leaves no trace in the counters. -/
theorem leave_enter (s : Store) (f : FunctionId) : (s.enter f).leave f = s := by
  obtain ⟨cells, slots, log, built⟩ := s
  simp only [leave, enter, modify, mk.injEq, and_true]
  apply Array.ext_getElem?
  intro i
  simp only [Array.getElem?_modify]
  split
  · cases cells[i]? <;> simp
  · rfl

end Store

end RuntimeValues

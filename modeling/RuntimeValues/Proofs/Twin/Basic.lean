import RuntimeValues.Proofs.Event.Basic

/-!
# Twin stores

A function can get its body in two ways: it is made with it, or it is declared first and gets
it later. Two stores are twins when they are equal but for one function that got its body in
these two ways. Calls of it run the same body in both stores, and no slot is left through
which anybody could try to give it a body again. So whatever does not give a body to that
very function keeps the stores twins.
-/

namespace RuntimeValues

set_option autoImplicit false

/-- The stores are equal but for the function `f`. In the first one it was declared and then
given the body `g`, in the second one it was made with that body. The notices may differ. -/
structure Store.Twins (f : FunctionId) (g : Body) (s t : Store) : Prop where
  twin : ∃ calls, s.cell f = ⟨.unbound, some g, calls⟩ ∧ t.cell f = ⟨g, none, calls⟩
  cells : ∀ k, k ≠ f → s.cell k = t.cell k
  size : s.cells.size = t.cells.size
  slots : s.slots = t.slots
  unslotted : ∀ entry ∈ s.slots, entry.2.function ≠ .function f
  preludeBuilt : s.preludeBuilt = t.preludeBuilt

/-- The store after a function was declared and given its body through its slot. -/
def Store.declareBound (s : Store) (g : Body) : Store := (s.declare.1.bind g s.declare.2).2

namespace Store.Twins

variable {f : FunctionId} {g : Body} {s t : Store}

theorem lt_size (h : Twins f g s t) : f < s.cells.size := by
  obtain ⟨calls, hcell, -⟩ := h.twin
  refine Nat.lt_of_not_le fun hle => ?_
  rw [cell_of_size_le s f hle] at hcell
  cases hcell

/-- A call starts with the same body in both stores. -/
theorem active (h : Twins f g s t) (k : FunctionId) : (s.cell k).active = (t.cell k).active := by
  by_cases hk : k = f
  · obtain ⟨calls, hs, ht⟩ := h.twin
    rw [hk, hs, ht]
    rfl
  · rw [h.cells k hk]

theorem slot? (h : Twins f g s t) (name : String) : s.slot? name = t.slot? name := by
  rw [Store.slot?, Store.slot?, h.slots]

theorem function_ne (h : Twins f g s t) {name : String} {slot : Slot}
    (hslot : s.slot? name = some slot) : slot.function ≠ .function f :=
  h.unslotted (name, slot) (mem_slots_of_slot? hslot)

theorem record (h : Twins f g s t) (first second : Notice) :
    Twins f g (s.record first) (t.record second) :=
  ⟨h.twin, h.cells, h.size, h.slots, h.unslotted, h.preludeBuilt⟩

theorem allocate (h : Twins f g s t) (body : Body) :
    Twins f g (s.allocate body).2 (t.allocate body).2 := by
  have hne : f ≠ s.cells.size := Nat.ne_of_lt h.lt_size
  refine ⟨?_, fun k hk => ?_, ?_, h.slots, h.unslotted, h.preludeBuilt⟩
  · rw [cell_allocate, cell_allocate, ← h.size, if_neg hne, if_neg hne]
    exact h.twin
  · rw [cell_allocate, cell_allocate, ← h.size, h.cells k hk]
  · rw [size_allocate, size_allocate, h.size]

/-- A change of the twin itself may depend on the counter only, and change nothing else. -/
theorem modify (h : Twins f g s t) (k : FunctionId) {change : Cell → Cell}
    (hchange : k = f → ∀ calls, ∃ calls', ∀ body rebound,
      change ⟨body, rebound, calls⟩ = ⟨body, rebound, calls'⟩) :
    Twins f g (s.modify k change) (t.modify k change) := by
  by_cases hk : k < s.cells.size
  · have hk' : k < t.cells.size := h.size ▸ hk
    refine ⟨?_, fun j hj => ?_, ?_, h.slots, h.unslotted, h.preludeBuilt⟩
    · obtain ⟨calls, hs, ht⟩ := h.twin
      rw [cell_modify s k f change hk, cell_modify t k f change hk', hs, ht]
      split
      next hf =>
        obtain ⟨calls', hcalls⟩ := hchange hf.symm calls
        exact ⟨calls', hcalls _ _, hcalls _ _⟩
      next => exact ⟨calls, rfl, rfl⟩
    · rw [cell_modify s k j change hk, cell_modify t k j change hk', h.cells j hj]
    · rw [size_modify, size_modify, h.size]
  · have hle : s.cells.size ≤ k := Nat.le_of_not_lt hk
    rw [modify_of_size_le s k change hle, modify_of_size_le t k change (h.size ▸ hle)]
    exact h

theorem eraseSlot (h : Twins f g s t) (name : String) :
    Twins f g (s.eraseSlot name) (t.eraseSlot name) := by
  refine ⟨h.twin, h.cells, h.size, ?_, fun entry hentry => ?_, h.preludeBuilt⟩
  · rw [Store.eraseSlot, Store.eraseSlot, h.slots]
  · exact h.unslotted entry (List.mem_filter.mp hentry).1

theorem insertSlot (h : Twins f g s t) (name : String) {slot : Slot}
    (hslot : slot.function ≠ .function f) :
    Twins f g (s.insertSlot name slot) (t.insertSlot name slot) := by
  refine ⟨h.twin, h.cells, h.size, ?_, fun entry hentry => ?_, h.preludeBuilt⟩
  · rw [Store.insertSlot, Store.insertSlot, h.slots]
  · rcases List.mem_cons.mp hentry with rfl | hold
    · exact hslot
    · exact h.unslotted entry (List.mem_filter.mp hold).1

end Store.Twins

/-- The event neither makes the function nor gives it a body. -/
def Event.Spares (f : FunctionId) : Event → Prop
  | created k _ _ | bound k _ => k ≠ f
  | taken _ _ | refused _ _ _ | called _ | returned _ | preludeBuilt => True

namespace Store.Twins

variable {f : FunctionId} {g : Body} {s t : Store}

theorem apply (h : Twins f g s t) {e : Event} (he : e.Spares f) :
    Twins f g (e.apply s) (e.apply t) := by
  cases e with
  | created k origin body =>
    have hnew := h.allocate body
    cases origin with
    | declared name =>
      refine hnew.insertSlot name fun hk => ?_
      cases hk
      exact he rfl
    | lambda | recursive | partialApplication => exact hnew
  | taken name slot => exact h.eraseSlot name
  | bound k body => exact (h.modify k fun hk => absurd hk he).record .bound .bound
  | refused k body reason => exact h.record _ _
  | called k => exact h.modify k fun _ calls => ⟨calls + 1, fun _ _ => rfl⟩
  | returned k => exact h.modify k fun _ calls => ⟨calls - 1, fun _ _ => rfl⟩
  | preludeBuilt =>
    exact ⟨h.twin, h.cells, h.size, h.slots, h.unslotted, rfl⟩

theorem after (h : Twins f g s t) {history : List Event} (hspares : ∀ e ∈ history, e.Spares f) :
    Twins f g (s.after history) (t.after history) := by
  induction history generalizing s t with
  | nil => exact h
  | cons e rest ih =>
    obtain ⟨he, hrest⟩ := List.forall_mem_cons.mp hspares
    exact ih (h.apply he) hrest

/-- A new function that is bound becomes the twin of one that is made with the same body. -/
theorem of_declareBound (hslots : ∀ entry ∈ s.slots, entry.2.function ≠ .function s.cells.size)
    (g : Body) : Twins s.cells.size g (s.declareBound g) (s.allocate g).2 := by
  have hrebind : ((s.allocate .unbound).2.cell s.cells.size).rebind g =
      .ok ⟨.unbound, some g, 0⟩ := by
    rw [cell_allocate, if_pos rfl]
    exact Cell.rebind_of_idle rfl rfl g
  have hbind : s.declareBound g =
      ((s.allocate .unbound).2.modify s.cells.size fun _ => ⟨.unbound, some g, 0⟩).record
        .bound := congrArg Prod.snd (Slot.bind_of_ok hrebind)
  have hsize : s.cells.size < (s.allocate .unbound).2.cells.size := by
    rw [size_allocate]
    exact Nat.lt_succ_self _
  rw [hbind]
  refine ⟨⟨0, ?_, ?_⟩, fun k hk => ?_, ?_, rfl, hslots, rfl⟩
  · rw [cell_record, cell_modify _ _ _ _ hsize, if_pos rfl]
  · rw [cell_allocate, if_pos rfl]
  · rw [cell_record, cell_modify _ _ _ _ hsize, if_neg hk, cell_allocate, cell_allocate,
      if_neg hk, if_neg hk]
  · rw [size_record, size_modify, size_allocate, size_allocate]

end Store.Twins

end RuntimeValues

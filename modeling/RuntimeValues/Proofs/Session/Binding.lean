import RuntimeValues.Proofs.Session.Identity

/-!
# Bindings that commute

What comes of binding a slot hangs on that slot and its function only, and a binding changes
nothing but these two and the log. Each slot in the table of a session belongs to a function of
its own, since the table has the last declaration under each name and every declaration makes a
function. So two bindings under different names come to the same in either order.
-/

namespace RuntimeValues

set_option autoImplicit false

/-- Takes the slot under the name and gives its function the body. -/
def Store.bindSlot (s : Store) (name : String) (body : Body) : Outcome Value × Store :=
  match s.slot? name with
  | some slot =>
    let (outcome, after) := slot.bind body (s.eraseSlot name)
    (outcome.map fun _ => .null, after)
  | none => (.error (ValueError.raised ("no slot " ++ name)), s)

theorem Expr.start_bind (env : Env) (name param : String) (program : Expr) (frames : List Frame)
    (s : Store) : (Expr.bind name param program).start env frames s =
      ⟨.give (s.bindSlot name (.closure env param program)).1, frames,
        (s.bindSlot name (.closure env param program)).2⟩ := by
  cases hslot : s.slot? name <;> simp only [start, Store.bindSlot, hslot]

/-- What comes of binding a slot: the outcome, the lines of the log, and the function that gets
its body if one does. -/
structure Binding where
  outcome : Outcome Value
  lines : List Notice := []
  bound : Option FunctionId := none

/-- The functions when the binding has been done with the body. -/
def Binding.cells (binding : Binding) (body : Body) (cells : Array Cell) : Array Cell :=
  match binding.bound with
  | some f => cells.modify f fun c => { c with rebound := some body }
  | none => cells

namespace Store

/-- What comes of binding the slot under the name, as far as it is the slot of a function. -/
def binding (s : Store) (name : String) (body : Body) : Binding :=
  match s.slot? name with
  | some ⟨.function f⟩ =>
    match (s.cell f).rebind body with
    | .ok _ => ⟨.ok .null, [.bound], some f⟩
    | .error reason => ⟨.error reason.error, [.rejected reason], none⟩
  | _ => { outcome := .error (ValueError.raised ("no slot " ++ name)) }

/-- Every slot belongs to a function, and no two slots to the same one. -/
structure SlotsApart (s : Store) : Prop where
  function : ∀ name slot, s.slot? name = some slot → ∃ f, slot = ⟨.function f⟩
  apart : ∀ name other f, s.slot? name = some ⟨.function f⟩ →
    s.slot? other = some ⟨.function f⟩ → name = other

variable {s t : Store} {name other : String} {f : FunctionId}

/-- A binding does to the store what it says, and it uses up the slot. -/
theorem bindSlot_eq (hslots : ∀ slot, s.slot? name = some slot → ∃ f, slot = ⟨.function f⟩)
    (body : Body) :
    s.bindSlot name body = ((s.binding name body).outcome,
      { cells := (s.binding name body).cells body s.cells
        slots := (s.eraseSlot name).slots
        log := s.log ++ (s.binding name body).lines.toArray
        preludeBuilt := s.preludeBuilt }) := by
  cases hslot : s.slot? name with
  | none =>
    rw [eraseSlot_of_free hslot]
    simp [bindSlot, binding, Binding.cells, hslot]
  | some slot =>
    obtain ⟨f, rfl⟩ := hslots slot hslot
    have houtcome : ((Slot.bind ⟨.function f⟩ body (s.eraseSlot name)).1.map fun _ => .null) =
        Cell.attempted ((s.cell f).rebind body) := Slot.outcome_bind (s.eraseSlot name)
    have hstore := Slot.store_bind ⟨.function f⟩ body (s.eraseSlot name)
    simp only [Slot.attempt, attempt, cell_eraseSlot] at hstore
    simp only [bindSlot, binding, hslot, houtcome, hstore]
    cases (s.cell f).rebind body <;> rfl

/-- What comes of binding a slot hangs on the slot and its function only. -/
theorem binding_congr (hslot : t.slot? name = s.slot? name)
    (hcell : ∀ f, s.slot? name = some ⟨.function f⟩ → t.cell f = s.cell f) (body : Body) :
    t.binding name body = s.binding name body := by
  simp only [binding, hslot]
  split
  next f hf => rw [hcell f hf]
  next => rfl

theorem slot?_of_bound {body : Body} (h : (s.binding name body).bound = some f) :
    s.slot? name = some ⟨.function f⟩ := by
  simp only [binding] at h
  split at h
  next g hg =>
    split at h
    · cases h
      exact hg
    · cases h
  next => cases h

/-- No function but that of the slot is changed by a binding. -/
theorem cell_bindSlot_of_ne (hapart : s.SlotsApart) (hne : s.slot? name ≠ some ⟨.function f⟩)
    (body : Body) : (s.bindSlot name body).2.cell f = s.cell f := by
  rw [bindSlot_eq (hapart.function name) body]
  simp only [cell, Binding.cells]
  split
  next g hg =>
    have hgf : g ≠ f := by
      rintro rfl
      exact hne (slot?_of_bound hg)
    rw [Array.getElem?_modify, if_neg hgf]
  next => rfl

theorem slot?_bindSlot_of_ne (hapart : s.SlotsApart) (hne : other ≠ name) (body : Body) :
    (s.bindSlot name body).2.slot? other = s.slot? other := by
  rw [bindSlot_eq (hapart.function name) body]
  exact slot?_eraseSlot hne

/-- A binding under another name finds what it would have found before. -/
theorem binding_bindSlot_of_ne (hapart : s.SlotsApart) (hne : other ≠ name) (body body' : Body) :
    (s.bindSlot name body).2.binding other body' = s.binding other body' := by
  refine binding_congr (slot?_bindSlot_of_ne hapart hne body) (fun f hf => ?_) body'
  exact cell_bindSlot_of_ne hapart (fun hname => hne (hapart.apart other name f hf hname)) body

theorem bindSlot_bindSlot_eq (hapart : s.SlotsApart) (hne : other ≠ name) (body body' : Body) :
    (s.bindSlot name body).2.bindSlot other body' = ((s.binding other body').outcome,
      { cells := (s.binding other body').cells body' ((s.binding name body).cells body s.cells)
        slots := ((s.eraseSlot name).eraseSlot other).slots
        log := s.log ++ (s.binding name body).lines.toArray ++
          (s.binding other body').lines.toArray
        preludeBuilt := s.preludeBuilt }) := by
  have hslots : ∀ slot, (s.bindSlot name body).2.slot? other = some slot →
      ∃ f, slot = ⟨.function f⟩ := by
    rw [slot?_bindSlot_of_ne hapart hne body]
    exact hapart.function other
  rw [bindSlot_eq hslots body', binding_bindSlot_of_ne hapart hne body body',
    bindSlot_eq (hapart.function name) body]
  rfl

theorem eraseSlot_comm (s : Store) (name other : String) :
    (s.eraseSlot name).eraseSlot other = (s.eraseSlot other).eraseSlot name := by
  simp only [eraseSlot, List.filter_filter, Bool.and_comm]

/-- Bindings of slots that belong to different functions change different functions. -/
theorem cells_comm (hapart : s.SlotsApart) (hne : name ≠ other) (body body' : Body)
    (cells : Array Cell) :
    (s.binding other body').cells body' ((s.binding name body).cells body cells) =
      (s.binding name body).cells body ((s.binding other body').cells body' cells) := by
  cases hf : (s.binding name body).bound with
  | none => simp only [Binding.cells, hf]
  | some f =>
    cases hg : (s.binding other body').bound with
    | none => simp only [Binding.cells, hg]
    | some g =>
      have hfg : f ≠ g := by
        rintro rfl
        exact hne (hapart.apart name other f (slot?_of_bound hf) (slot?_of_bound hg))
      simp only [Binding.cells, hf, hg]
      apply Array.ext_getElem?
      intro i
      simp only [Array.getElem?_modify]
      by_cases hi : f = i
      · subst hi
        simp [hfg.symm]
      · simp [hi]

end Store

namespace Session

variable {requests : List Request} {k : Nat}

/-- At every point of a session, each slot belongs to a function of its own. -/
theorem slotsApart_point (requests : List Request) (k : Nat) :
    (point requests k).store.SlotsApart := by
  refine ⟨fun name slot hslot => ?_, fun name other f hname hother => ?_⟩
  · obtain ⟨f, hf, -⟩ := lastDeclared_of_slot (Store.mem_slots_of_slot? hslot)
    exact ⟨f, hf⟩
  · obtain ⟨g, hg, i, -, hi, hstems, -⟩ := lastDeclared_of_slot (Store.mem_slots_of_slot? hname)
    obtain ⟨g', hg', j, -, hj, hstems', -⟩ := lastDeclared_of_slot (Store.mem_slots_of_slot? hother)
    cases hg
    cases hg'
    -- the function was declared by one step, and a step has one name to declare it with
    obtain rfl := made_unique hstems hstems'
    exact Origin.declared.inj (Point.Makes.unique hi hj)

/-- Binding two slots under different names in a state of a session comes to the same in either
order: each binding has the outcome and the lines of the log that it has when it goes first, and
afterwards the functions and the slots are the same. -/
theorem bindings_commute :
    (∀ env name param program frames s, (Expr.bind name param program).start env frames s =
      ⟨.give (s.bindSlot name (.closure env param program)).1, frames,
        (s.bindSlot name (.closure env param program)).2⟩) ∧
    ∀ requests k name name' body body' s, (point requests k).store = s → name ≠ name' →
      ∃ outcome outcome' lines lines' t t' cells slots,
        s.bindSlot name body = (outcome, t) ∧ t.log = s.log ++ lines ∧
        s.bindSlot name' body' = (outcome', t') ∧ t'.log = s.log ++ lines' ∧
        t.bindSlot name' body' = (outcome', ⟨cells, slots, t.log ++ lines', s.preludeBuilt⟩) ∧
        t'.bindSlot name body = (outcome, ⟨cells, slots, t'.log ++ lines, s.preludeBuilt⟩) := by
  refine ⟨Expr.start_bind, fun requests k name name' body body' s hs hne => ?_⟩
  have hapart : s.SlotsApart := hs ▸ slotsApart_point requests k
  have hfirst := Store.bindSlot_eq (hapart.function name) body
  have hfirst' := Store.bindSlot_eq (hapart.function name') body'
  have hsecond := Store.bindSlot_bindSlot_eq hapart hne.symm body body'
  have hsecond' := Store.bindSlot_bindSlot_eq hapart hne body' body
  rw [Store.cells_comm hapart hne.symm, Store.eraseSlot_comm] at hsecond'
  rw [hfirst] at hsecond
  rw [hfirst'] at hsecond'
  exact ⟨_, _, _, _, _, _, _, _, hfirst, rfl, hfirst', rfl, hsecond, hsecond'⟩

/-- Declares two functions, gives the first one a body behind the back of its slot and calls
it. -/
def bindsInCall : Request where
  question := .view
  program := .sequence [.declare "a", .declare "b", .rebind (.slotFunction "a") "x" .null,
    .call (.slotFunction "a") .null]
  keepAs := none

/-- In the middle of the call, the binding that is refused and the one that succeeds commute. -/
theorem bindings_commute_bindsInCall :
    ∃ t t' lines lines' cells slots,
      (point [bindsInCall] 17).store.bindSlot "a" .unbound =
        (.error (Fault.rebindDuringCall 1).error, t) ∧
      (point [bindsInCall] 17).store.bindSlot "b" .unbound = (.ok .null, t') ∧
      t.bindSlot "b" .unbound = (.ok .null, ⟨cells, slots, t.log ++ lines', true⟩) ∧
      t'.bindSlot "a" .unbound =
        (.error (Fault.rebindDuringCall 1).error, ⟨cells, slots, t'.log ++ lines, true⟩) := by
  obtain ⟨outcome, outcome', lines, lines', t, t', cells, slots, ha, -, hb, -, hab, hba⟩ :=
    bindings_commute.2 [bindsInCall] 17 "a" "b" .unbound .unbound _ rfl (by decide)
  obtain rfl : .error (Fault.rebindDuringCall 1).error = outcome := congrArg Prod.fst ha
  obtain rfl : .ok .null = outcome' := congrArg Prod.fst hb
  exact ⟨t, t', lines, lines', cells, slots, ha, hb, hab, hba⟩

end Session

end RuntimeValues

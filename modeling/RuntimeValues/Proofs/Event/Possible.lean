import RuntimeValues.Proofs.Scope.Step

/-!
# Which events happen

A configuration is well scoped when it refers to functions of its own store only. The events
of its next step are then possible one after the other. So what possible events preserve is
preserved by evaluation. `Event.onCell` says what an event
does to the function under one identity, and nothing else happens to that function.
-/

namespace RuntimeValues

set_option autoImplicit false

/-- The functions of the store, and programs of the given forms. -/
def Store.scope (s : Store) (forms : Expr → Prop) : Scope := ⟨(· < s.cells.size), forms⟩

structure Config.WellScoped (forms : Expr → Prop) (c : Config) : Prop where
  within : c.Within (c.store.scope forms)
  builtins : ∀ b : Builtin, b.id < c.store.cells.size

namespace Store

variable {s : Store} {history : List Event}

theorem size_created (s : Store) (f : FunctionId) (origin : Origin) (body : Body) :
    (Event.apply s (.created f origin body)).cells.size = s.cells.size + 1 := by
  cases origin <;> simp [Event.apply, Origin.keepSlot]

theorem size_apply (s : Store) (e : Event) :
    (e.apply s).cells.size = s.cells.size ∨ (e.apply s).cells.size = s.cells.size + 1 := by
  cases e with
  | created f origin body => exact .inr (size_created s f origin body)
  | _ => simp [Event.apply]

theorem size_le_after (s : Store) (history : List Event) :
    s.cells.size ≤ (s.after history).cells.size := by
  induction history generalizing s with
  | nil => exact Nat.le_refl _
  | cons e rest ih =>
    have hrest := ih (e.apply s)
    have hsize := size_apply s e
    rw [after_cons]
    omega

/-- The table of the prelude stays built. -/
theorem preludeBuilt_apply (e : Event) (hs : s.preludeBuilt = true) :
    (e.apply s).preludeBuilt = true := by
  cases e with
  | created f origin body => cases origin <;> exact hs
  | preludeBuilt => rfl
  | taken _ _ | bound _ _ | refused _ _ _ | called _ | returned _ => exact hs

theorem preludeBuilt_after (hs : s.preludeBuilt = true) (hallows : s.Allows history) :
    (s.after history).preludeBuilt = true :=
  after_preserves (P := fun s => s.preludeBuilt = true)
    (fun _ e hs _ => preludeBuilt_apply e hs) hs hallows

/-- The table of the prelude is not built again. -/
theorem preludeBuilt_not_mem (hs : s.preludeBuilt = true) (hallows : s.Allows history) :
    .preludeBuilt ∉ history := by
  induction history generalizing s with
  | nil => exact List.not_mem_nil
  | cons e rest ih =>
    rintro (_ | ⟨_, hrest⟩)
    · exact Bool.noConfusion (hs.symm.trans hallows.1)
    · exact ih (preludeBuilt_apply e hs) hallows.2 hrest

theorem created_lt (hallows : s.Allows history) {f : FunctionId} {origin : Origin} {body : Body}
    (h : .created f origin body ∈ history) : f < (s.after history).cells.size := by
  induction history generalizing s with
  | nil => simp at h
  | cons e rest ih =>
    rcases List.mem_cons.mp h with rfl | hrest
    · obtain rfl : f = s.cells.size := hallows.1
      have hle := size_le_after (Event.apply s (.created s.cells.size origin body)) rest
      rw [size_created] at hle
      exact hle
    · exact ih hallows.2 hrest

theorem allows_preludeEvents (s : Store) : s.Allows s.preludeEvents := by
  cases h : s.preludeBuilt
  · simp only [preludeEvents, h]
    exact ⟨h, trivial⟩
  · simp only [preludeEvents, h]
    trivial

theorem possible_attempt {f : FunctionId} (body : Body) (h : f < s.cells.size) :
    (s.attempt f body).Possible s := by
  simp only [attempt]
  split
  next after hok =>
    obtain ⟨hcalls, hrebound, -⟩ := (Cell.rebind_eq_ok_iff _ _ _).mp hok
    exact ⟨h, hcalls, hrebound⟩
  next reason hrefused => exact ⟨h, hrefused⟩

end Store

theorem Slot.allows_attempt {slot : Slot} {body : Body} {s : Store} (forms : Expr → Prop)
    (h : slot.function.Within (s.scope forms)) : s.Allows (slot.attempt body s) := by
  obtain ⟨v⟩ := slot
  cases v with
  | function f => exact ⟨Store.possible_attempt body h, trivial⟩
  | _ => trivial

namespace Config

variable {forms : Expr → Prop} {c : Config}

/-- The events of the next step are possible. -/
theorem allows_events (hc : c.WellScoped forms) : c.store.Allows c.events := by
  obtain ⟨control, frames, s⟩ := c
  rcases control with ⟨env, program⟩ | e | v
  · cases program with
    | lambda _ _ | declare _ => exact ⟨rfl, trivial⟩
    | recursive self param body =>
      refine ⟨rfl, ?_, trivial⟩
      simp only [Event.apply, Origin.keepSlot, Event.Possible, Store.size_allocate,
        Store.cell_allocate, ↓reduceIte]
      exact ⟨Nat.lt_succ_self _, trivial, trivial⟩
    | bind name param body =>
      simp only [events, Expr.events]
      split
      next slot h =>
        refine ⟨h, Slot.allows_attempt forms ?_⟩
        exact Store.within_slot? hc.within.store h
      next => trivial
    | builtin _ | prelude _ => exact Store.allows_preludeEvents s
    | _ => trivial
  · rcases frames with _ | ⟨frame, frames⟩
    · trivial
    · have hframe := hc.within.frames frame List.mem_cons_self
      cases frame with
      | leave f => exact ⟨hframe, trivial⟩
      | _ => trivial
  · rcases frames with _ | ⟨frame, frames⟩
    · trivial
    · have hframe := hc.within.frames frame List.mem_cons_self
      cases frame with
      | argument function =>
        cases function with
        | function f =>
          refine ⟨hframe, ?_⟩
          generalize (s.cell f).active = body
          rcases body with _ | _ | (_ | _ | _ | _) | _
          case builtin.pair => exact ⟨(Store.size_enter s f).symm, trivial⟩
          all_goals trivial
        | _ => trivial
      | leave f => exact ⟨hframe, trivial⟩
      | rebind body => exact Slot.allows_attempt forms hc.within.control
      | _ => trivial

end Config

/-- What the event does to the function under the identity `f`. -/
def Event.onCell (f : FunctionId) (c : Cell) : Event → Cell
  | created g _ body => if f = g then ⟨body, none, 0⟩ else c
  | bound g body => if f = g then { c with rebound := some body } else c
  | called g => if f = g then c.enter else c
  | returned g => if f = g then c.leave else c
  | taken _ _ | refused _ _ _ | preludeBuilt => c

/-- There is no function yet where one is about to be created. -/
theorem Store.cell_of_created {s : Store} {f : FunctionId} {origin : Origin} {body : Body}
    (h : Event.Possible s (.created f origin body)) : s.cell f = default := by
  rw [show f = s.cells.size from h]
  exact cell_of_size_le s _ (Nat.le_refl _)

theorem Store.cell_apply {s : Store} {e : Event} (h : e.Possible s) (f : FunctionId) :
    (e.apply s).cell f = e.onCell f (s.cell f) := by
  cases e with
  | created g origin body =>
    have hcell := cell_allocate s body f
    rw [← show g = s.cells.size from h] at hcell
    cases origin <;> exact hcell
  | bound g body => exact cell_modify s g f _ h.1
  | called g => exact cell_modify s g f _ h
  | returned g => exact cell_modify s g f _ h
  | taken _ _ | refused _ _ _ | preludeBuilt => rfl

end RuntimeValues

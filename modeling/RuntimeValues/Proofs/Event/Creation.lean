import RuntimeValues.Proofs.Event.Attempt
import RuntimeValues.Proofs.Event.Possible

/-!
# Creation

Identities are given out in increasing order, so in a history a function is created once, and
how it came to be is a fact about it for ever. `Config.Makes` says which steps make a function;
each of them makes one and hands it on.
-/

namespace RuntimeValues

set_option autoImplicit false

namespace Store

variable {s : Store} {history : List Event} {f : FunctionId} {origin : Origin} {body : Body}

theorem size_le_created (h : s.Allows history) (hcreated : .created f origin body ∈ history) :
    s.cells.size ≤ f := by
  induction history generalizing s with
  | nil => cases hcreated
  | cons e rest ih =>
    rcases List.mem_cons.mp hcreated with rfl | hrest
    · exact Nat.le_of_eq h.1.symm
    · exact Nat.le_trans (size_le_after s [e]) (ih h.2 hrest)

/-- A function is created once. -/
theorem created_unique {origin' : Origin} {body' : Body} (h : s.Allows history)
    (hfirst : .created f origin body ∈ history) (hsecond : .created f origin' body' ∈ history) :
    origin = origin' ∧ body = body' := by
  induction history generalizing s with
  | nil => cases hfirst
  | cons e rest ih =>
    -- what is created first has a smaller identity than what is created in the rest
    have hlater : ∀ {o o' : Origin} {b b' : Body}, e = .created f o b →
        .created f o' b' ∉ rest := by
      rintro o o' b b' rfl hrest
      have hle := size_le_created h.2 hrest
      rw [size_created, show f = s.cells.size from h.1] at hle
      exact absurd hle (Nat.not_succ_le_self _)
    rcases List.mem_cons.mp hfirst with hfirst | hfirst
    · rcases List.mem_cons.mp hsecond with hsecond | hsecond
      · rw [← hfirst] at hsecond
        cases hsecond
        exact ⟨rfl, rfl⟩
      · exact absurd hsecond (hlater hfirst.symm)
    · rcases List.mem_cons.mp hsecond with hsecond | hsecond
      · exact absurd hfirst (hlater hsecond.symm)
      · exact ih h.2 hfirst hsecond

/-- The first body of a function does not change. -/
theorem body_after (h : s.Allows history) (hf : f < s.cells.size) :
    ((s.after history).cell f).body = (s.cell f).body := by
  induction history generalizing s with
  | nil => rfl
  | cons e rest ih =>
    have hsize : f < (e.apply s).cells.size := by
      rcases size_apply s e with hsame | hmore
      · rw [hsame]
        exact hf
      · rw [hmore]
        exact Nat.lt_succ_of_lt hf
    rw [after_cons, ih h.2 hsize, cell_apply h.1]
    cases e with
    | created g origin body =>
      have hne : f ≠ g := by
        rw [show g = s.cells.size from h.1]
        exact Nat.ne_of_lt hf
      simp only [Event.onCell, if_neg hne]
    | bound g body | called g | returned g =>
      simp only [Event.onCell]
      split <;> rfl
    | taken _ _ | refused _ _ _ | preludeBuilt => rfl

theorem body_of_created (h : s.Allows history) (hcreated : .created f origin body ∈ history) :
    ((s.after history).cell f).body = body := by
  induction history generalizing s with
  | nil => cases hcreated
  | cons e rest ih =>
    rcases List.mem_cons.mp hcreated with rfl | hrest
    · have hsize : f < (Event.apply s (.created f origin body)).cells.size := by
        rw [size_created, show f = s.cells.size from h.1]
        exact Nat.lt_succ_self _
      rw [after_cons, body_after h.2 hsize, cell_apply h.1]
      simp only [Event.onCell, ↓reduceIte]
    · exact ih h.2 hrest

end Store

/-- The function that the event makes. -/
def Event.creation : Event → Option FunctionId
  | created f _ _ => some f
  | taken _ _ | bound _ _ | refused _ _ _ | called _ | returned _ | preludeBuilt => none

theorem Event.creation_eq_some {e : Event} {f : FunctionId} :
    e.creation = some f ↔ ∃ origin body, e = .created f origin body := by
  cases e <;> simp [creation]

/-- The functions after a history are those before it and those that were made in it. -/
theorem Store.range_size_after {s : Store} {history : List Event} (h : s.Allows history) :
    List.range (s.after history).cells.size =
      List.range s.cells.size ++ history.filterMap Event.creation := by
  induction history generalizing s with
  | nil => simp
  | cons e rest ih =>
    rw [after_cons, ih h.2]
    cases e with
    | created f origin body =>
      obtain rfl : f = s.cells.size := h.1
      simp [size_created, List.range_succ, Event.creation]
    | bound _ _ | refused _ _ _ | taken _ _ | called _ | returned _ | preludeBuilt =>
      rw [List.filterMap_cons_none rfl]
      simp [Event.apply]

theorem Store.attempt_ne_created {s : Store} {f g : FunctionId} {given body : Body}
    {origin : Origin} : s.attempt g given ≠ .created f origin body := by
  simp only [attempt]
  split <;> exact Event.noConfusion

/-- What comes with the creation of a function. A recursive one gets its body at once, and
only a declared one is left without. -/
theorem Config.created_cases {c : Config} {f : FunctionId} {origin : Origin} {body : Body}
    (h : .created f origin body ∈ c.events) :
    (origin = .lambda ∧ body ≠ .unbound) ∨ (origin = .partialApplication ∧ body ≠ .unbound) ∨
      (origin = .recursive ∧ ∃ g, .bound f g ∈ c.events) ∨
      ∃ name env, origin = .declared name ∧ c.control = .eval env (.declare name) ∧
        c.events = [.created f (.declared name) .unbound] := by
  generalize hevent : Event.created f origin body = event at h
  cases emits_of_mem h with
  | lambda =>
    obtain ⟨rfl, rfl, rfl⟩ := Event.created.inj hevent
    exact .inl ⟨rfl, Body.noConfusion⟩
  | recursive =>
    obtain ⟨rfl, rfl, rfl⟩ := Event.created.inj hevent
    exact .inr (.inr (.inl ⟨rfl, _, List.mem_cons_of_mem _ List.mem_cons_self⟩))
  | declare =>
    obtain ⟨rfl, rfl, rfl⟩ := Event.created.inj hevent
    exact .inr (.inr (.inr ⟨_, _, rfl, rfl, rfl⟩))
  | partialApplication _ =>
    obtain ⟨rfl, rfl, rfl⟩ := Event.created.inj hevent
    exact .inr (.inl ⟨rfl, Body.noConfusion⟩)
  | attempt _ => exact absurd hevent.symm Store.attempt_ne_created
  | recursiveBody | taken _ | called | returned | builtin _ | prelude _ =>
    cases hevent

namespace Config

/-- The next step makes a function: it evaluates one of the three forms that do, or it starts a
call that runs the built-in body for pairs. -/
inductive Makes : Origin → Config → Prop
  | lambda {env : Env} {param : String} {program : Expr} {frames : List Frame} {s : Store} :
      Makes .lambda ⟨.eval env (.lambda param program), frames, s⟩
  | recursive {env : Env} {self param : String} {program : Expr} {frames : List Frame}
      {s : Store} : Makes .recursive ⟨.eval env (.recursive self param program), frames, s⟩
  | declare {env : Env} {name : String} {frames : List Frame} {s : Store} :
      Makes (.declared name) ⟨.eval env (.declare name), frames, s⟩
  | partialApplication {first : Value} {f : FunctionId} {frames : List Frame} {s : Store}
      (hactive : (s.cell f).active = .builtin .pair) :
      Makes .partialApplication ⟨.give (.ok first), .argument (.function f) :: frames, s⟩

variable {c : Config} {origin : Origin}

theorem Makes.created (h : c.Makes origin) :
    ∃ body, .created c.store.cells.size origin body ∈ c.events := by
  cases h with
  | lambda | recursive | declare => exact ⟨_, List.mem_cons_self⟩
  | @partialApplication first f frames s hactive =>
    refine ⟨.pairWith first, List.mem_cons_of_mem _ ?_⟩
    rw [hactive]
    exact List.mem_cons_self

/-- A step makes one function at most. -/
theorem Makes.unique {origin' : Origin} (h : c.Makes origin) (h' : c.Makes origin') :
    origin = origin' := by
  cases h <;> cases h' <;> rfl

/-- The function that is made is what the step hands on. -/
theorem Makes.step (h : c.Makes origin) :
    ∃ next, c.step = .inr next ∧ next.control = .give (.ok (.function c.store.cells.size)) := by
  cases h with
  | lambda | declare => exact ⟨_, rfl, rfl⟩
  | recursive =>
    refine ⟨_, rfl, ?_⟩
    simp only [Expr.start, Store.makeRecursive_eq]
  | @partialApplication first f frames s hactive =>
    refine ⟨_, rfl, ?_⟩
    simp only [Frame.resume, Value.asFunction, Store.call, hactive, Body.start, Store.allocate,
      Store.size_enter]

/-- A step that creates a function is one of those that make one, and it makes no other. -/
theorem makes_of_created {f : FunctionId} {body : Body} (h : .created f origin body ∈ c.events) :
    c.Makes origin ∧ f = c.store.cells.size ∧ ∀ b, body ≠ .builtin b := by
  generalize hevent : Event.created f origin body = event at h
  cases emits_of_mem h with
  | lambda =>
    obtain ⟨rfl, rfl, rfl⟩ := Event.created.inj hevent
    exact ⟨.lambda, rfl, fun b => Body.noConfusion⟩
  | recursive =>
    obtain ⟨rfl, rfl, rfl⟩ := Event.created.inj hevent
    exact ⟨.recursive, rfl, fun b => Body.noConfusion⟩
  | declare =>
    obtain ⟨rfl, rfl, rfl⟩ := Event.created.inj hevent
    exact ⟨.declare, rfl, fun b => Body.noConfusion⟩
  | partialApplication hactive =>
    obtain ⟨rfl, rfl, rfl⟩ := Event.created.inj hevent
    exact ⟨.partialApplication hactive, rfl, fun b => Body.noConfusion⟩
  | attempt _ => exact absurd hevent.symm Store.attempt_ne_created
  | recursiveBody | taken _ | called | returned | builtin _ | prelude _ =>
    cases hevent

end Config

end RuntimeValues

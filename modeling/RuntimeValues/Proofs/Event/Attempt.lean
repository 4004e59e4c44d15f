import RuntimeValues.Proofs.Event.Basic

/-!
# Attempts to give a function a body

A program can try to give a function a body in two ways: by binding the slot of the function
and by rebinding the function itself. `Config.Attempts` covers both. What comes of an attempt
depends on the state of the function alone. `Config.Emits` says of every event which step it
comes from.
-/

namespace RuntimeValues

set_option autoImplicit false

/-- The next step tries to give the function this body. -/
inductive Config.Attempts (f : FunctionId) : Body → Config → Prop
  | bind {env : Env} {name param : String} {program : Expr} {frames : List Frame} {s : Store}
      (hslot : s.slot? name = some ⟨.function f⟩) :
      Attempts f (.closure env param program) ⟨.eval env (.bind name param program), frames, s⟩
  | rebind {body : Body} {frames : List Frame} {s : Store} :
      Attempts f body ⟨.give (.ok (.function f)), .rebind body :: frames, s⟩

def Event.TellsOfAttempt : Event → Prop
  | bound _ _ | refused _ _ _ => True
  | created _ _ _ | taken _ _ | called _ | returned _ | preludeBuilt => False

theorem Slot.mem_attempt {slot : Slot} {body : Body} {s : Store} {event : Event} :
    event ∈ slot.attempt body s ↔ ∃ f, slot = ⟨.function f⟩ ∧ event = s.attempt f body := by
  obtain ⟨v⟩ := slot
  cases v with
  | function f => simp [attempt]
  | _ => simp [attempt]

/-- What comes of an attempt: the value null, or the error of the refusal. -/
def Cell.attempted : Except Refusal Cell → Outcome Value
  | .ok _ => .ok .null
  | .error reason => .error reason.error

theorem Slot.outcome_bind {f : FunctionId} {body : Body} (s : Store) :
    ((Slot.bind ⟨.function f⟩ body s).1.map fun _ => Value.null) =
      Cell.attempted ((s.cell f).rebind body) := by
  cases h : (s.cell f).rebind body with
  | ok after =>
    rw [bind_of_ok h]
    rfl
  | error reason =>
    rw [bind_of_refused h]
    rfl

namespace Store

variable {s : Store} {f : FunctionId} {body : Body}

theorem attempt_of_ok {after : Cell} (h : (s.cell f).rebind body = .ok after) :
    s.attempt f body = .bound f body := by
  simp [attempt, h]

theorem attempt_of_refused {reason : Refusal} (h : (s.cell f).rebind body = .error reason) :
    s.attempt f body = .refused f body reason := by
  simp [attempt, h]

theorem bound_eq_attempt {g : FunctionId} {given : Body} (h : .bound g given = s.attempt f body) :
    g = f ∧ given = body ∧ (s.cell f).callsInFlight = 0 ∧ (s.cell f).rebound = none := by
  cases hrebind : (s.cell f).rebind body with
  | ok after =>
    obtain ⟨hcalls, hrebound, -⟩ := (Cell.rebind_eq_ok_iff _ _ _).mp hrebind
    rw [attempt_of_ok hrebind] at h
    cases h
    exact ⟨rfl, rfl, hcalls, hrebound⟩
  | error reason =>
    rw [attempt_of_refused hrebind] at h
    cases h

theorem refused_eq_attempt {g : FunctionId} {given : Body} {reason : Refusal}
    (h : .refused g given reason = s.attempt f body) :
    g = f ∧ given = body ∧ (s.cell f).rebind body = .error reason := by
  cases hrebind : (s.cell f).rebind body with
  | ok after =>
    rw [attempt_of_ok hrebind] at h
    cases h
  | error reason' =>
    rw [attempt_of_refused hrebind] at h
    cases h
    exact ⟨rfl, rfl, rfl⟩

end Store

namespace Config

variable {c : Config} {f : FunctionId} {body : Body}

theorem Attempts.mem_events (hc : c.Attempts f body) : c.store.attempt f body ∈ c.events := by
  cases hc with
  | bind hslot =>
    simp only [events, Expr.events, hslot]
    exact List.mem_cons_of_mem _ (Slot.mem_attempt.mpr ⟨f, rfl, rfl⟩)
  | rebind => exact Slot.mem_attempt.mpr ⟨f, rfl, rfl⟩

/-- What an attempt hands on is decided by the state of the function. -/
theorem Attempts.step (hc : c.Attempts f body) :
    ∃ next, c.step = .inr next ∧
      next.control = .give (Cell.attempted ((c.store.cell f).rebind body)) := by
  cases hc with
  | bind hslot =>
    refine ⟨_, rfl, ?_⟩
    simp only [Expr.start, hslot]
    exact congrArg Control.give (Slot.outcome_bind _)
  | rebind => exact ⟨_, rfl, congrArg Control.give (Slot.outcome_bind _)⟩

/-- An attempt that is refused changes no function. -/
theorem Attempts.cells_of_refused {reason : Refusal} (hc : c.Attempts f body)
    (h : (c.store.cell f).rebind body = .error reason) :
    (c.store.after c.events).cells = c.store.cells := by
  cases hc with
  | @bind env name param program frames s hslot =>
    have hattempt : (s.eraseSlot name).attempt f (.closure env param program) =
        .refused f (.closure env param program) reason := Store.attempt_of_refused h
    simp only [events, Expr.events, hslot, Slot.attempt, hattempt]
    rfl
  | @rebind _ frames s =>
    have hattempt : s.attempt f body = .refused f body reason := Store.attempt_of_refused h
    simp only [events, Frame.events, Slot.attempt, hattempt]
    rfl

/-- The ways in which an event comes about. -/
inductive Emits : Config → Event → Prop
  | lambda {env : Env} {param : String} {program : Expr} {frames : List Frame} {s : Store} :
      Emits ⟨.eval env (.lambda param program), frames, s⟩
        (.created s.cells.size .lambda (.closure env param program))
  | recursive {env : Env} {self param : String} {program : Expr} {frames : List Frame}
      {s : Store} :
      Emits ⟨.eval env (.recursive self param program), frames, s⟩
        (.created s.cells.size .recursive .unbound)
  | recursiveBody {env : Env} {self param : String} {program : Expr} {frames : List Frame}
      {s : Store} :
      Emits ⟨.eval env (.recursive self param program), frames, s⟩
        (.bound s.cells.size (.closure ((self, .function s.cells.size) :: env) param program))
  | declare {env : Env} {name : String} {frames : List Frame} {s : Store} :
      Emits ⟨.eval env (.declare name), frames, s⟩
        (.created s.cells.size (.declared name) .unbound)
  | taken {env : Env} {name param : String} {program : Expr} {frames : List Frame} {s : Store}
      {slot : Slot} (hslot : s.slot? name = some slot) :
      Emits ⟨.eval env (.bind name param program), frames, s⟩ (.taken name slot)
  | attempt {c : Config} {f : FunctionId} {body : Body} (hattempts : c.Attempts f body) :
      Emits c (c.store.attempt f body)
  | called {v : Value} {f : FunctionId} {frames : List Frame} {s : Store} :
      Emits ⟨.give (.ok v), .argument (.function f) :: frames, s⟩ (.called f)
  | partialApplication {v : Value} {f : FunctionId} {frames : List Frame} {s : Store}
      (hactive : (s.cell f).active = .builtin .pair) :
      Emits ⟨.give (.ok v), .argument (.function f) :: frames, s⟩
        (.created s.cells.size .partialApplication (.pairWith v))
  | returned {outcome : Outcome Value} {f : FunctionId} {frames : List Frame} {s : Store} :
      Emits ⟨.give outcome, .leave f :: frames, s⟩ (.returned f)
  | builtin {env : Env} {b : Builtin} {frames : List Frame} {s : Store}
      (hbuilt : s.preludeBuilt = false) : Emits ⟨.eval env (.builtin b), frames, s⟩ .preludeBuilt
  | prelude {env : Env} {name : String} {frames : List Frame} {s : Store}
      (hbuilt : s.preludeBuilt = false) : Emits ⟨.eval env (.prelude name), frames, s⟩ .preludeBuilt

theorem emits_of_mem {event : Event} (h : event ∈ c.events) : c.Emits event := by
  obtain ⟨control, frames, s⟩ := c
  rcases control with ⟨env, program⟩ | e | v
  · cases program with
    | lambda param program =>
      obtain rfl := List.mem_singleton.mp h
      exact .lambda
    | declare name =>
      obtain rfl := List.mem_singleton.mp h
      exact .declare
    | recursive self param program =>
      rcases List.mem_cons.mp h with rfl | hbound
      · exact .recursive
      · obtain rfl := List.mem_singleton.mp hbound
        exact .recursiveBody
    | bind name param program =>
      simp only [events, Expr.events] at h
      split at h
      next slot hslot =>
        rcases List.mem_cons.mp h with rfl | hattempt
        · exact .taken hslot
        · obtain ⟨g, rfl, rfl⟩ := Slot.mem_attempt.mp hattempt
          exact .attempt (.bind hslot)
      next => cases h
    | builtin b =>
      obtain ⟨rfl, hbuilt⟩ := Store.mem_preludeEvents.mp h
      exact .builtin hbuilt
    | prelude name =>
      obtain ⟨rfl, hbuilt⟩ := Store.mem_preludeEvents.mp h
      exact .prelude hbuilt
    | _ => cases h
  · rcases frames with _ | ⟨frame, frames⟩
    · cases h
    · cases frame with
      | leave g =>
        obtain rfl := List.mem_singleton.mp h
        exact .returned
      | _ => cases h
  · rcases frames with _ | ⟨frame, frames⟩
    · cases h
    · cases frame with
      | argument function =>
        cases function with
        | function g =>
          rcases List.mem_cons.mp h with rfl | hbody
          · exact .called
          · generalize hactive : (s.cell g).active = given at hbody
            rcases given with _ | _ | (_ | _ | _ | _) | _
            case builtin.pair =>
              obtain rfl := List.mem_singleton.mp hbody
              exact .partialApplication hactive
            all_goals cases hbody
        | _ => cases h
      | leave g =>
        obtain rfl := List.mem_singleton.mp h
        exact .returned
      | rebind given =>
        obtain ⟨g, hslot, rfl⟩ := Slot.mem_attempt.mp h
        cases hslot
        exact .attempt .rebind
      | _ => cases h

/-- An event that tells of an attempt comes from one, but for recursive functions: they get
their body where they are made. -/
theorem attempts_of_event {event : Event} (h : event ∈ c.events) (htells : event.TellsOfAttempt) :
    (∃ g given, c.Attempts g given ∧ event = c.store.attempt g given) ∨
      ∃ env self param program frames s given,
        c = ⟨.eval env (.recursive self param program), frames, s⟩ ∧
          event = .bound s.cells.size given := by
  cases emits_of_mem h with
  | attempt hattempts => exact .inl ⟨_, _, hattempts, rfl⟩
  | recursiveBody => exact .inr ⟨_, _, _, _, _, _, _, rfl, rfl⟩
  | lambda | recursive | declare | taken _ | called | partialApplication _ | returned
  | builtin _ | prelude _ => exact htells.elim

theorem attempts_of_refused {reason : Refusal} (h : .refused f body reason ∈ c.events) :
    c.Attempts f body ∧ (c.store.cell f).rebind body = .error reason := by
  rcases attempts_of_event h trivial with ⟨g, given, hattempts, hevent⟩ |
    ⟨_, _, _, _, _, _, _, _, hevent⟩
  · obtain ⟨rfl, rfl, hrefused⟩ := Store.refused_eq_attempt hevent
    exact ⟨hattempts, hrefused⟩
  · cases hevent

/-- A function is given a body by an attempt, or because it is made with one to come. -/
theorem attempts_of_bound (h : .bound f body ∈ c.events) :
    (c.Attempts f body ∧ (c.store.cell f).callsInFlight = 0 ∧ (c.store.cell f).rebound = none) ∨
      ∃ env self param program frames s,
        c = ⟨.eval env (.recursive self param program), frames, s⟩ ∧ f = s.cells.size := by
  rcases attempts_of_event h trivial with ⟨g, given, hattempts, hevent⟩ |
    ⟨_, _, _, _, _, _, _, hc, hevent⟩
  · obtain ⟨rfl, rfl, hcalls, hrebound⟩ := Store.bound_eq_attempt hevent
    exact .inl ⟨hattempts, hcalls, hrebound⟩
  · cases hevent
    exact .inr ⟨_, _, _, _, _, _, hc, rfl⟩

end Config

end RuntimeValues

import RuntimeValues.Program.Machine

/-!
# Events

What a step of the machine does to the store, as a list of events. `Config.events` reads the
events off a configuration before the step, and `store_step` says that applying them to the
store gives the store after the step. So an invariant of the store needs one case for each
event and not one for each form of program. Whether an event can happen in a store at all is
said by `Event.Possible`.
-/

namespace RuntimeValues

set_option autoImplicit false

/-- How a function came to be. -/
inductive Origin where
  | lambda
  | recursive
  /-- Declared, with its slot put under this name. -/
  | declared (slot : String)
  /-- Made by a call of the built-in function `pair`. -/
  | partialApplication
deriving DecidableEq

inductive Event where
  | created (f : FunctionId) (origin : Origin) (body : Body)
  /-- A slot was taken from under its name to be bound. -/
  | taken (name : String) (slot : Slot)
  /-- An attempt to give a function its second body succeeded. -/
  | bound (f : FunctionId) (body : Body)
  /-- An attempt to give a function its second body was refused. -/
  | refused (f : FunctionId) (body : Body) (reason : Refusal)
  /-- A call started. -/
  | called (f : FunctionId)
  /-- A call ended, with a value or with an error. -/
  | returned (f : FunctionId)
  /-- The table of the prelude was built. -/
  | preludeBuilt

/-- The slot of a declared function is put under its name. -/
def Origin.keepSlot (f : FunctionId) (s : Store) : Origin → Store
  | declared name => s.insertSlot name ⟨.function f⟩
  | lambda | recursive | partialApplication => s

namespace Event

def apply (s : Store) : Event → Store
  | created f origin body => origin.keepSlot f (s.allocate body).2
  | taken name _ => s.eraseSlot name
  | bound f body => (s.modify f fun c => { c with rebound := some body }).record .bound
  | refused _ _ reason => s.record (.rejected reason)
  | called f => s.enter f
  | returned f => s.leave f
  | preludeBuilt => s.buildPrelude

/-- Whether the event can happen in the store. Only functions of the store take part, an attempt
succeeds or is refused as the state of its function demands, and the prelude is built once. -/
def Possible (s : Store) : Event → Prop
  | created f _ _ => f = s.cells.size
  | taken name slot => s.slot? name = some slot
  | bound f _ =>
    f < s.cells.size ∧ (s.cell f).callsInFlight = 0 ∧ (s.cell f).rebound = none
  | refused f body reason => f < s.cells.size ∧ (s.cell f).rebind body = .error reason
  | called f => f < s.cells.size
  | returned f => f < s.cells.size
  | preludeBuilt => s.preludeBuilt = false

end Event

/-- The event of trying to give a function a body. -/
def Store.attempt (s : Store) (f : FunctionId) (body : Body) : Event :=
  match (s.cell f).rebind body with
  | .ok _ => .bound f body
  | .error reason => .refused f body reason

/-- What is not a function is not attempted to bind. -/
def Slot.attempt (slot : Slot) (body : Body) (s : Store) : List Event :=
  match slot.function with
  | .function f => [s.attempt f body]
  | _ => []

/-- The events of looking into the prelude. -/
def Store.preludeEvents (s : Store) : List Event := if s.preludeBuilt then [] else [.preludeBuilt]

def Expr.events (env : Env) (s : Store) : Expr → List Event
  | lambda param body => [.created s.cells.size .lambda (.closure env param body)]
  | recursive self param body =>
    [.created s.cells.size .recursive .unbound,
      .bound s.cells.size (.closure ((self, .function s.cells.size) :: env) param body)]
  | declare name => [.created s.cells.size (.declared name) .unbound]
  | bind name param body =>
    match s.slot? name with
    | some slot => .taken name slot :: slot.attempt (.closure env param body) (s.eraseSlot name)
    | none => []
  | builtin _ | prelude _ => s.preludeEvents
  | _ => []

def Body.events (argument : Value) (s : Store) : Body → List Event
  | builtin .pair => [.created s.cells.size .partialApplication (.pairWith argument)]
  | _ => []

/-- The events of a frame that gets a value. -/
def Frame.events (v : Value) (s : Store) : Frame → List Event
  | argument (.function f) => .called f :: (s.cell f).active.events v s
  | leave f => [.returned f]
  | rebind body => Slot.attempt ⟨v⟩ body s
  | _ => []

/-- The events of the next step. -/
def Config.events : Config → List Event
  | ⟨.eval env program, _, s⟩ => program.events env s
  | ⟨.give (.ok v), frame :: _, s⟩ => frame.events v s
  | ⟨.give (.error _), .leave f :: _, _⟩ => [.returned f]
  | _ => []

namespace Store

/-- The store after some events. -/
def after (s : Store) (history : List Event) : Store := history.foldl Event.apply s

/-- Whether the events can happen one after the other. -/
def Allows (s : Store) : List Event → Prop
  | [] => True
  | e :: rest => e.Possible s ∧ (e.apply s).Allows rest

@[simp] theorem after_nil (s : Store) : s.after [] = s := rfl

@[simp] theorem after_cons (s : Store) (e : Event) (rest : List Event) :
    s.after (e :: rest) = (e.apply s).after rest := rfl

theorem after_append (s : Store) (first second : List Event) :
    s.after (first ++ second) = (s.after first).after second := List.foldl_append

theorem allows_append {s : Store} {first second : List Event} (hfirst : s.Allows first)
    (hsecond : (s.after first).Allows second) : s.Allows (first ++ second) := by
  induction first generalizing s with
  | nil => exact hsecond
  | cons e rest ih => exact ⟨hfirst.1, ih hfirst.2 hsecond⟩

/-- What every possible event preserves is preserved by a history. -/
theorem after_preserves {P : Store → Prop}
    (hstep : ∀ s e, P s → Event.Possible s e → P (e.apply s))
    {s : Store} {history : List Event} (hs : P s) (hallows : s.Allows history) :
    P (s.after history) := by
  induction history generalizing s with
  | nil => exact hs
  | cons e rest ih => exact ih (hstep s e hs hallows.1) hallows.2

end Store

/-- What the event writes down. -/
def Event.notice : Event → Option Notice
  | bound _ _ => some .bound
  | refused _ _ reason => some (.rejected reason)
  | preludeBuilt => some (.preludeBuilt Prelude.table.length)
  | created _ _ _ | taken _ _ | called _ | returned _ => none

theorem Store.log_after (s : Store) (history : List Event) :
    (s.after history).log = s.log ++ (history.filterMap Event.notice).toArray := by
  induction history generalizing s with
  | nil => simp
  | cons e rest ih =>
    rw [after_cons, ih]
    cases e with
    | created f origin body => cases origin <;> rfl
    | bound f body => simp [Event.apply, Event.notice, record, modify]
    | refused f body reason => simp [Event.apply, Event.notice, record]
    | preludeBuilt => simp [Event.apply, Event.notice, buildPrelude, record]
    | taken _ _ | called _ | returned _ => rfl

theorem Slot.store_bind (slot : Slot) (body : Body) (s : Store) :
    (slot.bind body s).2 = s.after (slot.attempt body s) := by
  obtain ⟨v⟩ := slot
  by_cases hv : ∃ f, v = .function f
  · obtain ⟨f, rfl⟩ := hv
    cases h : (s.cell f).rebind body with
    | ok c =>
      obtain ⟨-, -, rfl⟩ := (Cell.rebind_eq_ok_iff _ _ _).mp h
      rw [Slot.bind_of_ok h]
      simp only [Slot.attempt, Store.attempt, h, Store.after_cons, Store.after_nil, Event.apply]
      rw [Store.modify_const s f fun c => { c with rebound := some body }]
    | error reason =>
      rw [Slot.bind_of_refused h]
      simp [Slot.attempt, Store.attempt, h, Event.apply]
  · have hne : ∀ f, v ≠ .function f := fun f hf => hv ⟨f, hf⟩
    rw [Slot.bind_of_mismatch hne]
    cases v <;> simp_all [Slot.attempt]

theorem Store.mem_preludeEvents {s : Store} {event : Event} :
    event ∈ s.preludeEvents ↔ event = .preludeBuilt ∧ s.preludeBuilt = false := by
  cases h : s.preludeBuilt <;> simp [preludeEvents, h]

theorem Store.after_preludeEvents (s : Store) : s.after s.preludeEvents = s.usePrelude := by
  rw [preludeEvents, usePrelude]
  split <;> rfl

theorem Expr.store_start (env : Env) (frames : List Frame) (s : Store) (program : Expr) :
    (program.start env frames s).store = s.after (program.events env s) := by
  cases program with
  | recursive self param body =>
    simp only [Expr.start, Store.makeRecursive_eq]
    rfl
  | bind name param body =>
    cases h : s.slot? name with
    | some slot =>
      simp only [Expr.start, Expr.events, h, Store.after_cons]
      exact Slot.store_bind _ _ _
    | none => simp only [Expr.start, Expr.events, h, Store.after_nil]
  | var name =>
    simp only [Expr.start]
    split <;> rfl
  | builtin b => exact s.after_preludeEvents.symm
  | prelude name =>
    simp only [Expr.start]
    split <;> exact s.after_preludeEvents.symm
  | slotFunction name =>
    simp only [Expr.start]
    split <;> rfl
  | _ => rfl

theorem Body.store_start (argument : Value) (frames : List Frame) (s : Store) (body : Body) :
    (body.start argument frames s).store = s.after (body.events argument s) := by
  rcases body with _ | _ | (_ | _ | _ | _) | _ <;> rfl

/-- Raising a counter makes no function, so a body has the same events before and after. -/
theorem Body.events_enter (argument : Value) (s : Store) (f : FunctionId) (body : Body) :
    body.events argument (s.enter f) = body.events argument s := by
  rcases body with _ | _ | (_ | _ | _ | _) | _ <;> simp [Body.events]

theorem Frame.store_resume (v : Value) (frames : List Frame) (s : Store) (frame : Frame) :
    (frame.resume v frames s).store = s.after (frame.events v s) := by
  cases frame with
  | argument function =>
    cases function with
    | function f =>
      simp only [Frame.resume, Value.asFunction, Store.call, Frame.events, Store.after_cons]
      rw [Body.store_start, Body.events_enter]
      rfl
    | _ => rfl
  | rebind body => exact Slot.store_bind ⟨v⟩ body s
  | iterate count _ _ _ => cases count <;> rfl
  | ifThenElse _ _ _ =>
    simp only [Frame.resume]
    split <;> rfl
  | _ => rfl

/-- A step changes the store by its events and in no other way. -/
theorem Config.store_step {c next : Config} (h : c.step = .inr next) :
    next.store = c.store.after c.events := by
  obtain ⟨control, frames, s⟩ := c
  rcases control with ⟨env, program⟩ | e | v
  · cases h
    exact Expr.store_start env frames s program
  · rcases frames with _ | ⟨frame, frames⟩
    · cases h
    · cases h
      cases frame <;> rfl
  · rcases frames with _ | ⟨frame, frames⟩
    · cases h
    · cases h
      exact Frame.store_resume v frames s frame

end RuntimeValues

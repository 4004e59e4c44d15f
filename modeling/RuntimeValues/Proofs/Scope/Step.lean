import RuntimeValues.Proofs.Event.Basic
import RuntimeValues.Proofs.Scope.Basic

/-!
# Evaluation stays within a scope

A step refers to nothing that the configuration before it did not refer to, apart from the
built-in functions and the function that it makes. `Config.within_step` says so for every
scope. The store is treated event by event, the control and the frames form by form.
-/

namespace RuntimeValues

set_option autoImplicit false

namespace Value

theorem within_ofList {scope : Scope} {elements : List Value}
    (h : ∀ v ∈ elements, v.Within scope) : (ofList elements).Within scope := by
  induction elements with
  | nil => trivial
  | cons v rest ih =>
    exact ⟨h v List.mem_cons_self, ih fun w hw => h w (List.mem_cons_of_mem _ hw)⟩

theorem within_of_walk {scope : Scope} {v : Value} {passed elements : List Value}
    (hv : v.Within scope) (hpassed : ∀ w ∈ passed, w.Within scope)
    (h : walk passed v = .ok elements) : ∀ w ∈ elements, w.Within scope := by
  induction v generalizing passed with
  | null =>
    cases h
    intro w hw
    exact hpassed w (List.mem_reverse.mp hw)
  | pair first second _ ih =>
    refine ih hv.2 ?_ h
    intro w hw
    rcases List.mem_cons.mp hw with rfl | hold
    · exact hv.1
    · exact hpassed w hold
  | number _ | boolean _ | function _ => simp [walk] at h

theorem within_of_toList {scope : Scope} {v : Value} {elements : List Value}
    (hv : v.Within scope) (h : v.toList = .ok elements) : ∀ w ∈ elements, w.Within scope :=
  within_of_walk hv (by simp) h

end Value

/-- What an operation on one value gives is made of that value alone. -/
theorem UnaryOp.within_apply {scope : Scope} {op : UnaryOp} {s : Store} {v result : Value}
    (hv : v.Within scope) (h : op.apply s v = .ok result) : result.Within scope := by
  cases op with
  | getFirst =>
    obtain ⟨second, rfl⟩ := (Value.getFirst_eq_ok_iff v result).mp h
    exact hv.1
  | getSecond =>
    obtain ⟨first, rfl⟩ := (Value.getSecond_eq_ok_iff v result).mp h
    exact hv.2
  | relist =>
    obtain ⟨elements, hlist, rfl⟩ := Outcome.map_eq_ok_iff.mp h
    exact Value.within_ofList (Value.within_of_toList hv hlist)
  | reverse =>
    obtain ⟨elements, hlist, rfl⟩ := Outcome.map_eq_ok_iff.mp h
    refine Value.within_ofList fun w hw => ?_
    exact Value.within_of_toList hv hlist w (List.mem_reverse.mp hw)
  | getNumber | getBoolean | isRebound | length =>
    obtain ⟨x, -, rfl⟩ := Outcome.map_eq_ok_iff.mp h
    trivial
  | isNull =>
    cases h
    trivial

theorem BinaryOp.number_of_onNumbers {left right result : Value} {f : Int → Int → Outcome Value}
    (h : onNumbers left right f = .ok result) : ∃ m n, f m n = .ok result := by
  simp only [onNumbers] at h
  split at h
  · cases h
  · split at h
    · cases h
    · exact ⟨_, _, h⟩

theorem BinaryOp.within_checked {scope : Scope} {n : Int} {result : Value}
    (h : checked n = .ok result) : result.Within scope := by
  simp only [checked] at h
  split at h
  · cases h
    trivial
  · cases h

theorem BinaryOp.within_apply {scope : Scope} {op : BinaryOp} {left right result : Value}
    (hleft : left.Within scope) (hright : right.Within scope)
    (h : op.apply left right = .ok result) : result.Within scope := by
  cases op with
  | pair =>
    cases h
    exact ⟨hleft, hright⟩
  | add | subtract | multiply =>
    simp only [apply] at h
    obtain ⟨m, n, h⟩ := number_of_onNumbers h
    exact within_checked h
  | equal | less =>
    simp only [apply] at h
    obtain ⟨m, n, h⟩ := number_of_onNumbers h
    cases h
    trivial
  | same =>
    obtain ⟨b, -, rfl⟩ := Outcome.map_eq_ok_iff.mp h
    trivial

theorem Prelude.within_of_lookup {scope : Scope} {name : String} {v : Value}
    (hbuiltin : ∀ b : Builtin, scope.functions b.id) (h : lookup name = some v) :
    v.Within scope := by
  have htable : Env.Within scope table := by
    intro entry hentry
    simp only [table, List.mem_append, List.mem_map, List.mem_singleton] at hentry
    rcases hentry with ⟨b, -, rfl⟩ | rfl
    · exact hbuiltin b
    · trivial
  exact Env.within_of_lookup htable h

def Event.Within (scope : Scope) : Event → Prop
  | created f _ body => scope.functions f ∧ body.Within scope
  | bound _ body => body.Within scope
  | taken _ _ | refused _ _ _ | called _ | returned _ | preludeBuilt => True

namespace Store

theorem within_modify {scope : Scope} {s : Store} {f : FunctionId} {change : Cell → Cell}
    (hs : s.Within scope) (hchange : ∀ c : Cell, c.Within scope → (change c).Within scope) :
    (s.modify f change).Within scope := by
  refine ⟨fun g => ?_, hs.slots⟩
  by_cases hf : f < s.cells.size
  · rw [cell_modify s f g change hf]
    split
    · exact hchange _ (hs.cells g)
    · exact hs.cells g
  · rw [modify_of_size_le s f change (Nat.le_of_not_lt hf)]
    exact hs.cells g

theorem within_allocate {scope : Scope} {s : Store} {body : Body} (hs : s.Within scope)
    (hbody : body.Within scope) : (s.allocate body).2.Within scope := by
  refine ⟨fun g => ?_, hs.slots⟩
  rw [cell_allocate]
  split
  · exact ⟨hbody, by simp⟩
  · exact hs.cells g

theorem within_apply {scope : Scope} {s : Store} {e : Event} (hs : s.Within scope)
    (he : e.Within scope) : (e.apply s).Within scope := by
  cases e with
  | created f origin body =>
    have hnew := within_allocate hs he.2
    cases origin with
    | declared name =>
      refine ⟨hnew.cells, fun entry hentry => ?_⟩
      rcases List.mem_cons.mp hentry with rfl | hold
      · exact he.1
      · exact hnew.slots entry (List.mem_filter.mp hold).1
    | lambda | recursive | partialApplication => exact hnew
  | taken name slot =>
    exact ⟨hs.cells, fun entry hentry => hs.slots entry (List.mem_filter.mp hentry).1⟩
  | bound f body =>
    have hnew : (s.modify f fun c => { c with rebound := some body }).Within scope := by
      refine within_modify hs fun c hc => ⟨hc.1, fun g hg => ?_⟩
      cases hg
      exact he
    exact ⟨hnew.cells, hnew.slots⟩
  | refused _ _ _ | preludeBuilt => exact ⟨hs.cells, hs.slots⟩
  | called f => exact within_modify hs fun c hc => hc
  | returned f => exact within_modify hs fun c hc => hc

theorem within_after {scope : Scope} {s : Store} {history : List Event} (hs : s.Within scope)
    (hhistory : ∀ e ∈ history, e.Within scope) : (s.after history).Within scope := by
  induction history generalizing s with
  | nil => exact hs
  | cons e rest ih =>
    refine ih (within_apply hs (hhistory e List.mem_cons_self)) ?_
    exact fun e' he' => hhistory e' (List.mem_cons_of_mem _ he')

theorem within_slot? {scope : Scope} {s : Store} {name : String} {slot : Slot}
    (hs : s.Within scope) (h : s.slot? name = some slot) : slot.function.Within scope :=
  hs.slots (name, slot) (mem_slots_of_slot? h)

end Store

theorem Slot.within_attempt {scope : Scope} {slot : Slot} {body : Body} {s : Store}
    (hbody : body.Within scope) : ∀ e ∈ slot.attempt body s, e.Within scope := by
  intro e he
  simp only [attempt] at he
  split at he
  · obtain rfl := List.mem_singleton.mp he
    simp only [Store.attempt]
    split
    · exact hbody
    · trivial
  · simp at he

/-- Binding gives null or an error. -/
theorem Slot.within_bind {scope : Scope} {slot : Slot} {body : Body} {s : Store} :
    Control.Within scope (.give ((slot.bind body s).1.map fun _ => .null)) := by
  refine Control.within_give fun v h => ?_
  obtain ⟨-, -, rfl⟩ := Outcome.map_eq_ok_iff.mp h
  trivial

theorem Expr.within_events {scope : Scope} {env : Env} {s : Store} {program : Expr}
    (hp : program.Within scope) (henv : Env.Within scope env)
    (hnew : ∀ f origin body, .created f origin body ∈ program.events env s → scope.functions f) :
    ∀ e ∈ program.events env s, e.Within scope := by
  cases program with
  | lambda param body =>
    have hf := hnew _ _ _ List.mem_cons_self
    simpa [events, Event.Within, Body.Within] using ⟨hf, henv, hp.2⟩
  | recursive self param body =>
    have hf := hnew _ _ _ List.mem_cons_self
    have hself : Env.Within scope ((self, .function s.cells.size) :: env) :=
      Env.within_cons hf henv
    simpa [events, Event.Within, Body.Within] using ⟨hf, hself, hp.2⟩
  | declare name =>
    have hf := hnew _ _ _ List.mem_cons_self
    simpa [events, Event.Within, Body.Within] using hf
  | bind name param body =>
    simp only [events]
    split
    · intro e he
      rcases List.mem_cons.mp he with rfl | he
      · trivial
      · have hbody : (Body.closure env param body).Within scope := ⟨henv, hp.2⟩
        exact Slot.within_attempt hbody e he
    · simp
  | builtin _ | prelude _ =>
    intro e he
    obtain ⟨rfl, -⟩ := Store.mem_preludeEvents.mp he
    trivial
  | _ => simp [events]

theorem Body.within_events {scope : Scope} {argument : Value} {s : Store} {body : Body}
    (hv : argument.Within scope)
    (hnew : ∀ f origin made, .created f origin made ∈ body.events argument s →
      scope.functions f) : ∀ e ∈ body.events argument s, e.Within scope := by
  rcases body with _ | _ | (_ | _ | _ | _) | _
  case builtin.pair =>
    have hf := hnew _ _ _ List.mem_cons_self
    simpa [events, Event.Within, Body.Within] using ⟨hf, hv⟩
  all_goals simp [events]

theorem Frame.within_events {scope : Scope} {v : Value} {s : Store} {frame : Frame}
    (hframe : frame.Within scope) (hv : v.Within scope)
    (hnew : ∀ f origin body, .created f origin body ∈ frame.events v s → scope.functions f) :
    ∀ e ∈ frame.events v s, e.Within scope := by
  cases frame with
  | argument function =>
    cases function with
    | function f =>
      intro e he
      rcases List.mem_cons.mp he with rfl | he
      · trivial
      · refine Body.within_events hv (fun g origin body hg => ?_) e he
        exact hnew g origin body (List.mem_cons_of_mem _ hg)
    | _ => simp [events]
  | rebind body => exact Slot.within_attempt hframe.1
  | leave f => simp [events, Event.Within]
  | _ => simp [events]

theorem Config.within_events {scope : Scope} {c : Config} (hc : c.Within scope)
    (hnew : ∀ f origin body, .created f origin body ∈ c.events → scope.functions f) :
    ∀ e ∈ c.events, e.Within scope := by
  obtain ⟨control, frames, s⟩ := c
  rcases control with ⟨env, program⟩ | e | v
  · exact Expr.within_events hc.control.2 hc.control.1 hnew
  · rcases frames with _ | ⟨frame, frames⟩
    · simp [events]
    · cases frame <;> simp [events, Event.Within]
  · rcases frames with _ | ⟨frame, frames⟩
    · simp [events]
    · exact Frame.within_events (hc.frames frame List.mem_cons_self) hc.control hnew

/-- What is about to happen and what waits for it, without the store. -/
def Config.CodeWithin (scope : Scope) (c : Config) : Prop :=
  c.control.Within scope ∧ ∀ frame ∈ c.frames, frame.Within scope

theorem Config.codeWithin_cons {scope : Scope} {control : Control} {frame : Frame}
    {frames : List Frame} {s : Store} (hcontrol : control.Within scope)
    (hframe : frame.Within scope) (hframes : ∀ frame ∈ frames, frame.Within scope) :
    CodeWithin scope ⟨control, frame :: frames, s⟩ :=
  ⟨hcontrol, List.forall_mem_cons.mpr ⟨hframe, hframes⟩⟩

theorem Expr.codeWithin_start {scope : Scope} {env : Env} {frames : List Frame} {s : Store}
    {program : Expr} (hp : program.Within scope) (henv : Env.Within scope env)
    (hframes : ∀ frame ∈ frames, frame.Within scope) (hs : s.Within scope)
    (hbuiltin : ∀ b : Builtin, scope.functions b.id)
    (hnew : ∀ f origin body, .created f origin body ∈ program.events env s → scope.functions f) :
    (program.start env frames s).CodeWithin scope := by
  cases program with
  | number _ | boolean _ | null | raise _ => exact ⟨trivial, hframes⟩
  | var name =>
    simp only [start]
    split
    next v h => exact ⟨Env.within_of_lookup henv h, hframes⟩
    next => exact ⟨trivial, hframes⟩
  | lambda param body => exact ⟨hnew _ _ _ List.mem_cons_self, hframes⟩
  | recursive self param body =>
    simp only [start, Store.makeRecursive_eq]
    exact ⟨hnew _ _ _ List.mem_cons_self, hframes⟩
  | builtin b =>
    simp only [start, Prelude.constant_eq]
    exact ⟨hbuiltin b, hframes⟩
  | prelude name =>
    simp only [start]
    split
    next v h => exact ⟨Prelude.within_of_lookup hbuiltin h, hframes⟩
    next => exact ⟨trivial, hframes⟩
  | declare name => exact ⟨hnew _ _ _ List.mem_cons_self, hframes⟩
  | slotFunction name =>
    simp only [start]
    split
    next slot h => exact ⟨Store.within_slot? hs h, hframes⟩
    next => exact ⟨trivial, hframes⟩
  | bind name param body =>
    simp only [start]
    split
    next => exact ⟨Slot.within_bind, hframes⟩
    next => exact ⟨trivial, hframes⟩
  | rebind target param body =>
    exact Config.codeWithin_cons ⟨henv, hp.2.1⟩ ⟨⟨henv, hp.2.2⟩, target, param, body, hp.1⟩ hframes
  | unary op operand => exact Config.codeWithin_cons ⟨henv, hp.2⟩ ⟨operand, hp.1⟩ hframes
  | binary _ _ _ | call _ _ | letIn _ _ _ | andThen _ _ | iterate _ _ _ _ | attempt _ _ =>
    exact Config.codeWithin_cons ⟨henv, hp.2.1⟩ ⟨henv, hp.2.2⟩ hframes
  | ifThenElse condition yes no =>
    exact Config.codeWithin_cons ⟨henv, hp.2.1⟩ ⟨henv, hp.2.2.1, hp.2.2.2⟩ hframes
  | restate _ | amend _ _ => exact Config.codeWithin_cons ⟨henv, hp.2⟩ trivial hframes

theorem Builtin.within_named {scope : Scope} {b : Builtin} {outcome : Outcome Value}
    (h : Control.Within scope (.give outcome)) : Control.Within scope (.give (b.named outcome)) := by
  cases outcome with
  | ok v => exact h
  | error e => trivial

theorem Body.codeWithin_start {scope : Scope} {argument : Value} {frames : List Frame} {s : Store}
    {body : Body} (hbody : body.Within scope) (hv : argument.Within scope)
    (hframes : ∀ frame ∈ frames, frame.Within scope)
    (hnew : ∀ f origin made, .created f origin made ∈ body.events argument s →
      scope.functions f) : (body.start argument frames s).CodeWithin scope := by
  rcases body with ⟨env, param, program⟩ | _ | (_ | _ | _ | _) | first
  case closure => exact ⟨⟨Env.within_cons hv hbody.1, hbody.2⟩, hframes⟩
  case unbound => exact ⟨trivial, hframes⟩
  case builtin.pair => exact ⟨hnew _ _ _ List.mem_cons_self, hframes⟩
  case builtin.first =>
    refine ⟨Builtin.within_named (Control.within_give fun v h => ?_), hframes⟩
    obtain ⟨second, rfl⟩ := (Value.getFirst_eq_ok_iff argument v).mp h
    exact hv.1
  case builtin.second =>
    refine ⟨Builtin.within_named (Control.within_give fun v h => ?_), hframes⟩
    obtain ⟨first, rfl⟩ := (Value.getSecond_eq_ok_iff argument v).mp h
    exact hv.2
  case builtin.isNull => exact ⟨trivial, hframes⟩
  case pairWith => exact ⟨⟨hbody, hv⟩, hframes⟩

theorem Cell.within_active {scope : Scope} {c : Cell} (hc : c.Within scope) :
    c.active.Within scope := by
  obtain ⟨body, rebound, n⟩ := c
  cases rebound with
  | none => exact hc.1
  | some replacement => exact hc.2 replacement rfl

theorem Frame.codeWithin_resume {scope : Scope} {v : Value} {frames : List Frame} {s : Store}
    {frame : Frame} (hframe : frame.Within scope) (hv : v.Within scope)
    (hframes : ∀ frame ∈ frames, frame.Within scope) (hs : s.Within scope)
    (hnew : ∀ f origin body, .created f origin body ∈ frame.events v s → scope.functions f) :
    (frame.resume v frames s).CodeWithin scope := by
  cases frame with
  | unary op =>
    exact ⟨Control.within_give fun result h => UnaryOp.within_apply hv h, hframes⟩
  | binaryLeft op env right => exact Config.codeWithin_cons hframe hv hframes
  | binaryRight op left =>
    exact ⟨Control.within_give fun result h => BinaryOp.within_apply hframe hv h, hframes⟩
  | callee env operand => exact Config.codeWithin_cons hframe hv hframes
  | argument function =>
    cases function with
    | function f =>
      have hinner : ∀ frame ∈ Frame.leave f :: frames, frame.Within scope :=
        List.forall_mem_cons.mpr ⟨hframe, hframes⟩
      refine Body.codeWithin_start (Cell.within_active (hs.cells f)) hv hinner ?_
      intro g origin body hg
      rw [Body.events_enter] at hg
      exact hnew g origin body (List.mem_cons_of_mem _ hg)
    | _ => exact ⟨trivial, hframes⟩
  | leave f => exact ⟨hv, hframes⟩
  | rebind body => exact ⟨Slot.within_bind, hframes⟩
  | letIn env name body => exact ⟨⟨Env.within_cons hv hframe.1, hframe.2⟩, hframes⟩
  | andThen env second => exact ⟨hframe, hframes⟩
  | iterate count env name body =>
    cases count with
    | zero => exact ⟨hv, hframes⟩
    | succ count =>
      exact Config.codeWithin_cons ⟨Env.within_cons hv hframe.1, hframe.2⟩ hframe hframes
  | ifThenElse env yes no =>
    simp only [resume]
    split
    · exact ⟨⟨hframe.1, hframe.2.1⟩, hframes⟩
    · exact ⟨⟨hframe.1, hframe.2.2⟩, hframes⟩
    · exact ⟨trivial, hframes⟩
  | attempt _ _ | restate | amend _ => exact ⟨hv, hframes⟩

theorem Frame.codeWithin_unwind {scope : Scope} {e : ValueError} {frames : List Frame} {s : Store}
    {frame : Frame} (hframe : frame.Within scope)
    (hframes : ∀ frame ∈ frames, frame.Within scope) :
    (frame.unwind e frames s).CodeWithin scope := by
  cases frame with
  | attempt env handler => exact ⟨hframe, hframes⟩
  | _ => exact ⟨trivial, hframes⟩

/-- A step stays within every scope that holds the built-in functions and what it makes. -/
theorem Config.within_step {scope : Scope} {c next : Config} (hc : c.Within scope)
    (hbuiltin : ∀ b : Builtin, scope.functions b.id)
    (hnew : ∀ f origin body, .created f origin body ∈ c.events → scope.functions f)
    (h : c.step = .inr next) : next.Within scope := by
  have hstore : next.store.Within scope := by
    rw [store_step h]
    exact Store.within_after hc.store (within_events hc hnew)
  have hcode : next.CodeWithin scope := by
    obtain ⟨control, frames, s⟩ := c
    rcases control with ⟨env, program⟩ | e | v
    · cases h
      exact Expr.codeWithin_start hc.control.2 hc.control.1 hc.frames hc.store hbuiltin hnew
    · rcases frames with _ | ⟨frame, frames⟩
      · cases h
      · cases h
        obtain ⟨hframe, hframes⟩ := List.forall_mem_cons.mp hc.frames
        exact Frame.codeWithin_unwind hframe hframes
    · rcases frames with _ | ⟨frame, frames⟩
      · cases h
      · cases h
        obtain ⟨hframe, hframes⟩ := List.forall_mem_cons.mp hc.frames
        exact Frame.codeWithin_resume hframe hc.control hframes hc.store hnew
  exact ⟨hcode.1, hcode.2, hstore⟩

end RuntimeValues

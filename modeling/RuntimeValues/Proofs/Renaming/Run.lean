import RuntimeValues.Proofs.Evaluation
import RuntimeValues.Proofs.Renaming.Basic
import RuntimeValues.Proofs.Scope.Step
import Mathlib.Data.Option.Basic
import Mathlib.Data.Sum.Basic

/-!
# One function more

Two evaluations are compared of which the first one has made one function more. Every function
that exists before has the same identity in both, every later one is one place further on in
the first. If nothing refers to the extra function, the evaluations run in step: each step
takes both to the same control, the same frames and the same store under this renaming, and
the extra function stays as it is.
-/

namespace RuntimeValues

set_option autoImplicit false

/-- The identities in order, without `n`. -/
def skip (n f : Nat) : Nat := if f < n then f else f + 1

theorem skip_of_lt {n f : Nat} (h : f < n) : skip n f = f := if_pos h

theorem skip_of_le {n f : Nat} (h : n ≤ f) : skip n f = f + 1 :=
  if_neg (Nat.not_lt.mpr h)

theorem skip_ne (n f : Nat) : skip n f ≠ n := by
  simp only [skip]
  split <;> omega

theorem skip_lt_succ {n f k : Nat} (h : f < k) : skip n f < k + 1 := by
  simp only [skip]
  split <;> omega

theorem skip_injective (n : Nat) : Function.Injective (skip n) := by
  intro f g h
  simp only [skip] at h
  split at h <;> split at h <;> omega

/-- Only the identity that is skipped is missing. -/
theorem exists_skip {n f : Nat} (h : f ≠ n) : ∃ g, skip n g = f := by
  rcases Nat.lt_or_gt_of_ne h with hlt | hgt
  · exact ⟨f, skip_of_lt hlt⟩
  · exact ⟨f - 1, by rw [skip_of_le (by omega)]; omega⟩

/-- The first store has one function more than the second one. Otherwise they are the same
under the renaming that skips it. -/
structure Store.Skips (n : Nat) (extra : Cell) (s t : Store) : Prop where
  le_size : n ≤ t.cells.size
  size : s.cells.size = t.cells.size + 1
  extra : s.cell n = extra
  cells : ∀ f, s.cell (skip n f) = (t.cell f).rename (skip n)
  slots : s.slots = t.slots.map fun entry => (entry.1, entry.2.rename (skip n))
  log : s.log = t.log
  preludeBuilt : s.preludeBuilt = t.preludeBuilt

/-- The configurations do the same next, but for the extra function. -/
structure Config.Skips (n : Nat) (extra : Cell) (c d : Config) : Prop where
  control : c.control = d.control.rename (skip n)
  frames : c.frames = d.frames.map (Frame.rename (skip n))
  store : c.store.Skips n extra d.store

/-- The evaluations have ended alike, but for the extra function. -/
structure ResultSkips (n : Nat) (extra : Cell) (first second : Outcome Value × Store) :
    Prop where
  outcome : first.1 = Outcome.rename (skip n) second.1
  store : first.2.Skips n extra second.2

variable {n : Nat} {extra : Cell} {s t : Store}

namespace Store.Skips

/-- The next function of the one store corresponds to that of the other one. -/
theorem size_eq (h : Skips n extra s t) : s.cells.size = skip n t.cells.size := by
  rw [h.size, skip_of_le h.le_size]

theorem isRebound (h : Skips n extra s t) (f : FunctionId) :
    (s.cell (skip n f)).isRebound = (t.cell f).isRebound := by
  rw [h.cells, Cell.isRebound_rename]

theorem slot? (h : Skips n extra s t) (name : String) :
    s.slot? name = (t.slot? name).map (Slot.rename (skip n)) := by
  rw [Store.slot?, Store.slot?, h.slots]
  generalize t.slots = slots
  induction slots with
  | nil => rfl
  | cons entry rest ih =>
    obtain ⟨bound, slot⟩ := entry
    simp only [List.map_cons, List.lookup_cons]
    split
    · rfl
    · exact ih

theorem allocate (h : Skips n extra s t) (body : Body) :
    Skips n extra (s.allocate (body.rename (skip n))).2 (t.allocate body).2 := by
  have hne : n ≠ s.cells.size := by
    rw [h.size_eq]
    exact (skip_ne n _).symm
  refine ⟨?_, ?_, ?_, fun f => ?_, h.slots, h.log, h.preludeBuilt⟩
  · rw [size_allocate]
    exact Nat.le_succ_of_le h.le_size
  · rw [size_allocate, size_allocate, h.size]
  · rw [cell_allocate, if_neg hne, h.extra]
  · rw [cell_allocate, cell_allocate, h.size_eq]
    by_cases hf : f = t.cells.size
    · rw [if_pos (congrArg (skip n) hf), if_pos hf]
      rfl
    · rw [if_neg fun heq => hf (skip_injective n heq), if_neg hf, h.cells]

theorem modify (h : Skips n extra s t) (f : FunctionId) {change change' : Cell → Cell}
    (hchange : ∀ c : Cell, change' (c.rename (skip n)) = (change c).rename (skip n)) :
    Skips n extra (s.modify (skip n f) change') (t.modify f change) := by
  have hle := h.le_size
  by_cases hf : f < t.cells.size
  · have hf' : skip n f < s.cells.size := by
      rw [h.size]
      exact skip_lt_succ hf
    refine ⟨?_, ?_, ?_, fun g => ?_, h.slots, h.log, h.preludeBuilt⟩
    · rw [size_modify]
      exact hle
    · rw [size_modify, size_modify, h.size]
    · rw [cell_modify s _ _ _ hf', if_neg (skip_ne n f).symm, h.extra]
    · rw [cell_modify s _ _ _ hf', cell_modify t _ _ _ hf, h.cells]
      by_cases hg : g = f
      · rw [if_pos (congrArg (skip n) hg), if_pos hg, hchange]
      · rw [if_neg fun heq => hg (skip_injective n heq), if_neg hg]
  · have hsize : t.cells.size ≤ f := Nat.le_of_not_lt hf
    have hsize' : s.cells.size ≤ skip n f := by
      rw [h.size, skip_of_le (Nat.le_trans hle hsize)]
      exact Nat.succ_le_succ hsize
    rw [modify_of_size_le s _ _ hsize', modify_of_size_le t _ _ hsize]
    exact h

/-- Changes of the extra function are seen by nothing else. -/
theorem modifyExtra (h : Skips n extra s t) (change : Cell → Cell) :
    Skips n (change extra) (s.modify n change) t := by
  have hn : n < s.cells.size := by
    rw [h.size]
    exact Nat.lt_succ_of_le h.le_size
  refine ⟨h.le_size, ?_, ?_, fun f => ?_, h.slots, h.log, h.preludeBuilt⟩
  · rw [size_modify, h.size]
  · rw [cell_modify s _ _ _ hn, if_pos rfl, h.extra]
  · rw [cell_modify s _ _ _ hn, if_neg (skip_ne n f), h.cells]

theorem enter (h : Skips n extra s t) (f : FunctionId) :
    Skips n extra (s.enter (skip n f)) (t.enter f) := h.modify f fun _ => rfl

theorem leave (h : Skips n extra s t) (f : FunctionId) :
    Skips n extra (s.leave (skip n f)) (t.leave f) := h.modify f fun _ => rfl

theorem record (h : Skips n extra s t) (notice : Notice) :
    Skips n extra (s.record notice) (t.record notice) := by
  refine ⟨h.le_size, h.size, h.extra, h.cells, h.slots, ?_, h.preludeBuilt⟩
  simp only [Store.record, h.log]

theorem usePrelude (h : Skips n extra s t) : Skips n extra s.usePrelude t.usePrelude := by
  simp only [Store.usePrelude, h.preludeBuilt]
  split
  · exact h
  · have hrecord := h.record (.preludeBuilt Prelude.table.length)
    exact { hrecord with preludeBuilt := rfl }

theorem eraseSlot (h : Skips n extra s t) (name : String) :
    Skips n extra (s.eraseSlot name) (t.eraseSlot name) := by
  refine ⟨h.le_size, h.size, h.extra, h.cells, ?_, h.log, h.preludeBuilt⟩
  simp only [Store.eraseSlot, h.slots, List.filter_map]
  rfl

theorem insertSlot (h : Skips n extra s t) (name : String) (slot : Slot) :
    Skips n extra (s.insertSlot name (slot.rename (skip n))) (t.insertSlot name slot) := by
  refine ⟨h.le_size, h.size, h.extra, h.cells, ?_, h.log, h.preludeBuilt⟩
  simp only [Store.insertSlot, h.slots, List.filter_map, List.map_cons]
  rfl

/-- An attempt to give a function a body has the same outcome in both stores. -/
theorem bind (h : Skips n extra s t) (slot : Slot) (body : Body) :
    (((slot.rename (skip n)).bind (body.rename (skip n)) s).1.map fun _ => Value.null) =
        Outcome.rename (skip n) ((slot.bind body t).1.map fun _ => .null) ∧
      Skips n extra ((slot.rename (skip n)).bind (body.rename (skip n)) s).2
        (slot.bind body t).2 := by
  obtain ⟨v⟩ := slot
  cases v with
  | function f =>
    have hrebind : (s.cell (skip n f)).rebind (body.rename (skip n)) =
        ((t.cell f).rebind body).map (Cell.rename (skip n)) := by
      rw [h.cells, Cell.rebind_rename]
    cases ht : (t.cell f).rebind body with
    | ok after =>
      rw [ht] at hrebind
      have hs : Slot.bind (Slot.rename (skip n) ⟨.function f⟩) (body.rename (skip n)) s = _ :=
        Slot.bind_of_ok hrebind
      rw [hs, Slot.bind_of_ok ht]
      have hmodify : Skips n extra (s.modify (skip n f) fun _ => after.rename (skip n))
          (t.modify f fun _ => after) := h.modify f fun _ => rfl
      exact ⟨rfl, hmodify.record .bound⟩
    | error reason =>
      rw [ht] at hrebind
      have hs : Slot.bind (Slot.rename (skip n) ⟨.function f⟩) (body.rename (skip n)) s = _ :=
        Slot.bind_of_refused hrebind
      rw [hs, Slot.bind_of_refused ht]
      exact ⟨rfl, h.record _⟩
  | number _ | boolean _ | null | pair _ _ => exact ⟨rfl, h⟩

/-- A recursive function is made alike in both stores. -/
theorem makeRecursive (h : Skips n extra s t) (body body' : Value → Body)
    (hbody : ∀ v, body' (v.rename (skip n)) = (body v).rename (skip n)) :
    (s.makeRecursive body').1 = Outcome.rename (skip n) (t.makeRecursive body).1 ∧
      Skips n extra (s.makeRecursive body').2 (t.makeRecursive body).2 := by
  rw [Store.makeRecursive_eq, Store.makeRecursive_eq, h.size_eq]
  refine ⟨rfl, Skips.record (Skips.modify (h.allocate .unbound) _ fun c => ?_) .bound⟩
  rw [show Value.function (skip n t.cells.size) =
    (Value.function t.cells.size).rename (skip n) from rfl, hbody]
  rfl

end Store.Skips

/-- A look-up that gives a value gives corresponding values. -/
theorem Config.Skips.give {outcome outcome' : Outcome Value} {frames : List Frame}
    (h : s.Skips n extra t) (houtcome : outcome = Outcome.rename (skip n) outcome') :
    Config.Skips n extra ⟨.give outcome, frames.map (Frame.rename (skip n)), s⟩
      ⟨.give outcome', frames, t⟩ := ⟨congrArg Control.give houtcome, rfl, h⟩

/-- The functions of the prelude are the same in both stores. -/
theorem Prelude.rename_of_lookup (hbuiltins : ∀ b : Builtin, b.id < n) {name : String} {v : Value}
    (h : lookup name = some v) : v.rename (skip n) = v := by
  have hwithin : v.Within ⟨(· < n), fun _ => True⟩ := within_of_lookup hbuiltins h
  exact Value.rename_of_within (fun f hf => skip_of_lt hf) hwithin

theorem Expr.start_skips (h : s.Skips n extra t) (hbuiltins : ∀ b : Builtin, b.id < n)
    (env : Env) (frames : List Frame) (program : Expr) :
    Config.Skips n extra
      (program.start (Env.rename (skip n) env) (frames.map (Frame.rename (skip n))) s)
      (program.start env frames t) := by
  cases program with
  | var name =>
    simp only [start, Env.lookup_rename]
    cases env.lookup name <;> exact .give h rfl
  | lambda param body =>
    refine .give (h.allocate (.closure env param body)) ?_
    exact congrArg (fun f => Except.ok (Value.function f)) h.size_eq
  | recursive self param body =>
    obtain ⟨houtcome, hstore⟩ := h.makeRecursive
      (fun this => .closure ((self, this) :: env) param body)
      (fun this => .closure ((self, this) :: Env.rename (skip n) env) param body)
      fun _ => rfl
    exact .give hstore houtcome
  | builtin b =>
    simp only [start, Prelude.constant_eq]
    refine .give h.usePrelude (congrArg Except.ok ?_)
    exact congrArg Value.function (skip_of_lt (hbuiltins b)).symm
  | prelude name =>
    simp only [start]
    split
    next v hv =>
      have hrename := Prelude.rename_of_lookup hbuiltins hv
      exact .give h.usePrelude (congrArg Except.ok hrename.symm)
    next => exact .give h.usePrelude rfl
  | declare name =>
    have hnew := (h.allocate .unbound).insertSlot name ⟨.function t.cells.size⟩
    simp only [start, Store.declare]
    rw [show s.allocate .unbound = (skip n t.cells.size, (s.allocate .unbound).2) from
      congrArg (·, (s.allocate .unbound).2) h.size_eq]
    exact .give hnew rfl
  | slotFunction name =>
    simp only [start, h.slot? name]
    cases t.slot? name <;> exact .give h rfl
  | bind name param body =>
    simp only [start, h.slot? name]
    cases t.slot? name with
    | none => exact .give h rfl
    | some slot =>
      obtain ⟨houtcome, hstore⟩ := (h.eraseSlot name).bind slot (.closure env param body)
      exact .give hstore houtcome
  | _ => exact ⟨rfl, rfl, h⟩

theorem Body.start_skips (h : s.Skips n extra t) (argument : Value) (frames : List Frame)
    (body : Body) :
    Config.Skips n extra ((body.rename (skip n)).start (argument.rename (skip n))
        (frames.map (Frame.rename (skip n))) s) (body.start argument frames t) := by
  rcases body with _ | _ | (_ | _ | _ | _) | _
  case builtin.pair =>
    refine .give (h.allocate (.pairWith argument)) ?_
    exact congrArg (fun f => Except.ok (Value.function f)) h.size_eq
  case builtin.first =>
    refine .give h ?_
    rw [Value.getFirst_rename, Builtin.named_rename]
  case builtin.second =>
    refine .give h ?_
    rw [Value.getSecond_rename, Builtin.named_rename]
  case builtin.isNull =>
    refine .give h ?_
    rw [Value.isNull_rename]
    rfl
  all_goals exact ⟨rfl, rfl, h⟩

theorem Store.Skips.call (h : s.Skips n extra t) (f : FunctionId) (argument : Value)
    (frames : List Frame) :
    Config.Skips n extra (s.call (skip n f) (argument.rename (skip n))
        (frames.map (Frame.rename (skip n)))) (t.call f argument frames) := by
  simp only [Store.call]
  rw [h.cells, Cell.active_rename]
  exact Body.start_skips (h.enter f) argument (.leave f :: frames) _

theorem Frame.resume_skips (h : s.Skips n extra t) (v : Value) (frames : List Frame)
    (frame : Frame) :
    Config.Skips n extra
      ((frame.rename (skip n)).resume (v.rename (skip n)) (frames.map (Frame.rename (skip n))) s)
      (frame.resume v frames t) := by
  cases frame with
  | unary op => exact .give h (UnaryOp.apply_rename h.isRebound op v)
  | binaryRight op left => exact .give h (BinaryOp.apply_rename (skip_injective n) op left v)
  | argument function =>
    cases function with
    | function f => exact h.call f v frames
    | _ => exact .give h rfl
  | leave f => exact .give (h.leave f) rfl
  | rebind body =>
    obtain ⟨houtcome, hstore⟩ := h.bind ⟨v⟩ body
    exact .give hstore houtcome
  | iterate count env name body => cases count <;> exact ⟨rfl, rfl, h⟩
  | ifThenElse env yes no =>
    simp only [rename, resume, Value.getBoolean_rename]
    split <;> exact ⟨rfl, rfl, h⟩
  | _ => exact ⟨rfl, rfl, h⟩

theorem Frame.unwind_skips (h : s.Skips n extra t) (e : ValueError) (frames : List Frame)
    (frame : Frame) :
    Config.Skips n extra
      ((frame.rename (skip n)).unwind e (frames.map (Frame.rename (skip n))) s)
      (frame.unwind e frames t) := by
  cases frame with
  | leave f => exact .give (h.leave f) rfl
  | _ => exact ⟨rfl, rfl, h⟩

namespace Config.Skips

variable {c d : Config}

/-- The evaluations take corresponding steps, and the last step of one is that of the other. -/
theorem step (h : Skips n extra c d) (hbuiltins : ∀ b : Builtin, b.id < n) :
    Sum.LiftRel (ResultSkips n extra) (Skips n extra) c.step d.step := by
  obtain ⟨_, _, s⟩ := c
  obtain ⟨control, frames, t⟩ := d
  obtain ⟨rfl, rfl, hstore⟩ := h
  rcases control with ⟨env, program⟩ | e | v
  · exact .inr (Expr.start_skips hstore hbuiltins env frames program)
  · rcases frames with _ | ⟨frame, frames⟩
    · exact .inl ⟨rfl, hstore⟩
    · exact .inr (Frame.unwind_skips hstore e frames frame)
  · rcases frames with _ | ⟨frame, frames⟩
    · exact .inl ⟨rfl, hstore⟩
    · exact .inr (Frame.resume_skips hstore v frames frame)

theorem run (h : Skips n extra c d) (hbuiltins : ∀ b : Builtin, b.id < n) (fuel : Nat) :
    Option.Rel (ResultSkips n extra) (c.run fuel) (d.run fuel) := by
  induction fuel generalizing c d with
  | zero => exact .none
  | succ fuel ih =>
    have hstep := h.step hbuiltins
    simp only [Config.run]
    generalize c.step = first at hstep ⊢
    generalize d.step = second at hstep ⊢
    cases hstep with
    | inl hresult => exact .some hresult
    | inr hnext => exact ih hnext

end Config.Skips

end RuntimeValues

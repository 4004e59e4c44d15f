import RuntimeValues.Program.Machine

/-!
# Evaluation in context

An evaluation does not look at the frames outside of it. `step_inside` says so for one step:
the same step is taken whatever frames wait for the final outcome. A subprogram is therefore
evaluated in the middle of a program as it would be on its own, and `ends_inside` takes an
evaluation apart at the outcome of its subprogram. The frames change at the innermost end only;
`mem_frames_step` says which can be added there.

Two evaluations end together when the end of either one brings the end of the other, with
results in a given relation. The `EndTogether` lemmas put such pairs together from their parts.
-/

namespace RuntimeValues

set_option autoImplicit false

/-- The configuration with further frames outside of its own. -/
def Config.inside (outer : List Frame) (c : Config) : Config :=
  ⟨c.control, c.frames ++ outer, c.store⟩

theorem Expr.start_inside (env : Env) (frames outer : List Frame) (s : Store) (program : Expr) :
    program.start env (frames ++ outer) s = (program.start env frames s).inside outer := by
  cases program with
  | var name =>
    simp only [start]
    split <;> rfl
  | prelude name =>
    simp only [start]
    split <;> rfl
  | slotFunction name =>
    simp only [start]
    split <;> rfl
  | bind name param body =>
    simp only [start]
    split <;> rfl
  | _ => rfl

theorem Body.start_inside (argument : Value) (frames outer : List Frame) (s : Store)
    (body : Body) :
    body.start argument (frames ++ outer) s = (body.start argument frames s).inside outer := by
  rcases body with _ | _ | (_ | _ | _ | _) | _ <;> rfl

theorem Frame.resume_inside (v : Value) (frames outer : List Frame) (s : Store) (frame : Frame) :
    frame.resume v (frames ++ outer) s = (frame.resume v frames s).inside outer := by
  cases frame with
  | argument function =>
    cases function with
    | function f => exact Body.start_inside v (.leave f :: frames) outer (s.enter f) _
    | _ => rfl
  | iterate count _ _ _ => cases count <;> rfl
  | ifThenElse _ _ _ =>
    simp only [resume]
    split <;> rfl
  | _ => rfl

theorem Frame.unwind_inside (e : ValueError) (frames outer : List Frame) (s : Store)
    (frame : Frame) :
    frame.unwind e (frames ++ outer) s = (frame.unwind e frames s).inside outer := by
  cases frame <;> rfl

namespace Config

theorem step_inside {c next : Config} (h : c.step = .inr next) (outer : List Frame) :
    (c.inside outer).step = .inr (next.inside outer) := by
  obtain ⟨control, frames, s⟩ := c
  rcases control with ⟨env, program⟩ | e | v
  · cases h
    exact congrArg Sum.inr (Expr.start_inside env frames outer s program)
  · rcases frames with _ | ⟨frame, frames⟩
    · cases h
    · cases h
      exact congrArg Sum.inr (Frame.unwind_inside e frames outer s frame)
  · rcases frames with _ | ⟨frame, frames⟩
    · cases h
    · cases h
      exact congrArg Sum.inr (Frame.resume_inside v frames outer s frame)

/-- The last configuration of an evaluation hands its outcome on. -/
theorem eq_of_done {c : Config} {outcome : Outcome Value} {s : Store}
    (h : c.step = .inl (outcome, s)) : c = ⟨.give outcome, [], s⟩ := by
  obtain ⟨control, frames, s'⟩ := c
  rcases control with ⟨env, program⟩ | e | v
  · cases h
  · rcases frames with _ | ⟨frame, frames⟩ <;> cases h
    rfl
  · rcases frames with _ | ⟨frame, frames⟩ <;> cases h
    rfl

end Config

/-- The frame that is to deal with the outcome of the first subprogram, if there is one. -/
def Expr.pushes (env : Env) : Expr → List Frame
  | rebind _ param body => [.rebind (.closure env param body)]
  | unary op _ => [.unary op]
  | binary op _ right => [.binaryLeft op env right]
  | call _ argument => [.callee env argument]
  | letIn name _ body => [.letIn env name body]
  | andThen _ second => [.andThen env second]
  | iterate count name _ body => [.iterate count env name body]
  | ifThenElse _ yes no => [.ifThenElse env yes no]
  | attempt _ handler => [.attempt env handler]
  | restate _ => [.restate]
  | amend change _ => [.amend change]
  | number _ | boolean _ | null | var _ | lambda _ _ | recursive _ _ _ | builtin _ | prelude _
  | declare _ | slotFunction _ | bind _ _ _ | raise _ => []

/-- The frame that takes the place of one that gets a value, if there is one. -/
def Frame.pushes (v : Value) : Frame → List Frame
  | binaryLeft op _ _ => [.binaryRight op v]
  | callee _ _ => [.argument v]
  | argument (.function f) => [.leave f]
  | iterate (count + 1) env name body => [.iterate count env name body]
  | _ => []

theorem Expr.frames_start (env : Env) (frames : List Frame) (s : Store) (program : Expr) :
    (program.start env frames s).frames = program.pushes env ++ frames := by
  cases program with
  | var name | prelude name | slotFunction name | bind name _ _ =>
    simp only [start]
    split <;> rfl
  | _ => rfl

theorem Body.frames_start (argument : Value) (frames : List Frame) (s : Store) (body : Body) :
    (body.start argument frames s).frames = frames := by
  rcases body with _ | _ | (_ | _ | _ | _) | _ <;> rfl

theorem Frame.frames_resume (v : Value) (frames : List Frame) (s : Store) (frame : Frame) :
    (frame.resume v frames s).frames = frame.pushes v ++ frames := by
  cases frame with
  | argument function =>
    cases function with
    | function f => exact Body.frames_start v (.leave f :: frames) (s.enter f) _
    | _ => rfl
  | iterate count _ _ _ => cases count <;> rfl
  | ifThenElse _ _ _ =>
    simp only [resume]
    split <;> rfl
  | _ => rfl

theorem Frame.frames_unwind (e : ValueError) (frames : List Frame) (s : Store) (frame : Frame) :
    (frame.unwind e frames s).frames = frames := by
  cases frame <;> rfl

/-- A frame was there before the step, or a program or a frame has added it. -/
theorem Config.mem_frames_step {c next : Config} {frame : Frame} (hstep : c.step = .inr next)
    (h : frame ∈ next.frames) :
    frame ∈ c.frames ∨ (∃ env program, frame ∈ Expr.pushes env program) ∨
      ∃ v top, frame ∈ Frame.pushes v top := by
  obtain ⟨control, frames, s⟩ := c
  rcases control with ⟨env, program⟩ | e | v
  · cases hstep
    rw [Expr.frames_start] at h
    rcases List.mem_append.mp h with hpushed | hold
    · exact .inr (.inl ⟨env, program, hpushed⟩)
    · exact .inl hold
  · rcases frames with _ | ⟨top, frames⟩
    · cases hstep
    · cases hstep
      rw [Frame.frames_unwind] at h
      exact .inl (List.mem_cons_of_mem _ h)
  · rcases frames with _ | ⟨top, frames⟩
    · cases hstep
    · cases hstep
      rw [Frame.frames_resume] at h
      rcases List.mem_append.mp h with hpushed | hold
      · exact .inr (.inr ⟨v, top, hpushed⟩)
      · exact .inl (List.mem_cons_of_mem _ hold)

namespace Config

/-- The evaluation ends with this outcome and this store. -/
def Ends (c : Config) (result : Outcome Value × Store) : Prop :=
  ∃ fuel, c.run fuel = some result

variable {c d next : Config} {result : Outcome Value × Store} {outer : List Frame}

theorem ends_iff_of_step (h : c.step = .inr next) : c.Ends result ↔ next.Ends result := by
  constructor
  · rintro ⟨fuel, hrun⟩
    cases fuel with
    | zero => cases hrun
    | succ fuel =>
      simp only [run, h] at hrun
      exact ⟨fuel, hrun⟩
  · rintro ⟨fuel, hrun⟩
    exact ⟨fuel + 1, by simp only [run, h, hrun]⟩

theorem ends_iff_of_done {done : Outcome Value × Store} (h : c.step = .inl done) :
    c.Ends result ↔ result = done := by
  constructor
  · rintro ⟨fuel, hrun⟩
    cases fuel with
    | zero => cases hrun
    | succ fuel =>
      simp only [run, h] at hrun
      exact (Option.some.inj hrun).symm
  · rintro rfl
    exact ⟨1, by simp only [run, h]⟩

theorem ends_give (outcome : Outcome Value) (s : Store) :
    Ends ⟨.give outcome, [], s⟩ result ↔ result = (outcome, s) :=
  ends_iff_of_done (by cases outcome <;> rfl)

theorem Ends.unique {result' : Outcome Value × Store} (h : c.Ends result)
    (h' : c.Ends result') : result = result' := by
  obtain ⟨fuel, hrun⟩ := h
  obtain ⟨fuel', hrun'⟩ := h'
  have hmore := run_mono hrun (Nat.le_max_left fuel fuel')
  have hmore' := run_mono hrun' (Nat.le_max_right fuel fuel')
  exact Option.some.inj (hmore.symm.trans hmore')

/-- An evaluation with frames outside of it ends if it ends on its own and the frames come to
an end with its outcome. -/
theorem ends_inside : (c.inside outer).Ends result ↔
    ∃ outcome s, c.Ends (outcome, s) ∧ Ends ⟨.give outcome, outer, s⟩ result := by
  constructor
  · rintro ⟨fuel, hrun⟩
    induction fuel generalizing c with
    | zero => cases hrun
    | succ fuel ih =>
      cases hstep : c.step with
      | inl done =>
        obtain ⟨outcome, s⟩ := done
        obtain rfl := eq_of_done hstep
        exact ⟨outcome, s, (ends_give outcome s).mpr rfl, fuel + 1, hrun⟩
      | inr next =>
        simp only [run, step_inside hstep outer] at hrun
        obtain ⟨outcome, s, hends, hrest⟩ := ih hrun
        exact ⟨outcome, s, (ends_iff_of_step hstep).mpr hends, hrest⟩
  · rintro ⟨outcome, s, ⟨fuel, hrun⟩, hrest⟩
    induction fuel generalizing c with
    | zero => cases hrun
    | succ fuel ih =>
      simp only [run] at hrun
      split at hrun
      next done hstep =>
        obtain rfl := Option.some.inj hrun
        obtain rfl := eq_of_done hstep
        exact hrest
      next next hstep => exact (ends_iff_of_step (step_inside hstep outer)).mpr (ih hrun)

/-- The frames outside of an evaluation that ends go on with its outcome. -/
theorem Ends.inside_iff {outcome : Outcome Value} {s : Store} (h : c.Ends (outcome, s)) :
    (c.inside outer).Ends result ↔ Ends ⟨.give outcome, outer, s⟩ result := by
  rw [ends_inside]
  constructor
  · rintro ⟨outcome', s', hends, hrest⟩
    obtain ⟨rfl, rfl⟩ := Prod.mk.inj (h.unique hends)
    exact hrest
  · intro hrest
    exact ⟨outcome, s, h, hrest⟩

theorem Ends.unary {env : Env} {operand : Expr} {s t : Store} {v : Value}
    (h : Ends (.begin env operand s) (.ok v, t)) (op : UnaryOp) :
    Ends (.begin env (.unary op operand) s) (op.apply t v, t) := by
  refine (ends_iff_of_step rfl).mpr (h.inside_iff.mpr ?_)
  exact (ends_iff_of_step rfl).mpr ((ends_give _ _).mpr rfl)

theorem Ends.binary {env : Env} {left right : Expr} {s t u : Store} {v w : Value}
    (hleft : Ends (.begin env left s) (.ok v, t)) (hright : Ends (.begin env right t) (.ok w, u))
    (op : BinaryOp) : Ends (.begin env (.binary op left right) s) (op.apply v w, u) := by
  refine (ends_iff_of_step rfl).mpr (hleft.inside_iff.mpr ?_)
  refine (ends_iff_of_step rfl).mpr (hright.inside_iff.mpr ?_)
  exact (ends_iff_of_step rfl).mpr ((ends_give _ _).mpr rfl)

/-- A call hands the argument to the body and hands on the outcome of the body. -/
theorem ends_call {f : FunctionId} {argument : Value} {outcome : Outcome Value} {s t : Store} :
    Ends ⟨.give (.ok argument), [.argument (.function f)], s⟩ (outcome, t) ↔
      ∃ u, Ends ((s.cell f).active.start argument [] (s.enter f)) (outcome, u) ∧
        t = u.leave f := by
  have hleave : ∀ given u, Ends ⟨.give given, [.leave f], u⟩ (outcome, t) ↔
      outcome = given ∧ t = u.leave f := by
    intro given u
    have hstep : step ⟨.give given, [.leave f], u⟩ = .inr ⟨.give given, [], u.leave f⟩ := by
      cases given <;> rfl
    rw [ends_iff_of_step hstep, ends_give, Prod.mk.injEq]
  have hstart := Body.start_inside argument [] [.leave f] (s.enter f) (s.cell f).active
  rw [ends_iff_of_step rfl]
  simp only [Frame.resume, Value.asFunction, Store.call]
  rw [List.nil_append] at hstart
  rw [hstart, ends_inside]
  constructor
  · rintro ⟨given, u, hbody, hends⟩
    obtain ⟨rfl, ht⟩ := (hleave given u).mp hends
    exact ⟨u, hbody, ht⟩
  · rintro ⟨u, hbody, ht⟩
    exact ⟨outcome, u, hbody, (hleave outcome u).mpr ⟨rfl, ht⟩⟩

/-- If one of the evaluations ends, the other one ends too, with results in this relation. -/
def EndTogether (R : Outcome Value × Store → Outcome Value × Store → Prop) (c d : Config) :
    Prop :=
  (∀ result, c.Ends result → ∃ result', d.Ends result' ∧ R result result') ∧
    ∀ result', d.Ends result' → ∃ result, c.Ends result ∧ R result result'

namespace EndTogether

variable {R R' : Outcome Value × Store → Outcome Value × Store → Prop}

theorem give {outcome outcome' : Outcome Value} {s s' : Store}
    (h : R (outcome, s) (outcome', s')) :
    EndTogether R ⟨.give outcome, [], s⟩ ⟨.give outcome', [], s'⟩ := by
  refine ⟨fun result hends => ?_, fun result hends => ?_⟩
  · obtain rfl := (ends_give outcome s).mp hends
    exact ⟨_, (ends_give outcome' s').mpr rfl, h⟩
  · obtain rfl := (ends_give outcome' s').mp hends
    exact ⟨_, (ends_give outcome s).mpr rfl, h⟩

theorem mono (h : EndTogether R c d) (hR : ∀ result result', R result result' → R' result result') :
    EndTogether R' c d := by
  refine ⟨fun result hends => ?_, fun result hends => ?_⟩
  · obtain ⟨result', hends', hrel⟩ := h.1 result hends
    exact ⟨result', hends', hR _ _ hrel⟩
  · obtain ⟨result', hends', hrel⟩ := h.2 result hends
    exact ⟨result', hends', hR _ _ hrel⟩

theorem of_step_left (h : c.step = .inr next) (hnext : EndTogether R next d) :
    EndTogether R c d := by
  refine ⟨fun result hends => ?_, fun result hends => ?_⟩
  · exact hnext.1 result ((ends_iff_of_step h).mp hends)
  · obtain ⟨result', hends', hR⟩ := hnext.2 result hends
    exact ⟨result', (ends_iff_of_step h).mpr hends', hR⟩

theorem of_step_right (h : d.step = .inr next) (hnext : EndTogether R c next) :
    EndTogether R c d := by
  refine ⟨fun result hends => ?_, fun result hends => ?_⟩
  · obtain ⟨result', hends', hR⟩ := hnext.1 result hends
    exact ⟨result', (ends_iff_of_step h).mpr hends', hR⟩
  · exact hnext.2 result ((ends_iff_of_step h).mp hends)

/-- Evaluations that run in step end together. -/
theorem of_run (h : ∀ fuel, Option.Rel R (c.run fuel) (d.run fuel)) : EndTogether R c d := by
  refine ⟨fun result hends => ?_, fun result hends => ?_⟩
  · obtain ⟨fuel, hrun⟩ := hends
    have hrel := h fuel
    rw [hrun] at hrel
    generalize hd : d.run fuel = second at hrel
    cases hrel with
    | some hR => exact ⟨_, ⟨fuel, hd⟩, hR⟩
  · obtain ⟨fuel, hrun⟩ := hends
    have hrel := h fuel
    rw [hrun] at hrel
    generalize hc : c.run fuel = first at hrel
    cases hrel with
    | some hR => exact ⟨_, ⟨fuel, hc⟩, hR⟩

/-- The frames outside of two evaluations that end together come to an end together. -/
theorem inside {outer' : List Frame} (h : EndTogether R c d)
    (hrest : ∀ outcome outcome' s s', R (outcome, s) (outcome', s') →
      EndTogether R' ⟨.give outcome, outer, s⟩ ⟨.give outcome', outer', s'⟩) :
    EndTogether R' (c.inside outer) (d.inside outer') := by
  refine ⟨fun result hends => ?_, fun result hends => ?_⟩
  · obtain ⟨outcome, s, hinner, houter⟩ := ends_inside.mp hends
    obtain ⟨⟨outcome', s'⟩, hinner', hR⟩ := h.1 _ hinner
    obtain ⟨result', houter', hR'⟩ := (hrest outcome outcome' s s' hR).1 result houter
    exact ⟨result', ends_inside.mpr ⟨outcome', s', hinner', houter'⟩, hR'⟩
  · obtain ⟨outcome', s', hinner, houter⟩ := ends_inside.mp hends
    obtain ⟨⟨outcome, s⟩, hinner', hR⟩ := h.2 _ hinner
    obtain ⟨result', houter', hR'⟩ := (hrest outcome outcome' s s' hR).2 result houter
    exact ⟨result', ends_inside.mpr ⟨outcome, s, hinner', houter'⟩, hR'⟩

end EndTogether

end Config

end RuntimeValues

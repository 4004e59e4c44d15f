import RuntimeValues.Proofs.Renaming.Run
import RuntimeValues.Proofs.Session.Point

/-!
# Applying a function that was just made

Making a function and calling it at once is binding its parameter: the program
`call (lambda x body) argument` does what `letIn x argument body` does. The call makes one
function more, and so everything made later has another identity. Nothing refers to that
function when the call has ended, and otherwise the two evaluations end alike.
-/

namespace RuntimeValues

set_option autoImplicit false

/-- The evaluations have ended with the same outcome and the same store under the renaming that
skips `n`. In the first one `n` is one function more, and nothing refers to it. -/
structure EndsWithExtra (n : Nat) (extra : Cell) (first second : Outcome Value × Store) :
    Prop where
  outcome : first.1 = Outcome.rename (skip n) second.1
  store : first.2.Skips n extra second.2
  value_without : ∀ v, first.1 = .ok v → v.Within (.without n)
  store_without : first.2.Within (.without n)

/-- What is named and what is stored refers to functions of the store, and the functions of the
prelude are among them. -/
structure Store.Closed (env : Env) (s : Store) : Prop where
  env : Env.Within (s.scope fun _ => True) env
  store : s.Within (s.scope fun _ => True)
  builtins : ∀ b : Builtin, b.id < s.cells.size

/-- A session has such names and such a store at every point. -/
theorem Config.WellScoped.closed {env : Env} {program : Expr} {frames : List Frame} {s : Store}
    (h : WellScoped (fun _ => True) ⟨.eval env program, frames, s⟩) : s.Closed env :=
  ⟨h.within.control.1, h.within.store, h.builtins⟩

variable {n : Nat} {extra : Cell} {s t : Store}

/-- Whatever is renamed does not refer to the identity that is skipped. -/
theorem Store.Skips.within_without (h : s.Skips n extra t) (hextra : extra.Within (.without n)) :
    s.Within (.without n) := by
  refine ⟨fun f => ?_, fun entry hentry => ?_⟩
  · by_cases hf : f = n
    · rw [hf, h.extra]
      exact hextra
    · obtain ⟨g, rfl⟩ := exists_skip hf
      rw [h.cells]
      exact Cell.within_rename (skip_ne n) (fun _ => trivial) _
  · rw [h.slots] at hentry
    obtain ⟨old, -, rfl⟩ := List.mem_map.mp hentry
    exact Value.within_rename (skip_ne n) old.2.function

theorem ResultSkips.endsWithExtra {first second : Outcome Value × Store}
    (h : ResultSkips n extra first second) (hextra : extra.Within (.without n)) :
    EndsWithExtra n extra first second := by
  refine ⟨h.outcome, h.store, fun v hv => ?_, h.store.within_without hextra⟩
  rw [h.outcome] at hv
  obtain ⟨old, -, rfl⟩ := Outcome.map_eq_ok_iff.mp hv
  exact Value.within_rename (skip_ne n) old

namespace Store.Closed

variable {env : Env}

theorem rename_env (h : s.Closed env) : Env.rename (skip s.cells.size) env = env :=
  Env.rename_of_within (fun _ hf => skip_of_lt hf) h.env

/-- A function that was just made is one more and is referred to by nothing. -/
theorem skips_allocate (h : s.Closed env) (body : Body) :
    (s.allocate body).2.Skips s.cells.size ⟨body, none, 0⟩ s := by
  refine ⟨Nat.le_refl _, size_allocate s body, ?_, fun f => ?_, ?_, rfl, rfl⟩
  · rw [cell_allocate, if_pos rfl]
  · rw [cell_allocate, if_neg (skip_ne _ f),
      Cell.rename_of_within (fun _ hk => skip_of_lt hk) (h.store.cells f)]
    rcases Nat.lt_or_ge f s.cells.size with hf | hf
    · rw [skip_of_lt hf]
    · rw [skip_of_le hf, cell_of_size_le s f hf, cell_of_size_le s _ (Nat.le_succ_of_le hf)]
  · refine ((List.map_congr_left fun entry hentry => ?_).trans (List.map_id s.slots)).symm
    have hslot := Value.rename_of_within (fun _ hk => skip_of_lt hk) (h.store.slots entry hentry)
    simp only [Slot.rename, hslot, id_eq]

theorem env_without (h : s.Closed env) : Env.Within (.without s.cells.size) env := by
  rw [← h.rename_env]
  exact Env.within_rename (skip_ne s.cells.size) env

end Store.Closed

namespace Config

variable {env : Env}

theorem skips_begin (h : s.Skips n extra t) (henv : Env.rename (skip n) env = env)
    (program : Expr) : Skips n extra (begin env program s) (begin env program t) := by
  refine ⟨?_, rfl, h⟩
  simp only [begin, Control.rename, henv]

/-- While the body is evaluated, a call of the extra function is running in the first store
only. When the call has ended, the evaluations have ended alike. -/
theorem endTogether_body {param : String} {body : Expr} (v : Value)
    (h : s.Skips n ⟨.closure env param body, none, 0⟩ t)
    (henv : Env.rename (skip n) env = env) (hbuiltins : ∀ b : Builtin, b.id < n) :
    EndTogether (ResultSkips n ⟨.closure env param body, none, 0⟩)
      ⟨.give (.ok (v.rename (skip n))), [.argument (.function n)], s⟩
      ⟨.give (.ok v), [.letIn env param body], t⟩ := by
  have hcall : step ⟨.give (.ok (v.rename (skip n))), [.argument (.function n)], s⟩ =
      .inr ((begin ((param, v.rename (skip n)) :: env) body (s.enter n)).inside [.leave n]) := by
    simp only [step, Frame.resume, Value.asFunction, Store.call, h.extra]
    rfl
  have hlet : step ⟨.give (.ok v), [.letIn env param body], t⟩ =
      .inr ((begin ((param, v) :: env) body t).inside []) := rfl
  refine .of_step_left hcall (.of_step_right hlet ?_)
  have henter : Skips n (Cell.enter ⟨.closure env param body, none, 0⟩)
      (begin ((param, v.rename (skip n)) :: env) body (s.enter n))
      (begin ((param, v) :: env) body t) := by
    refine ⟨?_, rfl, h.modifyExtra Cell.enter⟩
    simp only [begin, Control.rename]
    rw [show Env.rename (skip n) ((param, v) :: env) =
      (param, v.rename (skip n)) :: Env.rename (skip n) env from rfl, henv]
  refine (EndTogether.of_run fun fuel => henter.run hbuiltins fuel).inside ?_
  intro outcome outcome' s' t' hresult
  have hleave : (s'.leave n).Skips n ⟨.closure env param body, none, 0⟩ t' := by
    have hstore := hresult.store.modifyExtra Cell.leave
    rw [Cell.leave_enter] at hstore
    exact hstore
  have hstep : step ⟨.give outcome, [.leave n], s'⟩ = .inr ⟨.give outcome, [], s'.leave n⟩ := by
    cases outcome <;> rfl
  exact .of_step_left hstep (.give ⟨hresult.outcome, hleave⟩)

end Config

/-- Calling a function that was just made ends if and only if binding its parameter does. Both
have the same outcome, write the same notices and leave the same store, under the renaming that
skips the function, and nothing refers to that function any more. -/
theorem application_is_binding {env : Env} (h : s.Closed env) (param : String)
    (argument body : Expr) :
    Config.EndTogether (EndsWithExtra s.cells.size ⟨.closure env param body, none, 0⟩)
      (.begin env (.call (.lambda param body) argument) s)
      (.begin env (.letIn param argument body) s) := by
  have hskips := h.skips_allocate (.closure env param body)
  have hextra : Cell.Within (.without s.cells.size) ⟨.closure env param body, none, 0⟩ :=
    ⟨⟨h.env_without, body.within_of_forms fun _ => trivial⟩, by simp⟩
  have hargument := Config.skips_begin hskips h.rename_env argument
  refine .of_step_left rfl (.of_step_left rfl (.of_step_left rfl (.of_step_right rfl ?_)))
  refine Config.EndTogether.inside (.of_run fun fuel => hargument.run h.builtins fuel) ?_
  rintro outcome outcome' s' t' ⟨houtcome, hstore⟩
  obtain rfl : outcome = Outcome.rename (skip s.cells.size) outcome' := houtcome
  cases outcome' with
  | error e =>
    have hends : ResultSkips s.cells.size ⟨.closure env param body, none, 0⟩
      (.error e, s') (.error e, t') := ⟨rfl, hstore⟩
    exact .of_step_left rfl (.of_step_right rfl (.give (hends.endsWithExtra hextra)))
  | ok v =>
    refine (Config.endTogether_body v hstore h.rename_env h.builtins).mono ?_
    exact fun first second hends => hends.endsWithExtra hextra

/-- Declares a function and pairs it with another one, by calling a function made for it. -/
def pairedByCall : Expr :=
  .call (.lambda "x" (.binary .pair (.var "x") (.lambda "y" (.var "x")))) (.declare "s")

/-- The same without a function made for it. -/
def pairedByBinding : Expr :=
  .letIn "x" (.declare "s") (.binary .pair (.var "x") (.lambda "y" (.var "x")))

/-- Does so in the middle of a call. -/
def pairing : Request where
  question := .view
  program := .call (.lambda "z" pairedByCall) .null
  keepAs := none

theorem application_is_binding_pairing :
    ∃ env s,
      Session.point [pairing] 6 =
        .busy [] pairing ⟨.eval env pairedByCall, [.leave 4], s⟩ [] ∧
      (∃ t, Config.Ends (.begin env pairedByBinding s)
        (.ok (.pair (.function 5) (.function 6)), t)) ∧
      ∃ t, Config.Ends (.begin env pairedByCall s) (.ok (.pair (.function 6) (.function 7)), t) ∧
        t.Within (.without 5) := by
  have hscoped := (Session.wellScoped_point (Session.uses_any [pairing]) 6).config
  refine ⟨_, _, rfl, ⟨_, 9, rfl⟩, ?_⟩
  obtain ⟨-, hends⟩ := application_is_binding hscoped.closed "x" (.declare "s")
    (.binary .pair (.var "x") (.lambda "y" (.var "x")))
  obtain ⟨⟨outcome, t⟩, hcall, hextra⟩ := hends _ ⟨9, rfl⟩
  obtain rfl : outcome = .ok (.pair (.function 6) (.function 7)) := hextra.outcome
  exact ⟨t, hcall, hextra.store_without⟩

end RuntimeValues

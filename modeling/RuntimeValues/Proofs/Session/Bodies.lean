import RuntimeValues.Proofs.Event.Creation
import RuntimeValues.Proofs.Session.Attempt

/-!
# The two bodies of a function

A function has the body it was made with and can be given a second one. Along the run of a
session the first body never changes and the second one is written once, so the calls of a
function run the first body up to the moment of writing and the second one from then on. The
second body is always a program, since every form that gives one has it at hand.
-/

namespace RuntimeValues

set_option autoImplicit false

namespace Store

variable {s : Store} {f : FunctionId} {g : Body}

/-- One event leaves the second body as it is, unless it is the event of giving it. -/
theorem rebound_apply {e : Event} (h : e.Possible s) :
    ((e.apply s).cell f).rebound = (s.cell f).rebound ∨
      ∃ body, e = .bound f body ∧ (s.cell f).rebound = none ∧
        ((e.apply s).cell f).rebound = some body := by
  rw [cell_apply h]
  cases e with
  | created g origin body =>
    by_cases hf : f = g
    · subst hf
      refine .inl ?_
      simp only [Event.onCell, ↓reduceIte, cell_of_created h]
      rfl
    · refine .inl ?_
      simp only [Event.onCell, if_neg hf]
  | bound g body =>
    by_cases hf : f = g
    · subst hf
      refine .inr ⟨body, rfl, h.2.2, ?_⟩
      simp only [Event.onCell, ↓reduceIte]
    · refine .inl ?_
      simp only [Event.onCell, if_neg hf]
  | called g | returned g =>
    simp only [Event.onCell]
    split <;> exact .inl rfl
  | taken _ _ | refused _ _ _ | preludeBuilt => exact .inl rfl

theorem rebound_after {history : List Event} (h : s.Allows history)
    (hg : (s.cell f).rebound = some g) : ((s.after history).cell f).rebound = some g := by
  refine after_preserves (P := fun s => (s.cell f).rebound = some g) ?_ hg h
  intro s e hs he
  rcases rebound_apply (f := f) he with hsame | ⟨_, _, hnone, _⟩
  · rw [hsame]
    exact hs
  · rw [hs] at hnone
    cases hnone

theorem rebound_after_bound {history : List Event} (h : s.Allows history)
    (hbound : .bound f g ∈ history) : ((s.after history).cell f).rebound = some g := by
  induction history generalizing s with
  | nil => cases hbound
  | cons e rest ih =>
    rcases List.mem_cons.mp hbound with rfl | hrest
    · rw [after_cons]
      refine rebound_after h.2 ?_
      rw [cell_apply h.1]
      simp only [Event.onCell, ↓reduceIte]
    · exact ih h.2 hrest

theorem bound_of_rebound_after {history : List Event} (h : s.Allows history)
    (hg : ((s.after history).cell f).rebound = some g) (hnone : (s.cell f).rebound = none) :
    .bound f g ∈ history := by
  induction history generalizing s with
  | nil =>
    rw [after_nil, hnone] at hg
    cases hg
  | cons e rest ih =>
    rcases rebound_apply (f := f) h.1 with hsame | ⟨body, rfl, -, hsome⟩
    · exact List.mem_cons_of_mem _ (ih h.2 hg (hsame.trans hnone))
    · have hlast := rebound_after h.2 hsome
      rw [after_cons, hlast] at hg
      cases hg
      exact List.mem_cons_self

theorem rebound_initial (f : FunctionId) : (initial.cell f).rebound = none := by
  rcases f with _ | _ | _ | _ | f <;> rfl

end Store

/-- The body evaluates a program. -/
def Body.IsClosure (body : Body) : Prop := ∃ env param program, body = .closure env param program

theorem Expr.isClosure_of_pushes {env : Env} {program : Expr} {body : Body}
    (h : .rebind body ∈ program.pushes env) : body.IsClosure := by
  cases program with
  | rebind target param e => exact ⟨env, param, e, Frame.rebind.inj (List.mem_singleton.mp h)⟩
  | _ => simp [pushes] at h

theorem Frame.rebind_not_mem_pushes (v : Value) (top : Frame) (body : Body) :
    .rebind body ∉ top.pushes v := by
  cases top with
  | argument function => cases function <;> simp [pushes]
  | iterate count _ _ _ => cases count <;> simp [pushes]
  | _ => simp [pushes]

namespace Session

variable {requests : List Request} {f : FunctionId} {g : Body} {i j : Nat}

theorem body_point (hij : i ≤ j) (hf : f < (point requests i).store.cells.size) :
    ((point requests j).store.cell f).body = ((point requests i).store.cell f).body := by
  obtain ⟨later, -, hallows, hstore⟩ := history_between requests hij
  rw [hstore]
  exact Store.body_after hallows hf

theorem rebound_point_of_le (hij : i ≤ j)
    (hg : ((point requests i).store.cell f).rebound = some g) :
    ((point requests j).store.cell f).rebound = some g := by
  obtain ⟨later, -, hallows, hstore⟩ := history_between requests hij
  rw [hstore]
  exact Store.rebound_after hallows hg

/-- A function has a second body exactly if it was given that body before. -/
theorem rebound_point_iff {k : Nat} :
    ((point requests k).store.cell f).rebound = some g ↔
      ∃ i < k, .bound f g ∈ (point requests i).events := by
  rw [← mem_history, store_point]
  constructor
  · intro hg
    exact Store.bound_of_rebound_after (allows_history requests k) hg (Store.rebound_initial f)
  · exact Store.rebound_after_bound (allows_history requests k)

theorem rebound_of_bound (hij : i < j) (h : .bound f g ∈ (point requests i).events) :
    ((point requests j).store.cell f).rebound = some g := rebound_point_iff.mpr ⟨i, hij, h⟩

theorem rebound_succ {k : Nat} (hnot : ∀ g, .bound f g ∉ (point requests k).events) :
    ((point requests (k + 1)).store.cell f).rebound =
      ((point requests k).store.cell f).rebound := by
  cases hbefore : ((point requests k).store.cell f).rebound with
  | some g => exact rebound_point_of_le (Nat.le_succ k) hbefore
  | none =>
    cases hafter : ((point requests (k + 1)).store.cell f).rebound with
    | none => rfl
    | some g =>
      obtain ⟨i, hi, hbound⟩ := rebound_point_iff.mp hafter
      rcases Nat.lt_succ_iff_lt_or_eq.mp hi with hlt | rfl
      · rw [rebound_of_bound hlt hbound] at hbefore
        cases hbefore
      · exact absurd hbound (hnot g)

/-- A body that waits to be given is a program. -/
theorem isClosure_of_mem_frames {k : Nat} {body : Body}
    (h : .rebind body ∈ (point requests k).frames) : body.IsClosure := by
  induction k with
  | zero => cases h
  | succ k ih =>
    rw [point_succ] at h
    rcases Point.mem_frames_next h with hold | ⟨env, program, hpushed⟩ | ⟨v, top, hpushed⟩
    · exact ih hold
    · exact Expr.isClosure_of_pushes hpushed
    · exact absurd hpushed (Frame.rebind_not_mem_pushes v top body)

/-- The body that a function is given is a program. -/
theorem isClosure_of_bound {k : Nat} (h : .bound f g ∈ (point requests k).events) :
    g.IsClosure := by
  have hframes : ∀ body, .rebind body ∈ (point requests k).frames → body.IsClosure :=
    fun body => isClosure_of_mem_frames
  generalize point requests k = p at h hframes
  cases p with
  | idle session pending => cases h
  | busy kept request c pending =>
    rcases Config.attempts_of_bound h with ⟨hattempts, -⟩ |
      ⟨env, self, param, program, frames, s, rfl, -⟩
    · cases hattempts with
      | bind hslot => exact ⟨_, _, _, rfl⟩
      | rebind => exact hframes _ List.mem_cons_self
    · rcases List.mem_cons.mp h with hcreated | hbound
      · cases hcreated
      · cases List.mem_singleton.mp hbound
        exact ⟨_, _, _, rfl⟩

/-- A function that runs anything but a program runs the body that it was made with. -/
theorem body_of_not_closure {k : Nat} {body : Body}
    (h : ((point requests k).store.cell f).active = body)
    (hbody : ¬ body.IsClosure) :
    ((point requests k).store.cell f).body = body ∧
      ((point requests k).store.cell f).rebound = none := by
  cases hrebound : ((point requests k).store.cell f).rebound with
  | none =>
    rw [Cell.active, hrebound] at h
    exact ⟨h, rfl⟩
  | some given =>
    rw [Cell.active, hrebound] at h
    obtain rfl : given = body := h
    obtain ⟨i, -, hbound⟩ := rebound_point_iff.mp hrebound
    exact absurd (isClosure_of_bound hbound) hbody

/-- A call that starts takes the body that is active. -/
theorem point_of_call {m : Nat} {kept : Env} {request : Request} {v : Value}
    {frames : List Frame} {s : Store} {pending : List Request}
    (h : point requests m =
      .busy kept request ⟨.give (.ok v), .argument (.function f) :: frames, s⟩ pending) :
    point requests (m + 1) =
      .busy kept request ((s.cell f).active.start v (.leave f :: frames) (s.enter f)) pending := by
  rw [point_succ, h]
  rfl

theorem active_of_bound {k : Nat} (h : ∃ i < k, .bound f g ∈ (point requests i).events) :
    ((point requests k).store.cell f).active = g := by
  rw [Cell.active, rebound_point_iff.mpr h]
  rfl

theorem lt_size_of_call {m : Nat} {kept : Env} {request : Request} {v : Value}
    {frames : List Frame} {s : Store} {pending : List Request}
    (h : point requests m =
      .busy kept request ⟨.give (.ok v), .argument (.function f) :: frames, s⟩ pending) :
    f < s.cells.size := by
  have hallows := allows_events_point requests m
  rw [h] at hallows
  exact hallows.1

end Session

end RuntimeValues

import RuntimeValues.Proofs.Session.RunningCalls

/-!
# Functions that await their body

A function without a body can be called, but its call ends at once with an error. So while a
program is evaluated, whatever calls are around it, no call of such a function is running.
The only moment at which one runs is the one between its start and its end.
-/

namespace RuntimeValues

set_option autoImplicit false

/-- The function was declared and has not been given a body. -/
def Cell.Awaits (c : Cell) : Prop := c.body = .unbound ∧ c.rebound = none

variable {f : FunctionId}

theorem Cell.Awaits.active {c : Cell} (h : c.Awaits) : c.active = .unbound := by
  rw [Cell.active, h.2]
  exact h.1

namespace Store

variable {s : Store}

theorem awaits_of_apply {e : Event} (h : e.Possible s) (hafter : ((e.apply s).cell f).Awaits) :
    (s.cell f).Awaits := by
  rw [cell_apply h] at hafter
  cases e with
  | created g origin body =>
    by_cases hf : f = g
    · subst hf
      rw [cell_of_created h]
      exact ⟨rfl, rfl⟩
    · simp only [Event.onCell, if_neg hf] at hafter
      exact hafter
  | bound g body =>
    by_cases hf : f = g
    · simp only [Event.onCell, if_pos hf] at hafter
      cases hafter.2
    · simp only [Event.onCell, if_neg hf] at hafter
      exact hafter
  | called g | returned g =>
    simp only [Event.onCell] at hafter
    split at hafter <;> exact hafter
  | taken _ _ | refused _ _ _ | preludeBuilt => exact hafter

theorem awaits_of_after {history : List Event} (h : s.Allows history)
    (hafter : ((s.after history).cell f).Awaits) : (s.cell f).Awaits := by
  induction history generalizing s with
  | nil => exact hafter
  | cons e rest ih => exact awaits_of_apply h.1 (ih h.2 hafter)

end Store

namespace Config

variable {c next : Config}

theorem call_of_started (h : started f c.events ≠ 0) :
    ∃ v frames s, c = ⟨.give (.ok v), .argument (.function f) :: frames, s⟩ := by
  obtain ⟨control, frames, s⟩ := c
  rcases control with ⟨env, program⟩ | e | v
  · exact absurd (Expr.calls_events env s program).1 h
  · rcases frames with _ | ⟨frame, frames⟩
    · exact absurd rfl h
    · cases frame <;> exact absurd rfl h
  · rcases frames with _ | ⟨frame, frames⟩
    · exact absurd rfl h
    · cases frame with
      | argument function =>
        cases function with
        | function g =>
          by_cases hg : g = f
          · subst hg
            exact ⟨v, frames, s, rfl⟩
          · have hbody := (Body.calls_events (f := f) v s (s.cell g).active).1
            simp only [events, Frame.events, started_cons, hbody] at h
            simp [Event.startsCallOf, hg] at h
        | _ => exact absurd rfl h
      | rebind body => exact absurd (Slot.calls_attempt ⟨v⟩ body s).1 h
      | _ => exact absurd rfl h

/-- No call of the function is running, or only one that is about to end with an error. -/
def Quiet (f : FunctionId) (c : Config) : Prop :=
  running f c.frames = 0 ∨
    ∃ e frames, c.control = .give (.error e) ∧ c.frames = .leave f :: frames ∧
      running f frames = 0

theorem Quiet.step (hc : c.Quiet f) (hawaits : (c.store.cell f).Awaits)
    (hstep : c.step = .inr next) : next.Quiet f := by
  rcases hc with hnone | ⟨e, frames, hcontrol, hframes, hnone⟩
  · by_cases hstarted : started f c.events = 0
    · have hrunning := running_step hstep f
      exact .inl (by omega)
    · -- the call that starts here finds no body
      obtain ⟨v, frames, s, rfl⟩ := call_of_started hstarted
      cases hstep
      have hactive : (s.cell f).active = .unbound := hawaits.active
      refine .inr ⟨Fault.unboundFunction.error, frames, ?_, ?_, ?_⟩
      · simp only [Frame.resume, Value.asFunction, Store.call, hactive, Body.start]
      · simp only [Frame.resume, Value.asFunction, Store.call, hactive, Body.start]
      · rw [← hnone]
        exact (running_of_not_call rfl frames).symm
  · obtain ⟨control, frames', s⟩ := c
    obtain rfl : control = .give (.error e) := hcontrol
    obtain rfl : frames' = .leave f :: frames := hframes
    cases hstep
    exact .inl hnone

end Config

def Point.Quiet (f : FunctionId) : Point → Prop
  | idle _ _ => True
  | busy _ _ c _ => c.Quiet f

theorem Point.Quiet.next {p : Point} (hp : p.Quiet f) (hawaits : (p.store.cell f).Awaits) :
    p.next.Quiet f := by
  cases p with
  | idle session pending =>
    cases pending with
    | nil => trivial
    | cons request pending => exact .inl rfl
  | busy kept request c pending =>
    cases hstep : c.step with
    | inr c' =>
      simp only [Point.next, hstep]
      exact Config.Quiet.step hp hawaits hstep
    | inl result =>
      simp only [Point.next, hstep]
      trivial

namespace Session

variable {requests : List Request}

theorem quiet_point {k : Nat} (h : ((point requests k).store.cell f).Awaits) :
    (point requests k).Quiet f := by
  induction k with
  | zero => trivial
  | succ k ih =>
    rw [point_succ] at h ⊢
    rw [Point.store_next] at h
    have hbefore := Store.awaits_of_after (allows_events_point requests k) h
    exact (ih hbefore).next hbefore

/-- Where a program is about to be evaluated, a function without a body is not being called. -/
theorem counter_of_awaits {k : Nat} {kept env : Env} {request : Request} {program : Expr}
    {frames : List Frame} {s : Store} {pending : List Request}
    (hpoint : point requests k = .busy kept request ⟨.eval env program, frames, s⟩ pending)
    (hawaits : (s.cell f).Awaits) : (s.cell f).callsInFlight = 0 := by
  have hquiet : (point requests k).Quiet f := quiet_point (by rw [hpoint]; exact hawaits)
  have hcounter := counter_point requests k f
  rw [hpoint] at hquiet hcounter
  rcases hquiet with hnone | ⟨e, frames', hcontrol, -⟩
  · have hframes : running f frames = 0 := hnone
    simp only [Point.store, Point.frames, hframes] at hcounter
    exact hcounter
  · cases hcontrol

end Session

end RuntimeValues

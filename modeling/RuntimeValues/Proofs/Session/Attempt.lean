import RuntimeValues.Proofs.Event.Attempt
import RuntimeValues.Proofs.Event.Fault
import RuntimeValues.Proofs.Session.Point

/-!
# Attempts and errors in a session

The next point of a session says what came of an attempt to give a function a body. An error
that is handed on at some point arose at an earlier one, and since then nothing but this
error was handed on. Frames may change its details on the way but not its cause.
-/

namespace RuntimeValues

set_option autoImplicit false

namespace Point

/-- This outcome is about to be handed on. -/
def Gives (outcome : Outcome Value) : Point → Prop
  | busy _ _ c _ => c.control = .give outcome
  | idle _ _ => False

def Fails (cause : Fault) (p : Point) : Prop := ∃ e, p.Gives (.error e) ∧ e.cause = cause

/-- The next step tries to give the function this body. -/
def Attempts (f : FunctionId) (body : Body) : Point → Prop
  | busy _ _ c _ => c.Attempts f body
  | idle _ _ => False

def Raises (cause : Fault) : Point → Prop
  | busy _ _ c _ => c.Raises cause
  | idle _ _ => False

theorem gives_next {kept : Env} {request : Request} {c next : Config} {pending : List Request}
    {outcome : Outcome Value} (hstep : c.step = .inr next) :
    (busy kept request c pending).next.Gives outcome ↔ next.control = .give outcome := by
  simp only [Point.next, hstep]
  rfl

theorem fails_next {p : Point} {cause : Fault} (h : p.next.Fails cause) :
    p.Fails cause ∨ p.Raises cause := by
  obtain ⟨e, hgives, rfl⟩ := h
  cases p with
  | idle session pending => cases pending <;> cases hgives
  | busy kept request c pending =>
    cases hstep : c.step with
    | inr c' =>
      have hcontrol := (gives_next hstep).mp hgives
      exact Config.raises_of_error hstep hcontrol
    | inl result =>
      simp only [next, hstep] at hgives
      exact hgives.elim

theorem refused_of_raises {p : Point} {reason : Refusal} (h : p.Raises reason.error.cause) :
    ∃ f body, .refused f body reason ∈ p.events := by
  cases p with
  | idle session pending => exact h.elim
  | busy kept request c pending => cases reason <;> exact h

theorem attempts_of_refused {p : Point} {f : FunctionId} {body : Body} {reason : Refusal}
    (h : .refused f body reason ∈ p.events) :
    p.Attempts f body ∧ (p.store.cell f).rebind body = .error reason := by
  cases p with
  | idle session pending => cases h
  | busy kept request c pending => exact Config.attempts_of_refused h

namespace Attempts

variable {p : Point} {f : FunctionId} {body : Body}

theorem gives (h : p.Attempts f body) :
    p.next.Gives (Cell.attempted ((p.store.cell f).rebind body)) := by
  cases p with
  | idle session pending => exact h.elim
  | busy kept request c pending =>
    obtain ⟨next, hstep, hcontrol⟩ := Config.Attempts.step h
    exact (gives_next hstep).mpr hcontrol

theorem mem_events (h : p.Attempts f body) : p.store.attempt f body ∈ p.events := by
  cases p with
  | idle session pending => exact h.elim
  | busy kept request c pending => exact Config.Attempts.mem_events h

theorem gives_of_ok {after : Cell} (h : p.Attempts f body)
    (hrebind : (p.store.cell f).rebind body = .ok after) :
    p.next.Gives (.ok .null) ∧ .bound f body ∈ p.events := by
  have hgives := h.gives
  have hevent := h.mem_events
  rw [hrebind] at hgives
  rw [Store.attempt_of_ok hrebind] at hevent
  exact ⟨hgives, hevent⟩

theorem gives_of_refused {reason : Refusal} (h : p.Attempts f body)
    (hrebind : (p.store.cell f).rebind body = .error reason) :
    p.next.Gives (.error reason.error) := by
  have hgives := h.gives
  rw [hrebind] at hgives
  exact hgives

theorem cells_of_refused {reason : Refusal} (h : p.Attempts f body)
    (hrebind : (p.store.cell f).rebind body = .error reason) :
    p.next.store.cells = p.store.cells := by
  rw [store_next]
  cases p with
  | idle session pending => exact h.elim
  | busy kept request c pending => exact Config.Attempts.cells_of_refused h hrebind

theorem cell_of_refused {reason : Refusal} (h : p.Attempts f body)
    (hrebind : (p.store.cell f).rebind body = .error reason) (g : FunctionId) :
    (p.next.store).cell g = p.store.cell g := by
  simp only [Store.cell, h.cells_of_refused hrebind]

end Attempts

theorem Gives.unique {p : Point} {first second : Outcome Value} (hfirst : p.Gives first)
    (hsecond : p.Gives second) : first = second := by
  cases p with
  | idle session pending => exact hfirst.elim
  | busy kept request c pending => exact Control.give.inj (hfirst.symm.trans hsecond)

/-- A function that is given a body had none and no call of it was running. -/
theorem cell_of_bound {p : Point} {f : FunctionId} {body : Body} (h : .bound f body ∈ p.events) :
    (p.store.cell f).callsInFlight = 0 ∧ (p.store.cell f).rebound = none := by
  cases p with
  | idle session pending => cases h
  | busy kept request c pending =>
    rcases Config.attempts_of_bound h with ⟨-, hcalls, hrebound⟩ |
      ⟨env, self, param, program, frames, s, rfl, rfl⟩
    · exact ⟨hcalls, hrebound⟩
    · have hnew : s.cell s.cells.size = default := Store.cell_of_size_le s _ (Nat.le_refl _)
      simp only [store, hnew]
      exact ⟨rfl, rfl⟩

theorem attempts_or_created {p : Point} {f : FunctionId} {body : Body}
    (h : .bound f body ∈ p.events) :
    p.Attempts f body ∨ .created f .recursive .unbound ∈ p.events := by
  cases p with
  | idle session pending => cases h
  | busy kept request c pending =>
    rcases Config.attempts_of_bound h with ⟨hattempts, -⟩ |
      ⟨env, self, param, program, frames, s, rfl, rfl⟩
    · exact .inl hattempts
    · exact .inr List.mem_cons_self

end Point

/-- An error arose at one point and was handed on ever since. -/
theorem Session.raises_of_fails {requests : List Request} {cause : Fault} {k : Nat}
    (h : (point requests k).Fails cause) :
    ∃ i < k, (point requests i).Raises cause ∧
      ∀ m, i < m → m ≤ k → (point requests m).Fails cause := by
  induction k with
  | zero =>
    obtain ⟨e, hgives, -⟩ := h
    exact hgives.elim
  | succ k ih =>
    have hnext := h
    rw [point_succ] at hnext
    rcases Point.fails_next hnext with hfails | hraises
    · obtain ⟨i, hi, horigin, hsince⟩ := ih hfails
      refine ⟨i, by omega, horigin, fun m him hmk => ?_⟩
      rcases Nat.lt_or_ge k m with hkm | hkm
      · obtain rfl : m = k + 1 := by omega
        exact h
      · exact hsince m him hkm
    · refine ⟨k, by omega, hraises, fun m him hmk => ?_⟩
      obtain rfl : m = k + 1 := by omega
      exact h

/-- Only the question for a list can fail, on a value that is none. -/
theorem Question.walk_of_error {question : Question} {s : Store} {v : Value} {e : ValueError}
    (h : question.answer s v = .error e) : v.toList = .error e := by
  cases question with
  | list => exact Outcome.map_eq_error_iff.mp h
  | _ => cases h

/-- The error of a reply was handed on at a point of the session, or a value that was asked for
as a list is none. -/
theorem Session.fails_of_reply {requests : List Request} {fuel : Nat} {replies : List Reply}
    {final : Session} {reply : Reply} {e : ValueError}
    (h : initial.askAll fuel requests = some (replies, final)) (hreply : reply ∈ replies)
    (herror : reply.answer = .error e) :
    (∃ k, (point requests k).Fails e.cause) ∨ ∃ v : Value, v.toList = .error e := by
  obtain ⟨-, hreplies⟩ := Point.next_of_askAll h
  obtain ⟨k, kept, request, outcome, s, pending, hlast, hanswer, -⟩ := hreplies reply hreply
  have hpoint : point requests k = .busy kept request ⟨.give outcome, [], s⟩ pending := hlast
  rw [hanswer] at herror
  cases outcome with
  | ok v => exact .inr ⟨v, Question.walk_of_error herror⟩
  | error e' =>
    cases herror
    refine .inl ⟨k, e, ?_, rfl⟩
    rw [hpoint]
    rfl

end RuntimeValues

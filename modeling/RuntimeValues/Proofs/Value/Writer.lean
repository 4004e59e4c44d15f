import RuntimeValues.Value.Text

/-!
# The run of the writer

The writer takes one pending piece at a time and never recurs into a value. At every point of
its run, what is written together with what the pending pieces spell is the complete text, and
every step takes exactly one from the weight of the pending pieces. So the text of a value is
complete after as many steps as the value weighs, and it is the text that the recursion on the
value gives.
-/

namespace RuntimeValues.Writer

set_option autoImplicit false

/-- The writer that is to write one value. -/
def start (v : Value) : Writer := ⟨"", [.value v]⟩

/-- The writer after this many steps. There is none if the text is complete before. -/
def after : Nat → Writer → Option Writer
  | 0, w => some w
  | n + 1, w =>
    match w.step with
    | .inl _ => none
    | .inr next => after n next

theorem after_succ_of_step {n : Nat} {w next : Writer} (h : w.step = .inr next) :
    w.after (n + 1) = next.after n := by
  simp only [after, h]

theorem exists_step_of_after_succ {n : Nat} {w later : Writer} (h : w.after (n + 1) = some later) :
    ∃ next, w.step = .inr next ∧ next.after n = some later := by
  simp only [after] at h
  split at h
  next => cases h
  next next hstep => exact ⟨next, hstep, h⟩

theorem goal_eq (w : Writer) :
    w.goal = w.written ++ String.join (w.pending.map Piece.spelling) := by
  obtain ⟨written, pending⟩ := w
  induction pending generalizing written with
  | nil => simp [goal]
  | cons piece rest ih =>
    have hrest := ih (written ++ piece.spelling)
    simp only [goal, List.foldl_cons] at hrest ⊢
    rw [hrest, List.map_cons, String.join_cons, String.append_assoc]

/-- No step changes what the complete text is going to be. -/
theorem goal_after {n : Nat} {w later : Writer} (h : w.after n = some later) :
    later.goal = w.goal := by
  induction n generalizing w with
  | zero =>
    cases h
    rfl
  | succ n ih =>
    obtain ⟨next, hstep, hlater⟩ := exists_step_of_after_succ h
    rw [ih hlater, goal_step hstep]

theorem weight_start (v : Value) : (start v).weight = Piece.valueWeight v := by
  simp [start, weight, Piece.weight]

theorem weight_of_done {w : Writer} {text : String} (h : w.step = .inl text) : w.weight = 0 := by
  obtain ⟨written, pending⟩ := w
  cases pending with
  | nil => rfl
  | cons piece rest => rcases piece with (_ | _ | _ | _ | _) | _ <;> cases h

theorem weight_after {n : Nat} {w later : Writer} (h : w.after n = some later) :
    w.weight = n + later.weight := by
  induction n generalizing w with
  | zero =>
    cases h
    simp
  | succ n ih =>
    obtain ⟨next, hstep, hlater⟩ := exists_step_of_after_succ h
    have hnext := ih hlater
    have hweight := weight_step hstep
    omega

/-- The writer takes all the steps that are left, and then the text is complete. -/
theorem exists_done (w : Writer) :
    ∃ last, w.after w.weight = some last ∧ last.step = .inl w.goal := by
  induction hn : w.weight generalizing w with
  | zero =>
    refine ⟨w, rfl, ?_⟩
    cases hstep : w.step with
    | inl text => rw [goal_of_done hstep]
    | inr next =>
      have hweight := weight_step hstep
      omega
  | succ n ih =>
    cases hstep : w.step with
    | inl text =>
      have hweight := weight_of_done hstep
      omega
    | inr next =>
      have hweight := weight_step hstep
      obtain ⟨last, hlast, hdone⟩ := ih next (by omega)
      refine ⟨last, ?_, ?_⟩
      · rw [after_succ_of_step hstep, hlast]
      · rw [hdone, goal_step hstep]

theorem goal_start (v : Value) : (start v).goal = v.text := by
  simp [start, goal, Piece.spelling]

/-- Writing a value ends after as many steps as the value weighs, with the text that the
recursion on the value gives. On the way, what is written and what is pending make up that
text at every point. -/
theorem serialize_run (v : Value) :
    v.serialize = v.text ∧
    (∃ last, (start v).after (Piece.valueWeight v) = some last ∧ last.step = .inl v.serialize) ∧
    ∀ n w, (start v).after n = some w →
      w.written ++ String.join (w.pending.map Piece.spelling) = v.text ∧
        n + w.weight = Piece.valueWeight v := by
  refine ⟨v.serialize_eq_text, ?_, fun n w h => ⟨?_, ?_⟩⟩
  · obtain ⟨last, hlast, hdone⟩ := exists_done (start v)
    rw [weight_start] at hlast
    rw [goal_start] at hdone
    exact ⟨last, hlast, by rw [hdone, v.serialize_eq_text]⟩
  · rw [← goal_eq, goal_after h, goal_start]
  · rw [← weight_start v, weight_after h]

/-- After four steps both pairs are open, and their members and ends are pending in order. -/
theorem serialize_run_leftNested :
    (start (.pair (.pair .null (.boolean true)) .null)).after 4 =
        some ⟨"(pair (pair ", [.value .null, .text " ", .value (.boolean true), .text ")",
          .text " ", .value .null, .text ")"]⟩ ∧
      "(pair (pair " ++ String.join ["null", " ", "true", ")", " ", "null", ")"] =
        Value.text (.pair (.pair .null (.boolean true)) .null) := by
  have hafter : (start (.pair (.pair .null (.boolean true)) .null)).after 4 =
      some ⟨"(pair (pair ", [.value .null, .text " ", .value (.boolean true), .text ")",
        .text " ", .value .null, .text ")"]⟩ := by rfl
  obtain ⟨-, -, hruns⟩ := serialize_run (.pair (.pair .null (.boolean true)) .null)
  exact ⟨hafter, (hruns 4 _ hafter).1⟩

end RuntimeValues.Writer

import RuntimeValues.Value.Basic

/-!
# The text of a value

Numbers are written in decimal and a pair as `(pair A B)`; functions all have the same
text. `Value.text` says this by recursion on the value. `Value.serialize` writes the same
text from left to right with a list of pieces still to be written, so that deeply nested
values need no deep recursion, and `serialize_eq_text` says that the two agree.
-/

namespace RuntimeValues

set_option autoImplicit false

/-- The text of a value, by recursion on its members. -/
def Value.text : Value → String
  | number n => n.toInt.repr
  | boolean b => if b then "true" else "false"
  | null => "null"
  | pair first second => "(pair " ++ first.text ++ " " ++ second.text ++ ")"
  | function _ => "function"

/-- Something that is still to be written. -/
inductive Piece where
  | value (v : Value)
  | text (s : String)

/-- A text under way: what is written, and what is pending with the next piece first. -/
structure Writer where
  written : String
  pending : List Piece

namespace Piece

/-- What the piece adds to the text. -/
def spelling : Piece → String
  | value v => v.text
  | text s => s

/-- The number of steps that writing the value takes. -/
def valueWeight : Value → Nat
  | .pair first second => valueWeight first + valueWeight second + 4
  | _ => 1

def weight : Piece → Nat
  | value v => valueWeight v
  | text _ => 1

end Piece

namespace Writer

/-- Writes the next piece, or breaks it up if it is a pair. Without a next piece the text
is complete. -/
def step : Writer → String ⊕ Writer
  | ⟨written, []⟩ => .inl written
  | ⟨written, .text s :: rest⟩ => .inr ⟨written ++ s, rest⟩
  | ⟨written, .value (.pair first second) :: rest⟩ =>
    .inr ⟨written, .text "(pair " :: .value first :: .text " " :: .value second ::
      .text ")" :: rest⟩
  | ⟨written, .value (.number n) :: rest⟩ => .inr ⟨written ++ n.toInt.repr, rest⟩
  | ⟨written, .value (.boolean b) :: rest⟩ =>
    .inr ⟨written ++ (if b then "true" else "false"), rest⟩
  | ⟨written, .value .null :: rest⟩ => .inr ⟨written ++ "null", rest⟩
  | ⟨written, .value (.function _) :: rest⟩ => .inr ⟨written ++ "function", rest⟩

/-- The number of steps left. Every step lowers it by one, though a pair lengthens the list
of pending pieces. -/
def weight (w : Writer) : Nat := w.pending.foldr (fun piece total => piece.weight + total) 0

/-- The complete text that the writer is going to give. -/
def goal (w : Writer) : String :=
  w.pending.foldl (fun text piece => text ++ piece.spelling) w.written

theorem weight_step {w next : Writer} (h : w.step = .inr next) : w.weight = next.weight + 1 := by
  obtain ⟨written, pending⟩ := w
  rcases pending with _ | ⟨(_ | _ | _ | ⟨first, second⟩ | _) | s, rest⟩ <;>
    simp only [step, Sum.inr.injEq, reduceCtorEq] at h
  all_goals
    subst h
    simp [weight, Piece.weight, Piece.valueWeight]
  all_goals omega

/-- Runs the writer until its text is complete. -/
def finish (w : Writer) : String :=
  match _h : w.step with
  | .inl text => text
  | .inr next => next.finish
termination_by w.weight
decreasing_by
  have hweight := weight_step _h
  omega

theorem goal_step {w next : Writer} (h : w.step = .inr next) : next.goal = w.goal := by
  obtain ⟨written, pending⟩ := w
  rcases pending with _ | ⟨(_ | _ | _ | ⟨first, second⟩ | _) | s, rest⟩ <;>
    simp only [step, Sum.inr.injEq, reduceCtorEq] at h
  all_goals
    subst h
    simp [goal, Piece.spelling, Value.text, String.append_assoc]

theorem goal_of_done {w : Writer} {text : String} (h : w.step = .inl text) : w.goal = text := by
  obtain ⟨written, pending⟩ := w
  rcases pending with _ | ⟨(_ | _ | _ | ⟨first, second⟩ | _) | s, rest⟩ <;>
    simp only [step, Sum.inl.injEq, reduceCtorEq] at h
  exact h

theorem finish_eq_goal (w : Writer) : w.finish = w.goal := by
  induction h : w.weight using Nat.strongRecOn generalizing w with
  | ind n ih =>
    rw [finish]
    split
    next text hs => exact (goal_of_done hs).symm
    next next hs =>
      have hweight := weight_step hs
      rw [← goal_step hs]
      exact ih next.weight (by omega) next rfl

end Writer

namespace Value

/-- The text of a value, written without deep recursion. -/
def serialize (v : Value) : String := Writer.finish ⟨"", [.value v]⟩

theorem serialize_eq_text (v : Value) : v.serialize = v.text := by
  simp [serialize, Writer.finish_eq_goal, Writer.goal, Piece.spelling]

/-- The text of a value where it is to be told from other data. -/
def debugText (v : Value) : String := "Value(" ++ v.serialize ++ ")"

end Value

end RuntimeValues

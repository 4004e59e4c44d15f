import RuntimeValues.Value.Sequence

/-!
# Lists and their elements

A value is a list of given elements in one way only: as the chain of pairs that ends in null.
Walking such a chain gives the elements back in their order, whatever they are, and a walk
that succeeds has met nothing but such a chain. A walk that fails has come to the tail of an
improper list.
-/

namespace RuntimeValues.Value

set_option autoImplicit false

/-- What a walk gives are the elements that were passed and, after them, those of the rest. -/
theorem walk_eq_ok_iff {passed elements : List Value} {v : Value} :
    walk passed v = .ok elements ↔ ∃ rest, v = ofList rest ∧ elements = passed.reverse ++ rest := by
  constructor
  · intro h
    induction v generalizing passed with
    | null =>
      cases h
      exact ⟨[], rfl, by simp⟩
    | pair first second _ ih =>
      obtain ⟨rest, rfl, rfl⟩ := ih h
      exact ⟨first :: rest, rfl, by simp⟩
    | number _ | boolean _ | function _ => cases h
  · rintro ⟨rest, rfl, rfl⟩
    exact walk_ofList passed rest

/-- Building lists and taking their elements are inverse to each other. -/
theorem toList_eq_ok_iff (v : Value) (elements : List Value) :
    v.toList = .ok elements ↔ v = ofList elements := by
  rw [toList, walk_eq_ok_iff]
  constructor
  · rintro ⟨rest, rfl, rfl⟩
    rfl
  · rintro rfl
    exact ⟨elements, rfl, rfl⟩

/-- What stands at the end of a chain of pairs. -/
def tail : Value → Value
  | pair _ second => second.tail
  | v => v

theorem kind_tail (v : Value) : v.tail.kind ≠ .pair := by
  induction v with
  | pair first second _ ih => exact ih
  | number _ | boolean _ | null | function _ => exact Kind.noConfusion

/-- A walk fails at the tail, if that is not null. -/
theorem tail_of_walk {passed : List Value} {v : Value} {e : ValueError}
    (h : walk passed v = .error e) : v.tail ≠ null ∧ ∃ count, e = improperTail count v.tail := by
  induction v generalizing passed with
  | pair first second _ ih => exact ih h
  | null => cases h
  | number _ | boolean _ | function _ =>
    cases h
    exact ⟨Value.noConfusion, passed.length, rfl⟩

theorem cause_of_walk {passed : List Value} {v : Value} {e : ValueError}
    (h : walk passed v = .error e) : e.cause = .typeMismatch .getFirst v.tail.kind := by
  obtain ⟨-, count, rfl⟩ := tail_of_walk h
  rfl

end RuntimeValues.Value

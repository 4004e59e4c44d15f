import RuntimeValues.Proofs.Value.Reader
import RuntimeValues.Proofs.Value.Sequence

/-!
# The walk along a chain

Every value is a chain of pairs with something at its end that is no pair. Walking it passes the
first members one at a time and looks into none of them, so it takes as many steps as there are
pairs on the chain, however large the members are. What stands at the end decides what comes of
the walk: null makes a list, and anything else an error that tells how many members were passed
and how the end is written.
-/

namespace RuntimeValues

set_option autoImplicit false

namespace Value

/-- The first members that are met along the second members. -/
def spine : Value → List Value
  | pair first second => first :: second.spine
  | _ => []

theorem foldr_spine (v : Value) : v.spine.foldr pair v.tail = v := by
  induction v with
  | pair first second _ ih => exact congrArg (pair first) ih
  | number _ | boolean _ | null | function _ => rfl

/-- What is no pair is its own end. -/
theorem spine_of_kind_ne {v : Value} (h : v.kind ≠ .pair) : v.spine = [] ∧ v.tail = v := by
  cases v with
  | pair first second => exact absurd rfl h
  | number _ | boolean _ | null | function _ => exact ⟨rfl, rfl⟩

/-- Walking a chain comes down to what is done at its end. -/
theorem walk_tail (passed : List Value) (v : Value) :
    walk (v.spine.reverse ++ passed) v.tail = walk passed v := by
  induction v generalizing passed with
  | pair first second _ ih =>
    rw [walk, ← ih (first :: passed), spine, List.reverse_cons, List.append_assoc]
    rfl
  | number _ | boolean _ | null | function _ => rfl

theorem walk_of_kind_ne {passed : List Value} {v : Value} (h : v.kind ≠ .pair) :
    walk passed v =
      if v = null then .ok passed.reverse else .error (improperTail passed.length v) := by
  cases v with
  | pair first second => exact absurd rfl h
  | number _ | boolean _ | null | function _ => rfl

theorem toList_eq (v : Value) :
    v.toList = if v.tail = null then .ok v.spine else .error (improperTail v.spine.length v.tail) := by
  rw [toList, ← walk_tail, walk_of_kind_ne v.kind_tail, List.append_nil, List.reverse_reverse,
    List.length_reverse]

/-- The end of a chain is never written as a pair. -/
theorem serialize_tail_ne (v first second : Value) :
    v.tail.serialize ≠ (pair first second).serialize := by
  intro h
  rw [serialize_eq_text, serialize_eq_text] at h
  have hread := Reader.read_text v.tail
  rw [h, Reader.read_text] at hread
  have hkind := v.kind_tail
  cases hend : v.tail with
  | pair _ _ => exact hkind (by rw [hend]; rfl)
  | number _ | boolean _ | null | function _ =>
    rw [hend] at hread
    exact Value.noConfusion (Option.some.inj hread)

end Value

namespace Walk

theorem step_of_kind_ne {w : Walk} (h : w.rest.kind ≠ .pair) :
    w.step = .inl (Value.walk w.passed w.rest) := by
  rw [step_eq]
  cases hrest : w.rest with
  | pair first second =>
    rw [hrest] at h
    exact absurd rfl h
  | number _ | boolean _ | null | function _ => rfl

/-- The walk passes one member of the chain with every step and stops at the end of it. -/
theorem after_eq (k : Nat) (passed : List Value) (v : Value) :
    after k ⟨passed, v⟩ =
      if k ≤ v.spine.length then
        some ⟨(v.spine.take k).reverse ++ passed, (v.spine.drop k).foldr .pair v.tail⟩
      else none := by
  induction k generalizing passed v with
  | zero => simp [after, Value.foldr_spine]
  | succ k ih =>
    cases v with
    | pair first second =>
      have hstep : step ⟨passed, .pair first second⟩ = .inr ⟨first :: passed, second⟩ := rfl
      simp only [after, hstep, ih, Value.spine, Value.tail, List.length_cons,
        Nat.add_le_add_iff_right, List.take_succ_cons, List.drop_succ_cons, List.reverse_cons,
        List.append_assoc, List.singleton_append]
    | number _ | boolean _ | null | function _ =>
      exact (if_neg (Nat.not_succ_le_zero k)).symm

end Walk

/-- The end of a chain decides whether the chain is a list, and an improper one is told by its
end and by the number of members before it. The walk takes one step for each pair on the chain
and is then over with this result. -/
theorem Value.toList_decided_by_tail (v : Value) :
    v.spine.foldr pair v.tail = v ∧ v.tail.kind ≠ .pair ∧
    (v.kind ≠ .pair → v.spine = [] ∧ v.tail = v) ∧
    (∀ elements, v.toList = .ok elements ↔ v.tail = null ∧ elements = v.spine) ∧
    (v.tail ≠ null → ∃ e, v.toList = .error e ∧
      e.cause = .typeMismatch .getFirst v.tail.kind ∧ e.details.context = .buildingList ∧
      e.details.note = "improper list: the tail after " ++ v.spine.length.repr ++
        " element(s) is `" ++ v.tail.serialize ++ "`") ∧
    (∀ first second, v.tail.serialize ≠ (pair first second).serialize) ∧
    (∀ k, (Walk.start v).after k =
      if k ≤ v.spine.length then
        some ⟨(v.spine.take k).reverse, (v.spine.drop k).foldr pair v.tail⟩
      else none) ∧
    Walk.step ⟨v.spine.reverse, v.tail⟩ = .inl v.toList := by
  refine ⟨v.foldr_spine, v.kind_tail, spine_of_kind_ne, fun elements => ?_, fun hend => ?_,
    v.serialize_tail_ne, fun k => ?_, ?_⟩
  · rw [toList_eq]
    split
    next hend => simp [hend, eq_comm]
    next hend => simp [hend]
  · exact ⟨_, by rw [toList_eq, if_neg hend], rfl, rfl, rfl⟩
  · have hafter := Walk.after_eq k [] v
    rw [List.append_nil] at hafter
    exact hafter
  · rw [Walk.step_of_kind_ne v.kind_tail, toList, ← walk_tail [] v, List.append_nil]

/-- A chain of two pairs whose members are improper lists themselves and which ends in true. -/
def Value.improperChain : Value :=
  .pair (.pair (.number 1) (.number 2)) (.pair (.pair .null (.boolean false)) (.boolean true))

theorem Value.toList_decided_by_tail_improperChain :
    improperChain.tail ≠ null ∧ improperChain.kind = .pair ∧
      (∃ e, improperChain.toList = .error e ∧ e.cause = .typeMismatch .getFirst .boolean ∧
        e.details.context = .buildingList ∧
        e.details.note = "improper list: the tail after " ++ Nat.repr 2 ++ " element(s) is `" ++
          (Value.boolean true).serialize ++ "`") ∧
      (Walk.start improperChain).after 2 =
        some ⟨[.pair .null (.boolean false), .pair (.number 1) (.number 2)], .boolean true⟩ ∧
      (Walk.start improperChain).after 3 = none := by
  have hend : improperChain.tail ≠ null := Value.noConfusion
  obtain ⟨-, -, -, -, himproper, -, hafter, -⟩ := toList_decided_by_tail improperChain
  exact ⟨hend, rfl, himproper hend, hafter 2, hafter 3⟩

end RuntimeValues

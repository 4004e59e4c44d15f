import RuntimeValues.Proofs.Text.Enumeration

/-!
# The layout of enumerations

An enumeration is its items in their order, each written once between its marks, and after each
item what its position asks for: nothing after the last one, the conjunction between the last two,
and a comma everywhere else. Nothing is assumed of the items, the marks or the conjunction. They
may be empty, be the same, or hold commas themselves.

Working out an enumeration ends for every list. It stops with two items rather than with none, so
it takes as many calls inside each other as there are items less one, and one call at least.
-/

namespace RuntimeValues.Text

set_option autoImplicit false

/-- An item between the marks. -/
def enclosed (before after item : String) : String := before ++ item ++ after

/-- What stands after the item at this position, counted from zero, of an enumeration of so many
items. -/
def separatorAfter (conjunction : String) (count position : Nat) : String :=
  if position + 1 = count then ""
  else if position + 2 = count then " " ++ conjunction ++ " "
  else ", "

/-- How many calls are inside each other while these items are enumerated. -/
def nestedCalls (items : List String) : Nat := max 1 (items.length - 1)

/-- The enumeration, if no more than so many calls are allowed inside each other. -/
def enumerateWithin (conjunction before after : String) : Nat → List String → Option String
  | 0, _ => none
  | _ + 1, [] => some ""
  | _ + 1, [last] => some (before ++ last ++ after)
  | _ + 1, [item, last] =>
    some (before ++ item ++ after ++ " " ++ conjunction ++ " " ++ before ++ last ++ after)
  | depth + 1, item :: rest =>
    (enumerateWithin conjunction before after depth rest).map fun text =>
      before ++ item ++ after ++ ", " ++ text

variable (conjunction before after : String)

theorem separatorAfter_succ (count position : Nat) :
    separatorAfter conjunction (count + 1) (position + 1) =
      separatorAfter conjunction count position := by
  have hlast : position + 1 + 1 = count + 1 ↔ position + 1 = count := by omega
  have hnext : position + 1 + 2 = count + 1 ↔ position + 2 = count := by omega
  simp only [separatorAfter, hlast, hnext]

theorem separatorAfter_first (rest : List String) :
    separatorAfter conjunction (rest.length + 1) 0 = joiner conjunction rest := by
  rcases rest with _ | ⟨last, _ | ⟨next, rest⟩⟩ <;> simp [separatorAfter, joiner]

/-- Item by item: every item is written once, at its own place. -/
theorem enumerate_eq_join (items : List String) :
    enumerate conjunction before after items =
      String.join (items.mapIdx fun position item =>
        enclosed before after item ++ separatorAfter conjunction items.length position) := by
  induction items with
  | nil => rfl
  | cons item rest ih =>
    rw [enumerate_cons, ih, List.mapIdx_cons, String.join_cons, List.length_cons,
      separatorAfter_first]
    simp only [separatorAfter_succ, enclosed, String.append_assoc]

/-- Commas between all items but the last two, which are joined by the conjunction. -/
theorem enumerate_concat (first : String) (middle : List String) (last : String) :
    enumerate conjunction before after (first :: middle ++ [last]) =
      ", ".intercalate ((first :: middle).map (enclosed before after)) ++
        " " ++ conjunction ++ " " ++ enclosed before after last := by
  induction middle generalizing first with
  | nil => simp [enumerate, enclosed, String.append_assoc]
  | cons next rest ih =>
    have hcomma : joiner conjunction (next :: rest ++ [last]) = ", " := by
      cases rest <;> rfl
    have hwords : ", ".intercalate ((first :: next :: rest).map (enclosed before after)) =
        enclosed before after first ++ ", " ++
          ", ".intercalate ((next :: rest).map (enclosed before after)) :=
      String.intercalate_cons_cons
    rw [List.cons_append, enumerate_cons, hcomma, ih next, hwords]
    simp only [enclosed, String.append_assoc]

theorem nestedCalls_cons (item next third : String) (rest : List String) :
    nestedCalls (item :: next :: third :: rest) = nestedCalls (next :: third :: rest) + 1 := by
  simp only [nestedCalls, List.length_cons]
  omega

theorem nestedCalls_pos (items : List String) : 0 < nestedCalls items := by
  simp only [nestedCalls]
  omega

/-- The induction is on the depth that is allowed. Up to two items there is no further call, and
for more there is one with an item less. -/
theorem enumerateWithin_eq (depth : Nat) (items : List String) :
    enumerateWithin conjunction before after depth items =
      if nestedCalls items ≤ depth then some (enumerate conjunction before after items)
      else none := by
  induction depth generalizing items with
  | zero =>
    have hnone : ¬ nestedCalls items ≤ 0 := Nat.not_le.mpr (nestedCalls_pos items)
    rw [if_neg hnone, enumerateWithin]
  | succ depth ih =>
    rcases items with _ | ⟨item, _ | ⟨next, _ | ⟨third, rest⟩⟩⟩
    · simp [enumerateWithin, enumerate, nestedCalls]
    · simp [enumerateWithin, enumerate, nestedCalls]
    · simp [enumerateWithin, enumerate, nestedCalls]
    · have hmore : nestedCalls (item :: next :: third :: rest) ≤ depth + 1 ↔
          nestedCalls (next :: third :: rest) ≤ depth := by
        rw [nestedCalls_cons]
        omega
      simp only [enumerateWithin, ih, enumerate, hmore]
      split <;> rfl

/-- An enumeration has each item once, in order and between the marks. The items are followed by
commas, the last but one by the conjunction and the last by nothing. Working it out ends: it takes
exactly so many calls inside each other, for however many items. -/
theorem enumeration_laid_out :
    enumerate conjunction before after [] = "" ∧
    (∀ item, enumerate conjunction before after [item] = enclosed before after item) ∧
    (∀ first middle last, enumerate conjunction before after (first :: middle ++ [last]) =
      ", ".intercalate ((first :: middle).map (enclosed before after)) ++
        " " ++ conjunction ++ " " ++ enclosed before after last) ∧
    (∀ items, enumerate conjunction before after items =
      String.join (items.mapIdx fun position item =>
        enclosed before after item ++ separatorAfter conjunction items.length position)) ∧
    ∀ depth items text, enumerateWithin conjunction before after depth items = some text ↔
      nestedCalls items ≤ depth ∧ text = enumerate conjunction before after items := by
  refine ⟨rfl, fun item => rfl, enumerate_concat conjunction before after,
    enumerate_eq_join conjunction before after, fun depth items text => ?_⟩
  rw [enumerateWithin_eq]
  split
  next h => simp [h, eq_comm]
  next h => simp [h]

-- an item that holds a comma, and marks that are the same as the conjunction
example : enumerate "," "," "," ["a", "b, c", "d"] = ",a,, ,b, c, , ,d," := rfl

end RuntimeValues.Text

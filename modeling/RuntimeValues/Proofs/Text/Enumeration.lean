import RuntimeValues.Text.Enumeration
import RuntimeValues.Proofs.Text.Separator

/-!
# Reading enumerations

An enumeration can be read back into its items, whatever they contain, as long as the mark that
closes an item does not occur in any of them. The letter after a closing mark says how the
enumeration goes on: there is none after the last item, a blank before the conjunction, and a
comma everywhere else. So the items may well hold commas, blanks or the conjunction itself.
-/

namespace RuntimeValues.Text

set_option autoImplicit false

/-- What stands between an item and the items that follow it. -/
def joiner (conjunction : String) : List String → String
  | [] => ""
  | [_] => " " ++ conjunction ++ " "
  | _ => ", "

/-- The letter after an item that is followed by these. -/
def joinerLetter : List String → Option Char
  | [] => none
  | [_] => some ' '
  | _ => some ','

variable {conjunction before after : String} {mark : Char}

theorem enumerate_cons (conjunction before after item : String) (rest : List String) :
    enumerate conjunction before after (item :: rest) =
      before ++ (item ++
        (after ++ (joiner conjunction rest ++ enumerate conjunction before after rest))) := by
  rcases rest with _ | ⟨last, _ | ⟨next, rest⟩⟩ <;>
    simp [enumerate, joiner, String.append_assoc]

theorem head?_joiner_append (conjunction before after : String) (rest : List String) :
    (joiner conjunction rest ++ enumerate conjunction before after rest).toList.head? =
      joinerLetter rest := by
  rcases rest with _ | ⟨last, _ | ⟨next, rest⟩⟩ <;> simp [enumerate, joiner, joinerLetter]

theorem not_mem_joiner {c : Char} (hletters : c ≠ ' ' ∧ c ≠ ',') (hword : c ∉ conjunction.toList)
    (rest : List String) : c ∉ (joiner conjunction rest).toList := by
  rcases rest with _ | ⟨last, _ | ⟨next, rest⟩⟩ <;> simp [joiner, hletters, hword]

/-- Every letter of an enumeration is one of an item or of what stands around the items. -/
theorem not_mem_enumerate {c : Char} (hletters : c ≠ ' ' ∧ c ≠ ',')
    (hword : c ∉ conjunction.toList) (hbefore : c ∉ before.toList) (hafter : c ∉ after.toList)
    {items : List String} (hitems : ∀ item ∈ items, c ∉ item.toList) :
    c ∉ (enumerate conjunction before after items).toList := by
  induction items with
  | nil => simp [enumerate]
  | cons item rest ih =>
    obtain ⟨hitem, hrest⟩ := List.forall_mem_cons.mp hitems
    have hjoiner := not_mem_joiner hletters hword rest
    rw [enumerate_cons]
    simp [hbefore, hitem, hafter, hjoiner, ih hrest]

theorem joiner_eq_of_letter {rest rest' : List String} (h : joinerLetter rest = joinerLetter rest') :
    joiner conjunction rest = joiner conjunction rest' := by
  rcases rest with _ | ⟨last, _ | ⟨next, rest⟩⟩ <;>
    rcases rest' with _ | ⟨last', _ | ⟨next', rest'⟩⟩ <;> first | rfl | cases h

theorem enumerate_cons_ne_empty (hafter : after.toList.head? = some mark) (item : String)
    (rest : List String) : enumerate conjunction before after (item :: rest) ≠ "" := by
  intro h
  rw [enumerate_cons] at h
  simp only [String.append_eq_empty_iff] at h
  obtain ⟨-, -, hempty, -⟩ := h
  rw [hempty] at hafter
  cases hafter

/-- The text of an enumeration tells the items, in their order and with the repeated ones. -/
theorem enumerate_injective (hafter : after.toList.head? = some mark) {items items' : List String}
    (hitems : ∀ item ∈ items, mark ∉ item.toList) (hitems' : ∀ item ∈ items', mark ∉ item.toList)
    (h : enumerate conjunction before after items = enumerate conjunction before after items') :
    items = items' := by
  induction items generalizing items' with
  | nil =>
    cases items' with
    | nil => rfl
    | cons item' rest' => exact absurd h.symm (enumerate_cons_ne_empty hafter item' rest')
  | cons item rest ih =>
    cases items' with
    | nil => exact absurd h (enumerate_cons_ne_empty hafter item rest)
    | cons item' rest' =>
      obtain ⟨hitem, hrest⟩ := List.forall_mem_cons.mp hitems
      obtain ⟨hitem', hrest'⟩ := List.forall_mem_cons.mp hitems'
      rw [enumerate_cons, enumerate_cons] at h
      obtain ⟨rfl, hclosed⟩ := append_inj_of_opens hitem hitem'
        (opens_append_of_head hafter _) (opens_append_of_head hafter _)
        ((String.append_right_inj before).mp h)
      have hgoesOn := (String.append_right_inj after).mp hclosed
      have hletter := congrArg (fun text => text.toList.head?) hgoesOn
      simp only [head?_joiner_append] at hletter
      rw [joiner_eq_of_letter hletter] at hgoesOn
      rw [ih hrest hrest' ((String.append_right_inj _).mp hgoesOn)]

end RuntimeValues.Text

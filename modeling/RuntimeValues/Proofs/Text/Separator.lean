import RuntimeValues.Diagnostic.Code

/-!
# Taking texts apart

A text that is put together from parts can be taken apart again where a part ends before a
letter that does not occur in it. Numbers in decimal consist of digits, so they end before any
other letter, and zeros in front of them do not change which number is read.
-/

namespace RuntimeValues.Text

set_option autoImplicit false

/-- The text is empty or starts with this letter. -/
def Opens (separator : Char) (text : String) : Prop := ∀ c ∈ text.toList.head?, c = separator

variable {separator : Char} {word word' rest rest' : String}

theorem opens_empty (separator : Char) : Opens separator "" := by simp [Opens]

theorem opens_append (hword : Opens separator word) (hrest : Opens separator rest) :
    Opens separator (word ++ rest) := by
  intro c hc
  rw [String.toList_append] at hc
  cases hletters : word.toList with
  | nil =>
    rw [hletters, List.nil_append] at hc
    exact hrest c hc
  | cons d letters =>
    rw [hletters] at hc
    exact hword c (by rw [hletters]; exact hc)

theorem opens_append_of_head (h : word.toList.head? = some separator) (rest : String) :
    Opens separator (word ++ rest) := by
  intro c hc
  rw [String.toList_append, List.head?_append, h] at hc
  exact (Option.some.inj hc).symm

/-- A word ends where a separator follows or nothing at all. -/
theorem takeWhile_append (hword : separator ∉ word.toList) (hrest : Opens separator rest) :
    (word ++ rest).toList.takeWhile (fun c => decide (c ≠ separator)) = word.toList := by
  have hletters : ∀ c ∈ word.toList, decide (c ≠ separator) = true := by
    intro c hc
    refine decide_eq_true fun heq => hword ?_
    rw [← heq]
    exact hc
  rw [String.toList_append, List.takeWhile_append_of_pos hletters]
  cases hopens : rest.toList with
  | nil => simp
  | cons c letters =>
    have hc : c = separator := hrest c (by simp [hopens])
    simp [hc]

/-- Two texts that are the same have the same word in front and the same rest after it. -/
theorem append_inj_of_opens (hword : separator ∉ word.toList) (hword' : separator ∉ word'.toList)
    (hrest : Opens separator rest) (hrest' : Opens separator rest')
    (h : word ++ rest = word' ++ rest') : word = word' ∧ rest = rest' := by
  have hwords : word.toList = word'.toList := by
    rw [← takeWhile_append hword hrest, h, takeWhile_append hword' hrest']
  obtain rfl := String.toList_inj.mp hwords
  exact ⟨rfl, (String.append_right_inj word).mp h⟩

theorem repr_injective {m n : Nat} (h : m.repr = n.repr) : m = n := by
  have hread := congrArg (fun text => Nat.ofDigitChars 10 text.toList 0) h
  simpa only [Nat.toList_repr, Nat.ofDigitChars_ten_toDigits] using hread

theorem isDigit_of_mem_repr {n : Nat} {c : Char} (h : c ∈ n.repr.toList) : c.isDigit = true := by
  rw [Nat.toList_repr] at h
  exact Nat.isDigit_of_mem_toDigits (by decide) (by decide) h

theorem zeroPadded_injective {width m n : Nat} (h : zeroPadded width m = zeroPadded width n) :
    m = n := by
  have hread := congrArg (fun text => Nat.ofDigitChars 10 text.toList 0) h
  simpa only [zeroPadded, String.toList_append, String.toList_ofList, Nat.ofDigitChars_append,
    Nat.ofDigitChars_replicate_zero, Nat.mul_zero, Nat.toList_repr,
    Nat.ofDigitChars_ten_toDigits] using hread

theorem isDigit_of_mem_zeroPadded {width n : Nat} {c : Char}
    (h : c ∈ (zeroPadded width n).toList) : c.isDigit = true := by
  rw [zeroPadded, String.toList_append, String.toList_ofList, List.mem_append] at h
  rcases h with hzero | hdigit
  · rw [List.eq_of_mem_replicate hzero]
    rfl
  · exact isDigit_of_mem_repr hdigit

end RuntimeValues.Text

import RuntimeValues.Diagnostic.Basic

/-!
# Error codes

The code of an error: the letter E and the number `100 * area + number` in decimal, filled
up with zeros to four digits. Longer numbers are written in full.
-/

namespace RuntimeValues

set_option autoImplicit false

/-- The decimal digits of a number, filled up with zeros on the left to the given width. -/
def zeroPadded (width n : Nat) : String :=
  String.ofList (List.replicate (width - n.repr.length) '0') ++ n.repr

theorem length_zeroPadded (width n : Nat) :
    (zeroPadded width n).length = max width n.repr.length := by
  simp [zeroPadded]
  omega

namespace Cause

variable {κ : Type} [Cause κ]

/-- The number that identifies a cause among all areas. -/
def codeNumber (cause : κ) : Nat := area cause * 100 + number cause

def code (cause : κ) : String := "E" ++ zeroPadded 4 (codeNumber cause)

theorem code_layout (cause : κ) : ∃ zeros,
    code cause = "E" ++ String.ofList (List.replicate zeros '0') ++ (codeNumber cause).repr ∧
      (code cause).length = max 5 ((codeNumber cause).repr.length + 1) := by
  refine ⟨4 - (codeNumber cause).repr.length, ?_, ?_⟩
  · rw [code, zeroPadded, String.append_assoc]
  · have hletter : "E".length = 1 := rfl
    rw [code, String.length_append, hletter, length_zeroPadded]
    omega

end Cause

/-- The code of an error is the code of its cause. -/
def Diagnostic.code {κ : Type} [Cause κ] (d : Diagnostic κ) : String := Cause.code d.cause

end RuntimeValues

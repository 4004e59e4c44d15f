import RuntimeValues.Prelude.Error
import RuntimeValues.Proofs.Value.Fault

/-!
# What codes tell

A code is the letter E and a number in decimal, and zeros in front of it only fill up to four
digits. So two codes are the same exactly if their numbers are. As long as the causes of an area
are numbered below one hundred, the number tells the area and the cause within it, and no two areas
share a code.

The code of a fault does not tell which fault it is, and neither does the message: a program may
raise any text. The two together do. The code tells a raised text from everything else, and the
message tells the rest.
-/

namespace RuntimeValues

set_option autoImplicit false

namespace Cause

variable {κ κ' : Type} [Cause κ] [Cause κ'] {cause : κ} {cause' : κ'}

theorem code_eq_iff : code cause = code cause' ↔ codeNumber cause = codeNumber cause' := by
  constructor
  · exact codeNumber_eq
  · intro h
    rw [code, code, h]

/-- Below one hundred the number of the cause does not reach the digits of the area. -/
theorem codeNumber_eq_iff (h : number cause < 100) (h' : number cause' < 100) :
    codeNumber cause = codeNumber cause' ↔
      area cause = area cause' ∧ number cause = number cause' := by
  unfold codeNumber
  omega

end Cause

namespace Fault

theorem number_lt (fault : Fault) : fault.number < 100 := by
  cases fault <;> simp [number]

theorem code_eq_iff_number {a b : Fault} : Cause.code a = Cause.code b ↔ a.number = b.number := by
  rw [Cause.code_eq_iff, Cause.codeNumber_eq_iff a.number_lt b.number_lt]
  exact and_iff_right rfl

theorem eq_iff_code_and_message {a b : Fault} :
    a = b ↔ Cause.code a = Cause.code b ∧ a.message = b.message := by
  constructor
  · rintro rfl
    exact ⟨rfl, rfl⟩
  · rintro ⟨hcode, hmessage⟩
    exact eq_of_message (code_eq_iff_number.mp hcode) hmessage

theorem code_eq_raised_iff {text : String} {fault : Fault} :
    Cause.code fault = Cause.code (raised text) ↔ ∃ text', fault = raised text' := by
  rw [code_eq_iff_number]
  cases fault <;> simp [number]

theorem code_eq_rebindDuringCall_iff {n : Nat} {fault : Fault} :
    Cause.code fault = Cause.code (rebindDuringCall n) ↔ ∃ m, fault = rebindDuringCall m := by
  rw [code_eq_iff_number]
  cases fault <;> simp [number]

end Fault

theorem UnknownName.number_lt (cause : UnknownName) : Cause.number cause < 100 := by
  have hnumber : Cause.number cause = 0 := rfl
  omega

/-- The areas of the library share no code. -/
theorem ValueError.code_ne (d : ValueError) (e : PreludeError) : d.code ≠ e.code := by
  intro h
  have hnumbers := (Cause.codeNumber_eq_iff d.cause.number_lt e.cause.number_lt).mp
    (Cause.codeNumber_eq h)
  have harea : 1 = 2 := hnumbers.1
  omega

/-- The code and the message together tell the fault, whatever text was raised and however many
calls were counted. Among all errors, the code tells the area and the number of the cause. -/
theorem codes_tell_causes_apart :
    (∀ a b : Fault, a = b ↔ Cause.code a = Cause.code b ∧ a.message = b.message) ∧
    (∀ (text : String) (fault : Fault),
      Cause.code fault = Cause.code (Fault.raised text) ↔ ∃ text', fault = .raised text') ∧
    (∀ (n : Nat) (fault : Fault),
      Cause.code fault = Cause.code (Fault.rebindDuringCall n) ↔ ∃ m, fault = .rebindDuringCall m) ∧
    (∀ {κ : Type} [Cause κ] (d : Diagnostic κ), ∃ zeros,
      d.code = "E" ++ String.ofList (List.replicate zeros '0') ++
        (Cause.area d.cause * 100 + Cause.number d.cause).repr ∧
      d.code.length = max 5 ((Cause.area d.cause * 100 + Cause.number d.cause).repr.length + 1)) ∧
    (∀ {κ κ' : Type} [Cause κ] [Cause κ'] (d : Diagnostic κ) (e : Diagnostic κ'),
      Cause.number d.cause < 100 → Cause.number e.cause < 100 →
      (d.code = e.code ↔
        Cause.area d.cause = Cause.area e.cause ∧ Cause.number d.cause = Cause.number e.cause)) ∧
    ∀ (d : ValueError) (e : PreludeError), d.code ≠ e.code := by
  refine ⟨fun a b => Fault.eq_iff_code_and_message, fun text fault => Fault.code_eq_raised_iff,
    fun n fault => Fault.code_eq_rebindDuringCall_iff, fun d => Cause.code_layout d.cause,
    ?_, ValueError.code_ne⟩
  intro κ κ' _ _ d e hd he
  exact Cause.code_eq_iff.trans (Cause.codeNumber_eq_iff hd he)

/-- A cause that has nothing but its numbers. -/
structure NumberedCause where
  area : Nat
  number : Nat

instance : Cause NumberedCause where
  area := NumberedCause.area
  number := NumberedCause.number
  message _ := ""
  help _ := ""

/-- A text that is raised and looks like another fault. -/
def Fault.imitation : Fault := .raised "cannot rebind a function while 1 call to it is in progress"

/-- The last cause of an area and the first one of the next area have codes that follow on each
other. -/
theorem codes_tell_causes_apart_neighbours :
    Fault.imitation.message = (Fault.rebindDuringCall 1).message ∧
    Cause.code Fault.imitation ≠ Cause.code (Fault.rebindDuringCall 1) ∧
    Cause.number (NumberedCause.mk 42949671 99) < 100 ∧
    Cause.number (NumberedCause.mk 42949672 0) < 100 ∧
    Diagnostic.code ⟨NumberedCause.mk 42949671 99, {}⟩ ≠
      Diagnostic.code ⟨NumberedCause.mk 42949672 0, {}⟩ := by
  obtain ⟨hfaults, -, -, -, hcodes, -⟩ := codes_tell_causes_apart
  have hmessage : Fault.imitation.message = (Fault.rebindDuringCall 1).message := rfl
  have hlast : Cause.number (NumberedCause.mk 42949671 99) < 100 := by decide
  have hfirst : Cause.number (NumberedCause.mk 42949672 0) < 100 := by decide
  refine ⟨hmessage, fun hcode => ?_, hlast, hfirst, fun hcode => ?_⟩
  · have heq := (hfaults .imitation (.rebindDuringCall 1)).mpr ⟨hcode, hmessage⟩
    cases heq
  · obtain ⟨harea, -⟩ := (hcodes ⟨_, {}⟩ ⟨_, {}⟩ hlast hfirst).mp hcode
    exact absurd harea (by decide)

-- numbers that reach one hundred run into the next area
example : Cause.code (NumberedCause.mk 0 100) = Cause.code (NumberedCause.mk 1 0) := rfl

end RuntimeValues

import RuntimeValues.Program.Expr

/-!
# The state of a function

A function from the inside: the body it was made with, the body it was given later if it
was, and how many calls of it are running. A body can be given once, and only while no call
is running; running calls are asked about first. The calls are counted in 64 bits, and the
count wraps around.
-/

namespace RuntimeValues

set_option autoImplicit false

/-- What names stand for, the most recent binding first. -/
abbrev Env := List (String × Value)

/-- What a call of a function does with its argument. -/
inductive Body where
  /-- Evaluates the program with the parameter bound to the argument. -/
  | closure (env : Env) (param : String) (program : Expr)
  /-- Fails, because the function waits for its body. -/
  | unbound
  /-- Does what a function of the prelude does. -/
  | builtin (b : Builtin)
  /-- Makes a pair with this first member. -/
  | pairWith (first : Value)

/-- The state of one function. -/
structure Cell where
  body : Body
  rebound : Option Body := none
  callsInFlight : UInt64 := 0

instance : Inhabited Cell := ⟨⟨.unbound, none, 0⟩⟩

/-- Why a function was not given another body. -/
inductive Refusal where
  | callsInFlight (count : Nat)
  | alreadyRebound
deriving DecidableEq

/-- The error of an attempt that was refused. -/
def Refusal.error : Refusal → ValueError
  | callsInFlight n => (Fault.rebindDuringCall n).error
  | alreadyRebound => Fault.alreadyRebound.error

namespace Cell

/-- The body that a call runs if it starts now. -/
def active (c : Cell) : Body := c.rebound.getD c.body

def isRebound (c : Cell) : Bool := c.rebound.isSome

theorem active_of_not_rebound {c : Cell} (h : c.isRebound = false) : c.active = c.body := by
  obtain ⟨body, rebound, n⟩ := c
  cases rebound with
  | none => rfl
  | some replacement => cases h

/-- A call starts. -/
def enter (c : Cell) : Cell := { c with callsInFlight := c.callsInFlight + 1 }

/-- A call ends, whether with a value or with an error. -/
def leave (c : Cell) : Cell := { c with callsInFlight := c.callsInFlight - 1 }

/-- Gives the function its second body, or says why not. -/
def rebind (c : Cell) (replacement : Body) : Except Refusal Cell :=
  if c.callsInFlight > 0 then .error (.callsInFlight c.callsInFlight.toNat)
  else if c.isRebound then .error .alreadyRebound
  else .ok { c with rebound := some replacement }

@[simp] theorem leave_enter (c : Cell) : c.enter.leave = c := by
  cases c
  simp [enter, leave]

theorem rebind_eq_ok_iff (c : Cell) (replacement : Body) (after : Cell) :
    c.rebind replacement = .ok after ↔
      c.callsInFlight = 0 ∧ c.rebound = none ∧
        after = { c with rebound := some replacement } := by
  obtain ⟨body, rebound, n⟩ := c
  by_cases hn : n = 0
  · cases rebound <;> simp [rebind, isRebound, hn, eq_comm]
  · have hpos : n > 0 := UInt64.pos_iff_ne_zero.mpr hn
    simp [rebind, hpos, hn]

theorem rebind_of_idle {c : Cell} (hcalls : c.callsInFlight = 0) (hnone : c.rebound = none)
    (replacement : Body) : c.rebind replacement = .ok { c with rebound := some replacement } :=
  (rebind_eq_ok_iff c replacement _).mpr ⟨hcalls, hnone, rfl⟩

theorem rebind_of_running {c : Cell} (h : c.callsInFlight ≠ 0) (replacement : Body) :
    c.rebind replacement = .error (.callsInFlight c.callsInFlight.toNat) := by
  rw [rebind, if_pos (UInt64.pos_iff_ne_zero.mpr h)]

theorem rebind_of_rebound {c : Cell} {given : Body} (hcalls : c.callsInFlight = 0)
    (hrebound : c.rebound = some given) (replacement : Body) :
    c.rebind replacement = .error .alreadyRebound := by
  simp [rebind, isRebound, hcalls, hrebound]

end Cell

end RuntimeValues

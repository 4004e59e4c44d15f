import RuntimeValues.Diagnostic.Context

/-!
# What is noted about an error

An error carries a context and a note beside its cause. Both change as the error travels
outwards. A context that is set replaces the old one; a context that is offered is taken
only while the old one is `unknown`; a note that is set replaces the old note. No change
of one part touches the other.
-/

namespace RuntimeValues

set_option autoImplicit false

/-- The context and the note of an error. An empty note is no note. -/
structure Details where
  context : Context := .unknown
  note : String := ""
deriving DecidableEq, Inhabited

/-- A change made to the details of an error on its way outwards. -/
inductive Change where
  | setContext (context : Context)
  | offerContext (context : Option Context)
  | setNote (note : String)
deriving DecidableEq

namespace Details

/-- The details of an error that arose in the given context. -/
def during (context : Context) : Details := ⟨context, ""⟩

def hasNote (d : Details) : Bool := !d.note.isEmpty

/-- The context after an offer: an unknown one gives way, any other one stays. -/
def offered (d : Details) : Option Context → Context
  | none => d.context
  | some c => if d.context = .unknown then c else d.context

def apply (d : Details) : Change → Details
  | .setContext c => ⟨c, d.note⟩
  | .offerContext c => ⟨d.offered c, d.note⟩
  | .setNote m => ⟨d.context, m⟩

/-- All changes, the first one first. -/
def applyAll (d : Details) (changes : List Change) : Details :=
  changes.foldl apply d

/-- The details before the first change and after each change. -/
def trail (d : Details) : List Change → List Details
  | [] => [d]
  | change :: rest => d :: trail (d.apply change) rest

@[simp] theorem apply_setContext (d : Details) (c : Context) :
    d.apply (.setContext c) = ⟨c, d.note⟩ := rfl

@[simp] theorem apply_offerContext (d : Details) (c : Option Context) :
    d.apply (.offerContext c) = ⟨d.offered c, d.note⟩ := rfl

@[simp] theorem apply_setNote (d : Details) (m : String) :
    d.apply (.setNote m) = ⟨d.context, m⟩ := rfl

@[simp] theorem applyAll_nil (d : Details) : d.applyAll [] = d := rfl

@[simp] theorem applyAll_cons (d : Details) (change : Change) (rest : List Change) :
    d.applyAll (change :: rest) = (d.apply change).applyAll rest := rfl

theorem applyAll_append (d : Details) (first second : List Change) :
    d.applyAll (first ++ second) = (d.applyAll first).applyAll second :=
  List.foldl_append

theorem hasNote_iff (d : Details) : d.hasNote = true ↔ d.note ≠ "" := by
  simp [hasNote]

theorem length_trail (d : Details) (changes : List Change) :
    (d.trail changes).length = changes.length + 1 := by
  induction changes generalizing d with
  | nil => rfl
  | cons change rest ih => simp [trail, ih]

/-- The trail ends with the details after all changes. -/
theorem getLast?_trail (d : Details) (changes : List Change) :
    (d.trail changes).getLast? = some (d.applyAll changes) := by
  induction changes generalizing d with
  | nil => rfl
  | cons change rest ih => simp [trail, List.getLast?_cons, ih]

end Details

end RuntimeValues

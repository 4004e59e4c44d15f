import RuntimeValues.Proofs.Prelude.Lookup
import RuntimeValues.Proofs.Session.Prelude
import RuntimeValues.Proofs.Session.RunningCalls

/-!
# The prelude along a session

Looking up a name gives the same outcome wherever it is done, since no program can touch the
table. The functions in the table are touched only by programs that rebind them: a slot never
belongs to one, so a session that rebinds none of them itself leaves all of them as they were,
but for the calls that are running. Nothing that a session makes is ever taken for an entry.
-/

namespace RuntimeValues

set_option autoImplicit false

namespace Point

/-- The evaluation of this program is about to start. -/
def Evaluates (program : Expr) (p : Point) : Prop :=
  ∃ kept request env frames s pending,
    p = .busy kept request ⟨.eval env program, frames, s⟩ pending

/-- The next step rebinds a function of the prelude, or tries to. -/
def rebindsPrelude : Point → Bool
  | busy _ _ ⟨.give (.ok (.function f)), .rebind _ :: _, _⟩ _ =>
    Builtin.all.any fun b => b.id = f
  | _ => false

variable {p : Point}

/-- What is looked up is what the table has under the name. Looking into a table that was built
before changes nothing. -/
theorem Evaluates.lookup {name : String} (h : p.Evaluates (.prelude name))
    (hbuilt : p.store.preludeBuilt = true) :
    (∀ v, p.next.Gives (.ok v) ↔ Prelude.lookup name = some v) ∧ p.next.store = p.store := by
  obtain ⟨kept, request, env, frames, s, pending, rfl⟩ := h
  have hsame : s.usePrelude = s := Store.usePrelude_of_built hbuilt
  cases hlookup : Prelude.lookup name with
  | some v => simp [next, Config.step, Expr.start, hlookup, hsame, Gives, store]
  | none => simp [next, Config.step, Expr.start, hlookup, hsame, Gives, store]

theorem Evaluates.builtin {b : Builtin} (h : p.Evaluates (.builtin b))
    (hbuilt : p.store.preludeBuilt = true) :
    (∀ v, p.next.Gives (.ok v) ↔ b.value = v) ∧ p.next.store = p.store := by
  obtain ⟨kept, request, env, frames, s, pending, rfl⟩ := h
  have hsame : s.usePrelude = s := Store.usePrelude_of_built hbuilt
  simp [next, Config.step, Expr.start, hsame, Gives, store]

end Point

namespace Session

variable {requests : List Request} {k : Nat}

/-- No slot belongs to a function of the prelude. -/
theorem slot_ne_builtin {entry : String × Slot} (h : entry ∈ (point requests k).store.slots)
    (b : Builtin) : entry.2 ≠ ⟨.function b.id⟩ := by
  intro hslot
  obtain ⟨f, body, hcreated, hdeclared⟩ := declared_of_slot h
  rw [hslot] at hdeclared
  cases hdeclared
  exact not_created_builtin b hcreated

/-- Before the point, no program tries to give a function of the prelude another body. -/
def SparesPrelude (requests : List Request) (k : Nat) : Prop :=
  ∀ i < k, ∀ (b : Builtin) (body : Body), ¬ (point requests i).Attempts b.id body

theorem SparesPrelude.rebound (h : SparesPrelude requests k) (b : Builtin) :
    ((point requests k).store.cell b.id).rebound = none :=
  rebound_builtin_of_not_attempts fun i hi => h i hi b

theorem rebindsPrelude_of_attempts {b : Builtin} {body : Body}
    (h : (point requests k).Attempts b.id body) : (point requests k).rebindsPrelude = true := by
  have hslots : ∀ entry ∈ (point requests k).store.slots, entry.2 ≠ ⟨.function b.id⟩ :=
    fun entry hentry => slot_ne_builtin hentry b
  generalize point requests k = p at h hslots
  cases p with
  | idle session pending => exact h.elim
  | busy kept request c pending =>
    cases h with
    | bind hslot => exact absurd rfl (hslots _ (Store.mem_slots_of_slot? hslot))
    | rebind =>
      exact List.any_eq_true.mpr ⟨b, Builtin.mem_all b, decide_eq_true rfl⟩

/-- A session that rebinds no function of the prelude itself gives them no other bodies at all. -/
theorem sparesPrelude_of_not_rebinds
    (h : ∀ i < k, (point requests i).rebindsPrelude = false) : SparesPrelude requests k := by
  intro i hi b body hattempts
  have hrebinds := rebindsPrelude_of_attempts hattempts
  rw [h i hi] at hrebinds
  cases hrebinds

/-- Between two requests no call is running, so a function of the prelude is as it was at first. -/
theorem SparesPrelude.cell_idle (h : SparesPrelude requests k) {session : Session}
    {pending : List Request} (hk : point requests k = .idle session pending) (b : Builtin) :
    session.store.cell b.id = Store.initial.cell b.id := by
  have hbody : ((point requests k).store.cell b.id).body = .builtin b := body_builtin b
  have hrebound := h.rebound b
  have hcalls := counter_idle hk b.id
  rw [hk] at hbody hrebound
  rcases hcell : session.store.cell b.id with ⟨body, rebound, calls⟩
  simp only [Point.store, hcell] at hbody hrebound hcalls
  rw [Store.cell_initial, hbody, hrebound, hcalls]

/-- The ways to look up a name in the prelude agree, for every name and whatever the order of the
table. At every point of a session they give what they give at first. The functions that they
give are never rebound, unless a program rebinds one of them itself, and no session makes one. -/
theorem lookups_agree_along_session (requests : List Request) :
    (∀ name v, Prelude.find name = .ok v ↔ Prelude.lookup name = some v) ∧
    (∀ name, name ∈ Prelude.names ↔ ∃ v, Prelude.lookup name = some v) ∧
    (∀ name v, Prelude.lookup name = some v → v.identical v = .ok true) ∧
    (∀ b : Builtin, Prelude.constant b = b.value) ∧
    (∀ name, name ∉ Prelude.names → ∀ listed : List String, listed.Perm Prelude.names →
      Prelude.find name = .error (PreludeError.unknownName name listed) ∧
      PreludeError.unknownName name listed =
        ⟨⟨name, ["first", "is_null", "null", "pair", "second"]⟩, ⟨.evaluatingPrelude, ""⟩⟩) ∧
    (∀ entries : List (String × Value), entries.Perm Prelude.table →
      ∀ name, entries.lookup name = Prelude.lookup name) ∧
    (∀ k name, (point requests k).Evaluates (.prelude name) →
      (∀ v, (point requests (k + 1)).Gives (.ok v) ↔ Prelude.find name = .ok v) ∧
      (point requests (k + 1)).store = (point requests k).store) ∧
    (∀ k (b : Builtin), (point requests k).Evaluates (.builtin b) →
      (∀ v, (point requests (k + 1)).Gives (.ok v) ↔ Prelude.find b.name = .ok v) ∧
      (point requests (k + 1)).store = (point requests k).store) ∧
    (∀ k, (∀ i < k, (point requests i).rebindsPrelude = false) →
      ∀ name f, Prelude.lookup name = some (.function f) →
        ((point requests k).store.cell f).isRebound = false ∧
        ((point requests k).store.cell f).body = (Store.initial.cell f).body ∧
        ∀ session pending, point requests k = .idle session pending →
          session.store.cell f = Store.initial.cell f) ∧
    ∀ k name f origin body, .created f origin body ∈ history requests k →
      Prelude.lookup name ≠ some (.function f) := by
  refine ⟨fun name v => Prelude.find_eq_ok_iff, fun name => Prelude.mem_names_iff, ?_,
    Prelude.constant_eq,
    fun name hmissing listed hlisted => ⟨Prelude.find_of_missing hmissing hlisted, ?_⟩,
    fun entries hentries name => Prelude.lookup_of_perm hentries name, ?_, ?_, ?_, ?_⟩
  · intro name v h
    rcases Prelude.lookup_eq_some_iff.mp h with ⟨b, -, rfl⟩ | ⟨-, rfl⟩
    · simp [Builtin.value, Value.identical]
    · rfl
  · rw [PreludeError.unknownName, Text.sorted_eq_sorted_iff.mpr hlisted, Prelude.sorted_names]
    rfl
  · intro k name h
    rw [point_succ]
    simp only [Prelude.find_eq_ok_iff]
    exact h.lookup (preludeBuilt_point requests k)
  · intro k b h
    rw [point_succ]
    simp only [Prelude.find_eq_ok_iff, Prelude.lookup_builtin, Option.some.injEq]
    exact h.builtin (preludeBuilt_point requests k)
  · intro k hspares name f h
    obtain ⟨b, -, rfl⟩ := Prelude.lookup_eq_function_iff.mp h
    have hspared := sparesPrelude_of_not_rebinds hspares
    refine ⟨?_, ?_, fun session pending hk => hspared.cell_idle hk b⟩
    · rw [Cell.isRebound, hspared.rebound]
      rfl
    · rw [body_builtin, Store.cell_initial]
  · intro k name f origin body hcreated h
    obtain ⟨b, -, rfl⟩ := Prelude.lookup_eq_function_iff.mp h
    exact not_created_builtin b hcreated

/-- Rebinds a function to a body that fails inside a function of the prelude and looks this one up
again, and compares what a call gives with what is found outside of the call. -/
def lookupInCall : Request where
  question := .view
  program := .letIn "g" (.lambda "x" .null)
    (.andThen
      (.rebind (.var "g") "x" (.attempt (.call (.prelude "first") (.var "x")) (.prelude "first")))
      (.binary .same (.call (.var "g") .null) (.builtin .first)))
  keepAs := none

theorem lookups_agree_along_session_lookupInCall :
    (∀ i < 29, (point [lookupInCall] i).rebindsPrelude = false) ∧
      (point [lookupInCall] 24).Gives (.ok Builtin.first.value) ∧
      (point [lookupInCall] 27).Gives (.ok Builtin.first.value) ∧
      (∃ session, point [lookupInCall] 29 = .idle session [] ∧
        session.store.cell Builtin.first.id = Store.initial.cell Builtin.first.id) ∧
      (∀ name, Prelude.lookup name ≠ some (.function 4)) ∧
      Prelude.find "rest" = .error
        (PreludeError.unknownName "rest" ["null", "second", "pair", "first", "is_null"]) := by
  obtain ⟨hfind, -, -, -, hmissing, -, hlookup, hbuiltin, hkept, hmade⟩ :=
    lookups_agree_along_session [lookupInCall]
  have hspares : ∀ i < 29, (point [lookupInCall] i).rebindsPrelude = false := by decide
  have hfirst : Prelude.find Builtin.first.name = .ok Builtin.first.value :=
    (hfind _ _).mpr (Prelude.lookup_builtin .first)
  have hinCall : (point [lookupInCall] 23).Evaluates (.prelude "first") :=
    ⟨_, _, _, _, _, _, rfl⟩
  have houtside : (point [lookupInCall] 26).Evaluates (.builtin .first) := ⟨_, _, _, _, _, _, rfl⟩
  obtain ⟨-, -, hidle⟩ :=
    hkept 29 hspares Builtin.first.name Builtin.first.id (Prelude.lookup_builtin .first)
  refine ⟨hspares, ((hlookup 23 _ hinCall).1 _).mpr hfirst,
    ((hbuiltin 26 _ houtside).1 _).mpr hfirst, ⟨_, rfl, hidle _ _ rfl⟩, fun name => ?_, ?_⟩
  · exact hmade 4 name 4 .lambda _ (mem_history.mpr ⟨2, by decide, List.mem_singleton.mpr rfl⟩)
  · exact (hmissing "rest" (by decide) _ (by decide)).1

end Session

end RuntimeValues

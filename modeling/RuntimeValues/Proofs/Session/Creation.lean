import RuntimeValues.Proofs.Session.Bodies

/-!
# The functions of a session

A function of a session is one of the prelude or was made at one point of the session. The
history of the session says which and how, and it says so once for each function.
-/

namespace RuntimeValues

set_option autoImplicit false

theorem Point.created_cases {p : Point} {f : FunctionId} {origin : Origin} {body : Body}
    (h : .created f origin body ∈ p.events) :
    (origin = .lambda ∧ body ≠ .unbound) ∨ (origin = .partialApplication ∧ body ≠ .unbound) ∨
      (origin = .recursive ∧ ∃ g, .bound f g ∈ p.events) ∨
      ∃ name, origin = .declared name ∧ p.events = [.created f (.declared name) .unbound] := by
  cases p with
  | idle session pending => cases h
  | busy kept request c pending =>
    rcases Config.created_cases h with hcase | hcase | hcase | ⟨name, -, horigin, -, hevents⟩
    · exact .inl hcase
    · exact .inr (.inl hcase)
    · exact .inr (.inr (.inl hcase))
    · exact .inr (.inr (.inr ⟨name, horigin, hevents⟩))

/-- The next step makes a function. -/
def Point.Makes (origin : Origin) : Point → Prop
  | busy _ _ c _ => c.Makes origin
  | idle _ _ => False

theorem Point.Makes.created {p : Point} {origin : Origin} (h : p.Makes origin) :
    ∃ body, .created p.store.cells.size origin body ∈ p.events := by
  cases p with
  | idle session pending => exact h.elim
  | busy kept request c pending => exact Config.Makes.created h

theorem Point.Makes.unique {p : Point} {origin origin' : Origin} (h : p.Makes origin)
    (h' : p.Makes origin') : origin = origin' := by
  cases p with
  | idle session pending => exact h.elim
  | busy kept request c pending => exact Config.Makes.unique h h'

theorem Point.Makes.gives {p : Point} {origin : Origin} (h : p.Makes origin) :
    p.next.Gives (.ok (.function p.store.cells.size)) := by
  cases p with
  | idle session pending => exact h.elim
  | busy kept request c pending =>
    obtain ⟨next, hstep, hcontrol⟩ := Config.Makes.step h
    exact (gives_next hstep).mpr hcontrol

theorem Point.makes_of_created {p : Point} {f : FunctionId} {origin : Origin} {body : Body}
    (h : .created f origin body ∈ p.events) :
    p.Makes origin ∧ f = p.store.cells.size ∧ ∀ b, body ≠ .builtin b := by
  cases p with
  | idle session pending => cases h
  | busy kept request c pending => exact Config.makes_of_created h

theorem Point.bound_of_recursive {p : Point} {f : FunctionId} {body : Body}
    (h : .created f .recursive body ∈ p.events) : ∃ g, .bound f g ∈ p.events := by
  rcases created_cases h with ⟨horigin, -⟩ | ⟨horigin, -⟩ | ⟨-, hbound⟩ | ⟨name, horigin, -⟩
  · cases horigin
  · cases horigin
  · exact hbound
  · cases horigin

theorem Point.events_of_declared {p : Point} {f : FunctionId} {name : String} {body : Body}
    (h : .created f (.declared name) body ∈ p.events) :
    body = .unbound ∧ p.events = [.created f (.declared name) .unbound] := by
  rcases created_cases h with ⟨horigin, -⟩ | ⟨horigin, -⟩ | ⟨horigin, -⟩ | ⟨name', horigin, hevents⟩
  · cases horigin
  · cases horigin
  · cases horigin
  · cases horigin
    rw [hevents] at h
    cases List.mem_singleton.mp h
    exact ⟨rfl, hevents⟩

namespace Session

variable {requests : List Request} {f : FunctionId} {k : Nat}

theorem mem_history_succ {e : Event} :
    e ∈ history requests (k + 1) ↔ e ∈ history requests k ∨ e ∈ (point requests k).events :=
  List.mem_append

theorem created_ne {origin origin' : Origin} {body body' : Body}
    (h : .created f origin body ∈ history requests k) (hne : origin ≠ origin') :
    .created f origin' body' ∉ history requests k := fun h' =>
  hne (Store.created_unique (allows_history requests k) h h').1

/-- A function that is created at a point was given no body before. -/
theorem rebound_of_created {origin : Origin} {body : Body}
    (h : .created f origin body ∈ (point requests k).events) :
    ((point requests k).store.cell f).rebound = none := by
  have hsize := Store.size_le_created (allows_events_point requests k) h
  rw [Store.cell_of_size_le _ f hsize]
  rfl

theorem body_of_created {origin : Origin} {body : Body}
    (h : .created f origin body ∈ history requests k) :
    ((point requests k).store.cell f).body = body := by
  rw [store_point]
  exact Store.body_of_created (allows_history requests k) h

/-- The functions of the prelude are not made in a session. -/
theorem not_created_builtin (b : Builtin) {origin : Origin} {body : Body} :
    .created b.id origin body ∉ history requests k := by
  intro hcreated
  have hle := Store.size_le_created (allows_history requests k) hcreated
  exact absurd (Store.id_lt_size_initial b) (Nat.not_lt.mpr hle)

theorem body_builtin (b : Builtin) :
    ((point requests k).store.cell b.id).body = .builtin b := by
  rw [store_point, Store.body_after (allows_history requests k) (Store.id_lt_size_initial b),
    Store.cell_initial]

/-- A function of the prelude is given a body only by an attempt that is aimed at it. -/
theorem rebound_builtin_of_not_attempts {b : Builtin}
    (h : ∀ i < k, ∀ body, ¬ (point requests i).Attempts b.id body) :
    ((point requests k).store.cell b.id).rebound = none := by
  rw [Option.eq_none_iff_forall_ne_some]
  intro g hg
  obtain ⟨i, hi, hbound⟩ := rebound_point_iff.mp hg
  rcases Point.attempts_or_created hbound with hattempts | hcreated
  · exact h i hi g hattempts
  · exact not_created_builtin b (mem_history.mpr ⟨i, hi, hcreated⟩)

/-- The functions that were made in the session before a point, in that order. -/
def created (requests : List Request) (k : Nat) : List FunctionId :=
  (history requests k).filterMap Event.creation

theorem mem_created :
    f ∈ created requests k ↔ ∃ origin body, .created f origin body ∈ history requests k := by
  simp only [created, List.mem_filterMap, Event.creation_eq_some]
  constructor
  · rintro ⟨e, he, origin, body, rfl⟩
    exact ⟨origin, body, he⟩
  · rintro ⟨origin, body, h⟩
    exact ⟨_, h, origin, body, rfl⟩

/-- The functions at a point are those of the prelude and those that were made. -/
theorem range_size_point (requests : List Request) (k : Nat) :
    List.range (point requests k).store.cells.size =
      Builtin.all.map Builtin.id ++ created requests k := by
  rw [store_point]
  exact Store.range_size_after (allows_history requests k)

theorem lt_size_of_created {origin : Origin} {body : Body}
    (h : .created f origin body ∈ history requests k) :
    f < (point requests k).store.cells.size := by
  rw [store_point]
  exact Store.created_lt (allows_history requests k) h

/-- Every function is one of the prelude or was made. -/
theorem builtin_or_created (hf : f < (point requests k).store.cells.size) :
    (∃ b : Builtin, f = b.id) ∨ ∃ origin body, .created f origin body ∈ history requests k := by
  have hmem : f ∈ Builtin.all.map Builtin.id ++ created requests k := by
    rw [← range_size_point]
    exact List.mem_range.mpr hf
  rcases List.mem_append.mp hmem with hbuiltin | hcreated
  · obtain ⟨b, -, rfl⟩ := List.mem_map.mp hbuiltin
    exact .inl ⟨b, rfl⟩
  · exact .inr (mem_created.mp hcreated)

/-- What a function of the prelude does is done by no other function. -/
theorem eq_id_of_active {b : Builtin} (hf : f < (point requests k).store.cells.size)
    (h : ((point requests k).store.cell f).active = .builtin b) : f = b.id := by
  have hnot : ¬ (Body.builtin b).IsClosure :=
    fun ⟨env, param, program, heq⟩ => Body.noConfusion heq
  obtain ⟨hbody, -⟩ := body_of_not_closure h hnot
  rcases builtin_or_created hf with ⟨b', rfl⟩ | ⟨origin, body, hcreated⟩
  · rw [body_builtin] at hbody
    cases hbody
    rfl
  · obtain ⟨i, -, hevent⟩ := mem_history.mp hcreated
    obtain ⟨-, -, hne⟩ := Point.makes_of_created hevent
    rw [body_of_created hcreated] at hbody
    exact absurd hbody (hne b)

/-- A function that was not there yet at an earlier point was made in between. -/
theorem created_between {i : Nat} (hi : (point requests i).store.cells.size ≤ f)
    (hf : f < (point requests k).store.cells.size) :
    ∃ j origin body, i ≤ j ∧ j < k ∧ .created f origin body ∈ (point requests j).events := by
  rcases builtin_or_created hf with ⟨b, rfl⟩ | ⟨origin, body, hcreated⟩
  · exact absurd ((wellScoped_point (uses_any requests) i).builtins b) (Nat.not_lt.mpr hi)
  · obtain ⟨j, hj, hevent⟩ := mem_history.mp hcreated
    refine ⟨j, origin, body, Nat.le_of_not_lt fun hji => ?_, hj, hevent⟩
    exact absurd (lt_size_of_created (mem_history.mpr ⟨j, hji, hevent⟩)) (Nat.not_lt.mpr hi)

end Session

end RuntimeValues

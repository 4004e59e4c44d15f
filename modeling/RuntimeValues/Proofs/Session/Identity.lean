import RuntimeValues.Proofs.Call
import RuntimeValues.Proofs.Prelude.Lookup
import RuntimeValues.Proofs.Session.Slots

/-!
# The identity of functions

Every function stems from an entry of the prelude or from the one step of the session that made
it. Two functions are the same exactly if they stem from the same birth: a step refers to no
function that was not referred to before, but for the functions of the prelude and the one that
the step makes, and what is referred to is in the store, where the next identity is not yet
given out. Pairs, lists and calls hand on the very values that they get.
-/

namespace RuntimeValues

set_option autoImplicit false

/-- Where a function stems from: an entry of the prelude, or the step from a point. -/
inductive Birth where
  | prelude (name : String)
  | made (k : Nat)
deriving DecidableEq

/-- The prelude is there from the start. -/
def Birth.Before (k : Nat) : Birth → Prop
  | prelude _ => True
  | made i => i < k

theorem Birth.Before.succ {k : Nat} {birth : Birth} (h : birth.Before k) :
    birth.Before (k + 1) := by
  cases birth with
  | prelude name => trivial
  | made i => exact Nat.lt_succ_of_lt h

namespace Point

/-- The function is referred to: by a value that is at hand, by a name, a frame or a slot, or in
the body of a function. -/
def Mentions (f : FunctionId) (p : Point) : Prop := ¬ p.Within (.without f)

variable {p : Point} {f : FunctionId}

theorem Mentions.lt_size {forms : Expr → Prop} (hp : p.WellScoped forms) (h : p.Mentions f) :
    f < p.store.cells.size := by
  by_contra hnot
  refine h (hp.within.mono ⟨fun g hg heq => hnot ?_, fun e _ => trivial⟩)
  rw [← heq]
  exact hg

/-- A step refers to nothing new but the prelude and what it makes. -/
theorem Mentions.of_next (h : p.next.Mentions f) :
    p.Mentions f ∨ (∃ b : Builtin, f = b.id) ∨
      ∃ origin body, .created f origin body ∈ p.events := by
  by_contra hnot
  simp only [not_or, not_exists] at hnot
  obtain ⟨hbefore, hbuiltin, hcreated⟩ := hnot
  refine h ((not_not.mp hbefore).next (fun b heq => hbuiltin b heq.symm) ?_)
  rintro g origin body hg rfl
  exact hcreated origin body hg

theorem mentions_of_gives (h : p.Gives (.ok (.function f))) : p.Mentions f := by
  intro hwithin
  cases p with
  | idle session pending => exact h.elim
  | busy kept request c pending =>
    have hcontrol := hwithin.2.1.control
    rw [show c.control = .give (.ok (.function f)) from h] at hcontrol
    exact hcontrol rfl

end Point

namespace Config

variable {env : Env} {s t u : Store} {f : FunctionId} {v w : Value}

theorem ends_accessors {first second : Expr} (hfirst : Ends (.begin env first s) (.ok v, t))
    (hsecond : Ends (.begin env second t) (.ok w, u)) :
    Ends (.begin env (.unary .getFirst (.binary .pair first second)) s) (.ok v, u) ∧
      Ends (.begin env (.unary .getSecond (.binary .pair first second)) s) (.ok w, u) := by
  have hpair : Ends (.begin env (.binary .pair first second) s) (.ok (.pair v w), u) :=
    hfirst.binary hsecond .pair
  exact ⟨hpair.unary .getFirst, hpair.unary .getSecond⟩

theorem ends_relist {program : Expr} {elements : List Value}
    (h : Ends (.begin env program s) (.ok (.ofList elements), t)) :
    Ends (.begin env (.unary .relist program) s) (.ok (.ofList elements), t) := by
  have hends := h.unary .relist
  rw [UnaryOp.apply, Value.toList_ofList] at hends
  exact hends

theorem ends_call_pairs :
    ((s.cell f).active = .pairWith v →
      Ends ⟨.give (.ok w), [.argument (.function f)], s⟩ (.ok (.pair v w), s)) ∧
    ((s.cell f).active = .builtin .first →
      Ends ⟨.give (.ok (.pair v w)), [.argument (.function f)], s⟩ (.ok v, s)) ∧
    ((s.cell f).active = .builtin .second →
      Ends ⟨.give (.ok (.pair v w)), [.argument (.function f)], s⟩ (.ok w, s)) := by
  exact ⟨ends_call_pairWith, ends_call_first, ends_call_second⟩

end Config

namespace Session

/-- The function stems from this birth. -/
def StemsFrom (requests : List Request) (f : FunctionId) : Birth → Prop
  | .prelude name => Prelude.lookup name = some (.function f)
  | .made k => (∃ origin, (point requests k).Makes origin) ∧
      (point requests (k + 1)).Gives (.ok (.function f))

variable {requests : List Request} {f g : FunctionId} {birth birth' : Birth} {i j k : Nat}

theorem size_le_point (hij : i ≤ j) :
    (point requests i).store.cells.size ≤ (point requests j).store.cells.size := by
  obtain ⟨later, -, -, hstore⟩ := history_between requests hij
  rw [hstore]
  exact Store.size_le_after _ later

theorem stemsFrom_made_iff : StemsFrom requests f (.made k) ↔
    ∃ origin body, .created f origin body ∈ (point requests k).events := by
  constructor
  · rintro ⟨⟨origin, hmakes⟩, hgives⟩
    rw [point_succ] at hgives
    obtain ⟨body, hcreated⟩ := hmakes.created
    cases hmakes.gives.unique hgives
    exact ⟨origin, body, hcreated⟩
  · rintro ⟨origin, body, hcreated⟩
    obtain ⟨hmakes, rfl, -⟩ := Point.makes_of_created hcreated
    refine ⟨⟨origin, hmakes⟩, ?_⟩
    rw [point_succ]
    exact hmakes.gives

theorem exists_stemsFrom {origin : Origin} (h : (point requests k).Makes origin) :
    ∃ f, StemsFrom requests f (.made k) := by
  refine ⟨(point requests k).store.cells.size, ⟨origin, h⟩, ?_⟩
  rw [point_succ]
  exact h.gives

theorem eq_size_of_stemsFrom (h : StemsFrom requests f (.made k)) :
    f = (point requests k).store.cells.size := by
  obtain ⟨origin, body, hcreated⟩ := stemsFrom_made_iff.mp h
  exact (Point.makes_of_created hcreated).2.1

theorem lt_size_of_stemsFrom (h : StemsFrom requests f (.made k)) :
    f < (point requests (k + 1)).store.cells.size := by
  obtain ⟨origin, body, hcreated⟩ := stemsFrom_made_iff.mp h
  exact lt_size_of_created (mem_history.mpr ⟨k, Nat.lt_succ_self k, hcreated⟩)

/-- A function that is referred to has been born. -/
theorem stemsFrom_of_mentions (h : (point requests k).Mentions f) :
    ∃ birth, StemsFrom requests f birth ∧ birth.Before k := by
  induction k with
  | zero =>
    refine absurd ⟨?_, Store.within_initial _, fun request _ => ?_⟩ h
    · simp [Env.Within, initial]
    · exact request.program.within_of_forms fun _ => trivial
  | succ k ih =>
    rw [point_succ] at h
    rcases h.of_next with hold | ⟨b, rfl⟩ | ⟨origin, body, hcreated⟩
    · obtain ⟨birth, hstems, hbefore⟩ := ih hold
      exact ⟨birth, hstems, hbefore.succ⟩
    · exact ⟨.prelude b.name, Prelude.lookup_builtin b, trivial⟩
    · exact ⟨.made k, stemsFrom_made_iff.mpr ⟨origin, body, hcreated⟩, Nat.lt_succ_self k⟩

/-- A function that is made is referred to by nothing before. -/
theorem not_mentions_of_stemsFrom (h : StemsFrom requests f (.made k)) (hjk : j ≤ k) :
    ¬ (point requests j).Mentions f := by
  intro hmentions
  have hlt := hmentions.lt_size (wellScoped_point (uses_any requests) j)
  rw [eq_size_of_stemsFrom h] at hlt
  exact absurd (size_le_point hjk) (Nat.not_le.mpr hlt)

theorem not_stemsFrom_made_id (b : Builtin) : ¬ StemsFrom requests b.id (.made k) := by
  intro h
  obtain ⟨origin, body, hcreated⟩ := stemsFrom_made_iff.mp h
  exact not_created_builtin b (mem_history.mpr ⟨k, Nat.lt_succ_self k, hcreated⟩)

/-- A function is made once. -/
theorem made_unique (hi : StemsFrom requests f (.made i)) (hj : StemsFrom requests f (.made j)) :
    i = j := by
  have hnot : ∀ {m n : Nat}, StemsFrom requests f (.made m) → StemsFrom requests f (.made n) →
      ¬ m < n := by
    intro m n hm hn hmn
    -- what is made at the later point gets an identity that was not there at the earlier one
    have hlt := Nat.lt_of_lt_of_le (lt_size_of_stemsFrom hm) (size_le_point hmn)
    rw [← eq_size_of_stemsFrom hn] at hlt
    exact Nat.lt_irrefl f hlt
  exact Nat.le_antisymm (Nat.le_of_not_lt (hnot hj hi)) (Nat.le_of_not_lt (hnot hi hj))

theorem birth_unique (h : StemsFrom requests f birth) (h' : StemsFrom requests f birth') :
    birth = birth' := by
  cases birth with
  | prelude name =>
    obtain ⟨b, rfl, rfl⟩ := Prelude.lookup_eq_function_iff.mp h
    cases birth' with
    | prelude name' =>
      obtain ⟨b', rfl, hid⟩ := Prelude.lookup_eq_function_iff.mp h'
      rw [Builtin.id_injective hid]
    | made j => exact absurd h' (not_stemsFrom_made_id b)
  | made i =>
    cases birth' with
    | prelude name =>
      obtain ⟨b, rfl, rfl⟩ := Prelude.lookup_eq_function_iff.mp h'
      exact absurd h (not_stemsFrom_made_id b)
    | made j => rw [made_unique h h']

theorem eq_of_birth (h : StemsFrom requests f birth) (h' : StemsFrom requests g birth) :
    f = g := by
  cases birth with
  | prelude name => exact Value.function.inj (Option.some.inj (h.symm.trans h'))
  | made k => exact Value.function.inj (Except.ok.inj (h.2.unique h'.2))

/-- Functions are the same exactly if they have the same birth. -/
theorem eq_iff_birth_eq (h : StemsFrom requests f birth) (h' : StemsFrom requests g birth') :
    f = g ↔ birth = birth' := by
  constructor
  · rintro rfl
    exact birth_unique h h'
  · rintro rfl
    exact eq_of_birth h h'

/-- Asking whether two functions are the same is asking whether they have the same birth. -/
theorem same_of_mentions (hf : (point requests i).Mentions f) (hg : (point requests j).Mentions g) :
    ∃ answer, BinaryOp.same.apply (.function f) (.function g) = .ok (.boolean answer) ∧
      (answer = true ↔ ∃ birth, StemsFrom requests f birth ∧ StemsFrom requests g birth) := by
  refine ⟨decide (f = g), rfl, ?_⟩
  obtain ⟨birth, hstems, -⟩ := stemsFrom_of_mentions hf
  rw [decide_eq_true_iff]
  constructor
  · rintro rfl
    exact ⟨birth, hstems, hstems⟩
  · rintro ⟨common, hfrom, hfrom'⟩
    exact eq_of_birth hfrom hfrom'

/-- So it is for the operator, wherever it is about to compare two functions. -/
theorem point_of_same {kept : Env} {request : Request} {frames : List Frame} {s : Store}
    {pending : List Request} (h : point requests k = .busy kept request
      ⟨.give (.ok (.function g)), .binaryRight .same (.function f) :: frames, s⟩ pending) :
    ∃ answer, point requests (k + 1) =
        .busy kept request ⟨.give (.ok (.boolean answer)), frames, s⟩ pending ∧
      (answer = true ↔ ∃ birth, StemsFrom requests f birth ∧ StemsFrom requests g birth) := by
  have hg : (point requests k).Mentions g := by
    rw [h]
    exact Point.mentions_of_gives rfl
  have hf : (point requests k).Mentions f := by
    intro hwithin
    rw [h] at hwithin
    exact hwithin.2.1.frames _ List.mem_cons_self rfl
  obtain ⟨answer, happly, hanswer⟩ := same_of_mentions hf hg
  refine ⟨answer, ?_, hanswer⟩
  rw [point_succ, h, ← happly]
  rfl

/-- Only a call of the prelude's own function makes a partial application, and that keeps the
argument of the call. -/
theorem call_of_makes (h : (point requests k).Makes .partialApplication) :
    ∃ kept request first frames s pending f,
      point requests k = .busy kept request
        ⟨.give (.ok first), .argument Builtin.pair.value :: frames, s⟩ pending ∧
      StemsFrom requests f (.made k) ∧
      ∀ m, k < m → ((point requests m).store.cell f).body = .pairWith first := by
  cases hpoint : point requests k with
  | idle session pending =>
    rw [hpoint] at h
    exact h.elim
  | busy kept request c pending =>
    rw [hpoint] at h
    cases h with
    | @partialApplication first f frames s hactive =>
      have hcreated : .created s.cells.size .partialApplication (.pairWith first) ∈
          (point requests k).events := by
        rw [hpoint]
        refine List.mem_cons_of_mem _ ?_
        rw [hactive]
        exact List.mem_cons_self
      have hbody : ∀ m, k < m →
          ((point requests m).store.cell s.cells.size).body = .pairWith first :=
        fun m hm => body_of_created (mem_history.mpr ⟨k, hm, hcreated⟩)
      have hstore : (point requests k).store = s := store_of_busy hpoint
      have hf : f < (point requests k).store.cells.size := by
        rw [hstore]
        exact lt_size_of_call hpoint
      rw [← hstore] at hactive
      obtain rfl := eq_id_of_active hf hactive
      exact ⟨_, _, _, _, _, _, _, rfl, stemsFrom_made_iff.mpr ⟨_, _, hcreated⟩, hbody⟩

/-- The body of a recursive function sees under its own name the function that was handed on. -/
theorem handle_of_recursive {kept : Env} {request : Request} {env : Env} {self param : String}
    {program : Expr} {frames : List Frame} {s : Store} {pending : List Request}
    (h : point requests k =
      .busy kept request ⟨.eval env (.recursive self param program), frames, s⟩ pending) :
    ∃ f, StemsFrom requests f (.made k) ∧ ∀ m, k < m →
      ((point requests m).store.cell f).active =
        .closure ((self, .function f) :: env) param program := by
  have hcreated : .created s.cells.size .recursive .unbound ∈ (point requests k).events := by
    rw [h]
    exact List.mem_cons_self
  have hbound : .bound s.cells.size (.closure ((self, .function s.cells.size) :: env) param program)
      ∈ (point requests k).events := by
    rw [h]
    exact List.mem_cons_of_mem _ List.mem_cons_self
  refine ⟨s.cells.size, stemsFrom_made_iff.mpr ⟨_, _, hcreated⟩, fun m hm => ?_⟩
  exact active_of_bound ⟨k, hm, hbound⟩

/-- A function that is called was made before. -/
theorem lt_of_call {kept : Env} {request : Request} {v : Value} {frames : List Frame} {s : Store}
    {pending : List Request} (hstems : StemsFrom requests f (.made k))
    (h : point requests j =
      .busy kept request ⟨.give (.ok v), .argument (.function f) :: frames, s⟩ pending) :
    k < j := by
  refine Nat.lt_of_not_le fun hjk => not_mentions_of_stemsFrom hstems hjk fun hwithin => ?_
  rw [h] at hwithin
  exact hwithin.2.1.frames _ List.mem_cons_self rfl

/-- Declaring a function puts its slot in the table. -/
theorem slots_of_declared {name : String} (h : (point requests k).Makes (.declared name)) :
    ∃ f, StemsFrom requests f (.made k) ∧ (point requests (k + 1)).store.slots =
      (name, ⟨.function f⟩) :: (point requests k).store.slots.filter (·.1 ≠ name) := by
  obtain ⟨body, hcreated⟩ := h.created
  refine ⟨_, stemsFrom_made_iff.mpr ⟨_, _, hcreated⟩, ?_⟩
  obtain ⟨rfl, hevents⟩ := Point.events_of_declared hcreated
  rw [point_succ, Point.store_next, hevents]
  rfl

/-- Before the point, the function was the last one to be declared with a slot of this name. -/
def LastDeclared (requests : List Request) (k : Nat) (name : String) (f : FunctionId) : Prop :=
  ∃ i < k, (point requests i).Makes (.declared name) ∧ StemsFrom requests f (.made i) ∧
    ∀ j, i < j → j < k → ¬ (point requests j).Makes (.declared name)

/-- A slot in the table belongs to the function that was declared last under its name. -/
theorem lastDeclared_of_slot {name : String} {slot : Slot}
    (h : (name, slot) ∈ (point requests k).store.slots) :
    ∃ f, slot = ⟨.function f⟩ ∧ LastDeclared requests k name f := by
  induction k with
  | zero => cases h
  | succ k ih =>
    -- a new declaration takes the place of the slot that was there under its name
    by_cases hmakes : (point requests k).Makes (.declared name)
    · obtain ⟨f, hstems, hslots⟩ := slots_of_declared hmakes
      rw [hslots] at h
      rcases List.mem_cons.mp h with hnew | hold
      · obtain ⟨-, rfl⟩ := Prod.mk.inj hnew
        exact ⟨f, rfl, k, Nat.lt_succ_self k, hmakes, hstems,
          fun j hkj hjk => absurd hkj (Nat.not_lt.mpr (Nat.le_of_lt_succ hjk))⟩
      · exact absurd rfl (of_decide_eq_true (List.mem_filter.mp hold).2)
    · rw [point_succ, Point.store_next] at h
      rcases Store.mem_slots_after h with hold | ⟨f, body, hcreated, -⟩
      · obtain ⟨f, hslot, i, hi, hdeclared, hstems, hlast⟩ := ih hold
        refine ⟨f, hslot, i, Nat.lt_succ_of_lt hi, hdeclared, hstems, fun j hij hjk => ?_⟩
        rcases Nat.lt_succ_iff_lt_or_eq.mp hjk with hlt | rfl
        · exact hlast j hij hlt
        · exact hmakes
      · exact absurd (Point.makes_of_created hcreated).1 hmakes

/-- Asking a slot for its function gives the function that was declared with it. -/
theorem lastDeclared_of_slotFunction {kept : Env} {request : Request} {env : Env} {name : String}
    {frames : List Frame} {s : Store} {pending : List Request} {v : Value}
    (h : point requests k = .busy kept request ⟨.eval env (.slotFunction name), frames, s⟩ pending)
    (hgives : (point requests (k + 1)).Gives (.ok v)) :
    ∃ f, v = .function f ∧ LastDeclared requests k name f := by
  rw [point_succ, h, Point.gives_next rfl] at hgives
  cases hslot : s.slot? name with
  | none =>
    simp only [Expr.start, hslot] at hgives
    cases hgives
  | some slot =>
    simp only [Expr.start, hslot] at hgives
    cases hgives
    have hmem : (name, slot) ∈ (point requests k).store.slots := by
      rw [h]
      exact Store.mem_slots_of_slot? hslot
    obtain ⟨f, rfl, hlast⟩ := lastDeclared_of_slot hmem
    exact ⟨f, rfl, hlast⟩

theorem stemsFrom_of_prelude {kept : Env} {request : Request} {env : Env} {name : String}
    {frames : List Frame} {s : Store} {pending : List Request}
    (h : point requests k = .busy kept request ⟨.eval env (.prelude name), frames, s⟩ pending)
    (hgives : (point requests (k + 1)).Gives (.ok (.function f))) :
    StemsFrom requests f (.prelude name) := by
  rw [point_succ, h, Point.gives_next rfl] at hgives
  cases hlookup : Prelude.lookup name with
  | none =>
    simp only [Expr.start, hlookup] at hgives
    cases hgives
  | some v =>
    simp only [Expr.start, hlookup] at hgives
    cases hgives
    exact hlookup

/-- Every function that a session refers to stems from one birth that is over, and functions are
the same exactly if they stem from the same one. A step refers to no functions but those before
it, those of the prelude and the one that it makes, and that one was referred to by nothing
before. A recursive function knows itself, a slot belongs to the function that was declared with
it, and pairs, lists and calls give back the very values that were put in. -/
theorem functions_never_alias (requests : List Request) :
    (∀ k f, (point requests k).Mentions f →
      ∃ birth, StemsFrom requests f birth ∧ birth.Before k) ∧
    (∀ f g birth birth', StemsFrom requests f birth → StemsFrom requests g birth' →
      (f = g ↔ birth = birth')) ∧
    (∀ i j f g, (point requests i).Mentions f → (point requests j).Mentions g →
      ∃ answer, BinaryOp.same.apply (.function f) (.function g) = .ok (.boolean answer) ∧
        (answer = true ↔ ∃ birth, StemsFrom requests f birth ∧ StemsFrom requests g birth)) ∧
    (∀ k kept request f g frames s pending, point requests k = .busy kept request
        ⟨.give (.ok (.function g)), .binaryRight .same (.function f) :: frames, s⟩ pending →
      ∃ answer, point requests (k + 1) =
          .busy kept request ⟨.give (.ok (.boolean answer)), frames, s⟩ pending ∧
        (answer = true ↔ ∃ birth, StemsFrom requests f birth ∧ StemsFrom requests g birth)) ∧
    (∀ k f, (point requests (k + 1)).Mentions f → (point requests k).Mentions f ∨
      (∃ name, StemsFrom requests f (.prelude name)) ∨ StemsFrom requests f (.made k)) ∧
    (∀ k origin, (point requests k).Makes origin →
      ∃ f, StemsFrom requests f (.made k) ∧ ∀ j ≤ k, ¬ (point requests j).Mentions f) ∧
    (∀ k, (point requests k).Makes .partialApplication →
      ∃ kept request first frames s pending f,
        point requests k = .busy kept request
          ⟨.give (.ok first), .argument Builtin.pair.value :: frames, s⟩ pending ∧
        StemsFrom requests f (.made k) ∧
        ∀ m, k < m → ((point requests m).store.cell f).body = .pairWith first) ∧
    (∀ k kept request env self param program frames s pending, point requests k =
        .busy kept request ⟨.eval env (.recursive self param program), frames, s⟩ pending →
      ∃ f, StemsFrom requests f (.made k) ∧
        ∀ m kept request v frames s pending, point requests m =
            .busy kept request ⟨.give (.ok v), .argument (.function f) :: frames, s⟩ pending →
          point requests (m + 1) = .busy kept request
            ⟨.eval ((param, v) :: (self, .function f) :: env) program, .leave f :: frames,
              s.enter f⟩ pending) ∧
    (∀ k name, (point requests k).Makes (.declared name) → ∃ f, StemsFrom requests f (.made k) ∧
      (point requests (k + 1)).store.slot? name = some ⟨.function f⟩) ∧
    (∀ k name slot, (point requests k).store.slot? name = some slot →
      ∃ f, slot = ⟨.function f⟩ ∧ LastDeclared requests k name f) ∧
    (∀ k kept request env name frames s pending v, point requests k =
        .busy kept request ⟨.eval env (.slotFunction name), frames, s⟩ pending →
      (point requests (k + 1)).Gives (.ok v) →
      ∃ f, v = .function f ∧ LastDeclared requests k name f) ∧
    (∀ k kept request env name frames s pending f, point requests k =
        .busy kept request ⟨.eval env (.prelude name), frames, s⟩ pending →
      (point requests (k + 1)).Gives (.ok (.function f)) →
      StemsFrom requests f (.prelude name)) ∧
    (∀ env first second s t u v w, Config.Ends (.begin env first s) (.ok v, t) →
      Config.Ends (.begin env second t) (.ok w, u) →
      Config.Ends (.begin env (.unary .getFirst (.binary .pair first second)) s) (.ok v, u) ∧
        Config.Ends (.begin env (.unary .getSecond (.binary .pair first second)) s) (.ok w, u)) ∧
    (∀ elements, (Value.ofList elements).toList = .ok elements) ∧
    (∀ env program s t elements, Config.Ends (.begin env program s) (.ok (.ofList elements), t) →
      Config.Ends (.begin env (.unary .relist program) s) (.ok (.ofList elements), t)) ∧
    (∀ env param program s t f v outcome, (s.cell f).active = .closure env param program →
      (Config.Ends ⟨.give (.ok v), [.argument (.function f)], s⟩ (outcome, t) ↔
        ∃ u, Config.Ends (.begin ((param, v) :: env) program (s.enter f)) (outcome, u) ∧
          t = u.leave f)) ∧
    ∀ s f v w,
      ((s.cell f).active = .pairWith v →
        Config.Ends ⟨.give (.ok w), [.argument (.function f)], s⟩ (.ok (.pair v w), s)) ∧
      ((s.cell f).active = .builtin .first →
        Config.Ends ⟨.give (.ok (.pair v w)), [.argument (.function f)], s⟩ (.ok v, s)) ∧
      ((s.cell f).active = .builtin .second →
        Config.Ends ⟨.give (.ok (.pair v w)), [.argument (.function f)], s⟩ (.ok w, s)) := by
  refine ⟨fun k f => stemsFrom_of_mentions, fun f g birth birth' => eq_iff_birth_eq,
    fun i j f g => same_of_mentions, fun k kept request f g frames s pending => point_of_same,
    fun k f hmentions => ?_, fun k origin hmakes => ?_, fun k => call_of_makes,
    fun k kept request env self param program frames s pending h => ?_,
    fun k name hmakes => ?_, fun k name slot hslot => ?_,
    fun k kept request env name frames s pending v => lastDeclared_of_slotFunction,
    fun k kept request env name frames s pending f => stemsFrom_of_prelude,
    fun env first second s t u v w => Config.ends_accessors, Value.toList_ofList,
    fun env program s t elements => Config.ends_relist,
    fun env param program s t f v outcome => Config.ends_call_closure,
    fun s f v w => Config.ends_call_pairs⟩
  · rw [point_succ] at hmentions
    rcases hmentions.of_next with hold | ⟨b, rfl⟩ | hcreated
    · exact .inl hold
    · exact .inr (.inl ⟨b.name, Prelude.lookup_builtin b⟩)
    · exact .inr (.inr (stemsFrom_made_iff.mpr hcreated))
  · obtain ⟨f, hstems⟩ := exists_stemsFrom hmakes
    exact ⟨f, hstems, fun j hjk => not_mentions_of_stemsFrom hstems hjk⟩
  · obtain ⟨f, hstems, hactive⟩ := handle_of_recursive h
    refine ⟨f, hstems, fun m kept request v frames s pending hcall => ?_⟩
    have hnow := hactive m (lt_of_call hstems hcall)
    rw [hcall] at hnow
    rw [point_of_call hcall, show (s.cell f).active = _ from hnow]
    rfl
  · obtain ⟨f, hstems, hslots⟩ := slots_of_declared hmakes
    refine ⟨f, hstems, ?_⟩
    rw [Store.slot?, hslots]
    exact List.lookup_cons_self
  · exact lastDeclared_of_slot (Store.mem_slots_of_slot? hslot)

/-- Declares a function, pairs it with a recursive one through the prelude, and compares the first
member of the pair with the function of the slot. -/
def pairedDeclaration : Request where
  question := .view
  program := .letIn "f" (.declare "s")
    (.letIn "p" (.call (.prelude "pair") (.var "f"))
      (.binary .same (.unary .getFirst (.call (.var "p") (.recursive "g" "x" (.var "g"))))
        (.slotFunction "s")))
  keepAs := none

theorem functions_never_alias_pairedDeclaration :
    (point [pairedDeclaration] 24).Gives (.ok (.boolean true)) ∧
      StemsFrom [pairedDeclaration] 4 (.made 2) ∧
      LastDeclared [pairedDeclaration] 22 "s" 4 ∧
      StemsFrom [pairedDeclaration] 6 (.made 17) ∧
      (∀ j ≤ 17, ¬ (point [pairedDeclaration] j).Mentions 6) ∧
      ∀ m, 9 < m → ((point [pairedDeclaration] m).store.cell 5).body =
        .pairWith (.function 4) := by
  obtain ⟨-, hbirths, -, hsame, -, hfresh, hpartial, -, -, -, hslot, -⟩ :=
    functions_never_alias [pairedDeclaration]
  have hdeclared : StemsFrom [pairedDeclaration] 4 (.made 2) := ⟨⟨_, .declare⟩, rfl⟩
  have hrecursive : StemsFrom [pairedDeclaration] 6 (.made 17) := ⟨⟨_, .recursive⟩, rfl⟩
  have hpaired : StemsFrom [pairedDeclaration] 5 (.made 9) := ⟨⟨_, .partialApplication rfl⟩, rfl⟩
  refine ⟨?_, hdeclared, ?_, hrecursive, fun j hj => ?_, fun m hm => ?_⟩
  · obtain ⟨answer, hpoint, hanswer⟩ := hsame 23 _ _ _ _ _ _ _ rfl
    rw [hpoint, hanswer.mpr ⟨.made 2, hdeclared, hdeclared⟩]
    rfl
  · obtain ⟨f, hf, hlast⟩ := hslot 22 _ _ _ _ _ _ _ (.function 4) rfl rfl
    cases hf
    exact hlast
  · obtain ⟨f, hstems, hnot⟩ := hfresh 17 _ .recursive
    obtain rfl := (hbirths _ _ _ _ hstems hrecursive).mpr rfl
    exact hnot j hj
  · obtain ⟨_, _, _, _, _, _, f, hpoint, hstems, hbody⟩ := hpartial 9 (.partialApplication rfl)
    obtain rfl := (hbirths _ _ _ _ hstems hpaired).mpr rfl
    cases hpoint
    exact hbody m hm

end Session

end RuntimeValues

import RuntimeValues.Proofs.Declaration
import RuntimeValues.Proofs.Session.Awaiting
import RuntimeValues.Proofs.Session.Bodies

/-!
# Two functions that call each other

Two declared functions, each with a body that asks the other one about the number before, tell
even numbers from odd ones. Every call enters one of the two, asks the other one in the store
that it has entered, and leaves again. So one induction over the number, for both functions and
all stores at once, says that the calls answer and that no counter remembers them.
-/

namespace RuntimeValues

set_option autoImplicit false

/-- A fixed answer about zero, and the answer of another function about the number before for
every other number. -/
def parityBody (atZero : Bool) (other : String) : Expr :=
  .ifThenElse (.binary .equal (.var "n") (.number 0)) (.boolean atZero)
    (.call (.var other) (.binary .subtract (.var "n") (.number 1)))

/-- The number before. -/
def numberBefore (n : Int64) : Int64 := Int64.ofInt (n.toInt - 1)

theorem toInt_numberBefore {n : Int64} (h : 0 < n.toInt) :
    BinaryOp.fits (n.toInt - 1) = true ∧ (numberBefore n).toInt = n.toInt - 1 := by
  have hfits : BinaryOp.fits (n.toInt - 1) = true := by
    have hlt := n.toInt_lt
    simp only [BinaryOp.fits, Int64.toInt_minValue, Int64.toInt_maxValue, Bool.and_eq_true,
      decide_eq_true_eq]
    omega
  exact ⟨hfits, BinaryOp.toInt_ofInt_of_fits hfits⟩

namespace Store

/-- The function answers about zero itself and asks `g` about the number before. -/
def Asks (s : Store) (f : FunctionId) (atZero : Bool) (g : FunctionId) : Prop :=
  ∃ env other, (s.cell f).active = .closure env "n" (parityBody atZero other) ∧ other ≠ "n" ∧
    env.lookup other = some (.function g)

/-- Calling the functions with a number that is not negative tells whether it is even or odd, and
leaves the store as it was. -/
def TellsParity (s : Store) (even odd : FunctionId) : Prop :=
  ∀ n : Int64, 0 ≤ n.toInt →
    (Config.beginCall (.function even) (.number n) s).Ends
      (.ok (.boolean (n.toInt % 2 = 0)), s) ∧
    (Config.beginCall (.function odd) (.number n) s).Ends (.ok (.boolean (n.toInt % 2 = 1)), s)

/-- Calling the function with zero gives true, and with a greater number the error of a function
without a body. Either way the store is as it was. -/
def TellsZeroOnly (s : Store) (even : FunctionId) : Prop :=
  (Config.beginCall (.function even) (.number 0) s).Ends (.ok (.boolean true), s) ∧
    ∀ n : Int64, 0 < n.toInt → (Config.beginCall (.function even) (.number n) s).Ends
      (.error Fault.unboundFunction.error, s)

variable {s : Store} {f g : FunctionId} {atZero : Bool} {n : Int64} {outcome : Outcome Value}

theorem Asks.enter (h : s.Asks f atZero g) (f' : FunctionId) : (s.enter f').Asks f atZero g := by
  obtain ⟨env, other, hactive, hname⟩ := h
  exact ⟨env, other, (active_enter s f f').trans hactive, hname⟩

theorem ends_isZero (env : Env) (n : Int64) (s : Store) :
    (Config.begin (("n", .number n) :: env) (.binary .equal (.var "n") (.number 0)) s).Ends
      (.ok (.boolean (n.toInt = 0)), s) :=
  (Config.ends_var_last "n" (.number n) env s).binary (Config.ends_number 0 _ s) .equal

theorem ends_numberBefore (env : Env) (hn : 0 < n.toInt) (s : Store) :
    (Config.begin (("n", .number n) :: env) (.binary .subtract (.var "n") (.number 1)) s).Ends
      (.ok (.number (numberBefore n)), s) := by
  have hends := (Config.ends_var_last "n" (.number n) env s).binary
    (Config.ends_number 1 _ s) .subtract
  have hchecked : BinaryOp.subtract.apply (.number n) (.number 1) =
      .ok (.number (numberBefore n)) := by
    show BinaryOp.checked (n.toInt - 1) = _
    rw [BinaryOp.checked, if_pos (toInt_numberBefore hn).1]
    rfl
  rwa [hchecked] at hends

theorem Asks.ends_zero (h : s.Asks f atZero g) (hn : n.toInt = 0) :
    (Config.beginCall (.function f) (.number n) s).Ends (.ok (.boolean atZero), s) := by
  obtain ⟨env, other, hactive, -⟩ := h
  refine Config.ends_call_of_unchanged hactive ?_
  refine ((ends_isZero env n (s.enter f)).ifThenElse _ _).mpr ?_
  rw [decide_eq_true hn]
  exact Config.ends_of_start rfl

/-- A call with a greater number comes to what the call of the other function comes to. -/
theorem Asks.ends_pos (h : s.Asks f atZero g) (hn : 0 < n.toInt)
    (hcall : (Config.beginCall (.function g) (.number (numberBefore n)) (s.enter f)).Ends
      (outcome, s.enter f)) :
    (Config.beginCall (.function f) (.number n) s).Ends (outcome, s) := by
  obtain ⟨env, other, hactive, hne, hlookup⟩ := h
  refine Config.ends_call_of_unchanged hactive ?_
  refine ((ends_isZero env n (s.enter f)).ifThenElse _ _).mpr ?_
  rw [decide_eq_false (Int.ne_of_gt hn)]
  have hother : (Config.begin (("n", .number n) :: env) (.var other) (s.enter f)).Ends
      (.ok (.function g), s.enter f) := by
    refine Config.ends_var ?_
    rw [List.lookup_cons, beq_eq_false_iff_ne.mpr hne]
    exact hlookup
  exact (hother.call (ends_numberBefore env hn _)).mpr hcall

/-- Each of two functions that ask each other answers about zero as it is told to, and gives the
two answers in turn. -/
theorem Asks.ends (hf : s.Asks f atZero g) (hg : s.Asks g (!atZero) f) (hn : 0 ≤ n.toInt) :
    (Config.beginCall (.function f) (.number n) s).Ends
      (.ok (.boolean (atZero == decide (n.toInt % 2 = 0))), s) := by
  generalize hk : n.toInt.toNat = k
  induction k generalizing s f g atZero n with
  | zero =>
    have hzero : n.toInt = 0 := by omega
    have hanswer : (atZero == decide (n.toInt % 2 = 0)) = atZero := by
      rw [hzero]
      cases atZero <;> rfl
    rw [hanswer]
    exact hf.ends_zero hzero
  | succ k ih =>
    have hpos : 0 < n.toInt := by omega
    have hbefore := (toInt_numberBefore hpos).2
    have hf' : (s.enter f).Asks f (!!atZero) g := by
      rw [Bool.not_not]
      exact hf.enter f
    have hrest := ih (hg.enter f) hf' (n := numberBefore n) (by omega) (by omega)
    have hanswer : ((!atZero) == decide ((numberBefore n).toInt % 2 = 0)) =
        (atZero == decide (n.toInt % 2 = 0)) := by
      have hturn : (n.toInt - 1) % 2 = 0 ↔ ¬ n.toInt % 2 = 0 := by omega
      rw [hbefore, decide_eq_decide.mpr hturn, decide_not]
      cases atZero <;> cases decide (n.toInt % 2 = 0) <;> rfl
    rw [hanswer] at hrest
    exact hf.ends_pos hpos hrest

theorem tellsParity {even odd : FunctionId} (heven : s.Asks even true odd)
    (hodd : s.Asks odd false even) : s.TellsParity even odd := by
  intro n hn
  have hcall := heven.ends hodd hn
  have hcall' := hodd.ends heven hn
  have hodd : (false == decide (n.toInt % 2 = 0)) = decide (n.toInt % 2 = 1) := by
    have hmod : n.toInt % 2 = 1 ↔ ¬ n.toInt % 2 = 0 := by omega
    rw [decide_eq_decide.mpr hmod, decide_not, Bool.false_beq]
  rw [hodd] at hcall'
  rw [Bool.true_beq] at hcall
  exact ⟨hcall, hcall'⟩

/-- The error of the function that has no body comes out of the call unchanged. -/
theorem tellsZeroOnly {even odd : FunctionId} (heven : s.Asks even true odd)
    (hodd : (s.cell odd).active = .unbound) : s.TellsZeroOnly even := by
  refine ⟨heven.ends_zero rfl, fun n hn => heven.ends_pos hn ?_⟩
  exact Config.ends_call_unbound ((active_enter s odd even).trans hodd)

end Store

/-- Declares a function `even` and a function `odd` with their slots, does the bindings and gives
the pair of both. -/
def parityFunctions (a b : String) (binds : Expr) : Expr :=
  .letIn "even" (.declare a) (.letIn "odd" (.declare b)
    (.andThen binds (.binary .pair (.var "even") (.var "odd"))))

def bindEven (slot : String) : Expr := .bind slot "n" (parityBody true "odd")

def bindOdd (slot : String) : Expr := .bind slot "n" (parityBody false "even")

/-- The names that the bodies of the two functions see. -/
def parityEnv (even odd : FunctionId) (env : Env) : Env :=
  ("odd", .function odd) :: ("even", .function even) :: env

namespace Store

variable {s t : Store} {env : Env} {a b : String} {binds : Expr}

/-- The two functions have just been declared. -/
theorem declared_both (s : Store) (hab : a ≠ b) :
    ((s.declareAs a).declareAs b).Declared a s.cells.size ∧
      ((s.declareAs a).declareAs b).Declared b (s.cells.size + 1) := by
  have hodd := declared_declareAs (s.declareAs a) b
  rw [size_declareAs] at hodd
  exact ⟨(declared_declareAs s a).declareAs hab, hodd⟩

/-- Whichever of the two is bound first, both get their bodies. -/
theorem ends_bindings (s : Store) (env : Env) (hab : a ≠ b)
    (hbinds : binds = .andThen (bindEven a) (bindOdd b) ∨
      binds = .andThen (bindOdd b) (bindEven a)) :
    ∃ t, (Config.begin env binds ((s.declareAs a).declareAs b)).Ends (.ok .null, t) ∧
      (t.cell s.cells.size).rebound = some (.closure env "n" (parityBody true "odd")) ∧
      (t.cell (s.cells.size + 1)).rebound = some (.closure env "n" (parityBody false "even")) := by
  obtain ⟨heven, hodd⟩ := declared_both s hab
  have hne : s.cells.size ≠ s.cells.size + 1 := Nat.ne_of_lt (Nat.lt_succ_self _)
  rcases hbinds with rfl | rfl
  · exact Config.ends_bind_both heven hodd hab hne env "n" "n" _ _
  · obtain ⟨t, hends, hboundOdd, hboundEven⟩ :=
      Config.ends_bind_both hodd heven hab.symm hne.symm env "n" "n" (parityBody false "even")
        (parityBody true "odd")
    exact ⟨t, hends, hboundEven, hboundOdd⟩

/-- If only `even` is bound, `odd` goes on waiting. -/
theorem ends_bindEven (s : Store) (env : Env) (hab : a ≠ b) :
    ∃ t, (Config.begin env (bindEven a) ((s.declareAs a).declareAs b)).Ends (.ok .null, t) ∧
      (t.cell s.cells.size).rebound = some (.closure env "n" (parityBody true "odd")) ∧
      t.Declared b (s.cells.size + 1) := by
  obtain ⟨heven, hodd⟩ := declared_both s hab
  have hne : s.cells.size + 1 ≠ s.cells.size := Nat.ne_of_gt (Nat.lt_succ_self _)
  exact ⟨_, Config.ends_bind heven "n" (parityBody true "odd"), congrArg Cell.rebound
    heven.cell_bindAs, hodd.bindAs heven.lt_size hab.symm hne _⟩

theorem ends_parityFunctions {v : Value}
    (h : (Config.begin (parityEnv s.cells.size (s.cells.size + 1) env) binds
      ((s.declareAs a).declareAs b)).Ends (.ok v, t)) :
    (Config.begin env (parityFunctions a b binds) s).Ends
      (.ok (.pair (.function s.cells.size) (.function (s.cells.size + 1))), t) := by
  have hodd := Config.ends_declare b (("even", .function s.cells.size) :: env) (s.declareAs a)
  rw [size_declareAs] at hodd
  refine ((Config.ends_declare a env s).letIn _ _).mpr ((hodd.letIn _ _).mpr ?_)
  refine (h.andThen _).mpr ?_
  exact (Config.ends_var rfl).binary (Config.ends_var_last "odd" _ _ t) .pair

end Store

namespace Session

variable {requests : List Request} {i j k : Nat} {f g : FunctionId}

/-- A function that has been given the body keeps it. -/
theorem asks_of_rebound {env : Env} {atZero : Bool} {other : String} (hij : i ≤ j)
    (h : ((point requests i).store.cell f).rebound =
      some (.closure env "n" (parityBody atZero other)))
    (hne : other ≠ "n") (hlookup : env.lookup other = some (.function g)) :
    (point requests j).store.Asks f atZero g := by
  refine ⟨env, other, ?_, hne, hlookup⟩
  rw [Cell.active, rebound_point_of_le hij h]
  rfl

/-- A function that was declared awaits its body until it is given one. -/
theorem awaits_of_declared {t : Store} {name : String} (hij : i ≤ j)
    (hi : (point requests i).store = t) (h : t.Declared name f)
    (hnone : ((point requests j).store.cell f).isRebound = false) :
    ((point requests j).store.cell f).Awaits := by
  subst hi
  refine ⟨(body_point hij h.lt_size).trans ?_, by simpa [Cell.isRebound] using hnone⟩
  rw [h.cell]

theorem tellsParity_of_rebound {even odd : FunctionId} {env env' : Env} (hij : i ≤ j)
    (heven : ((point requests i).store.cell even).rebound =
      some (.closure env "n" (parityBody true "odd")))
    (hodd : ((point requests i).store.cell odd).rebound =
      some (.closure env' "n" (parityBody false "even")))
    (hlookup : env.lookup "odd" = some (.function odd))
    (hlookup' : env'.lookup "even" = some (.function even)) :
    (point requests j).store.TellsParity even odd :=
  Store.tellsParity (asks_of_rebound hij heven (by decide) hlookup)
    (asks_of_rebound hij hodd (by decide) hlookup')

theorem tellsZeroOnly_of_rebound {even odd : FunctionId} {env : Env} (hij : i ≤ j)
    (heven : ((point requests i).store.cell even).rebound =
      some (.closure env "n" (parityBody true "odd")))
    (hlookup : env.lookup "odd" = some (.function odd))
    (hodd : ((point requests j).store.cell odd).Awaits) :
    (point requests j).store.TellsZeroOnly even :=
  Store.tellsZeroOnly (asks_of_rebound hij heven (by decide) hlookup) hodd.active

section Program

variable {kept : Env} {request : Request} {env : Env} {frames : List Frame} {s : Store}
  {pending : List Request} {a b : String} {binds : Expr}

/-- A program that declares both functions and binds both, in either order, makes functions that
tell even from odd for the rest of the session. -/
theorem tellsParity_of_program (hab : a ≠ b)
    (hbinds : binds = .andThen (bindEven a) (bindOdd b) ∨
      binds = .andThen (bindOdd b) (bindEven a))
    (h : point requests k =
      .busy kept request ⟨.eval env (parityFunctions a b binds), frames, s⟩ pending) :
    ∃ m even odd t, point requests (k + m) = .busy kept request
        ⟨.give (.ok (.pair (.function even) (.function odd))), frames, t⟩ pending ∧
      ∀ j, k + m ≤ j → (point requests j).store.TellsParity even odd := by
  obtain ⟨t, hends, heven, hodd⟩ :=
    Store.ends_bindings s (parityEnv s.cells.size (s.cells.size + 1) env) hab hbinds
  obtain ⟨m, hm⟩ := point_of_inside (c := .begin env (parityFunctions a b binds) s) h
    (Store.ends_parityFunctions hends)
  have hstore : (point requests (k + m)).store = t := store_of_busy hm
  rw [← hstore] at heven hodd
  exact ⟨m, _, _, t, hm, fun j hj => tellsParity_of_rebound hj heven hodd rfl rfl⟩

/-- A program that binds only `even` makes a function that knows about zero and nothing else, for
as long as `odd` is not bound. -/
theorem tellsZeroOnly_of_program (hab : a ≠ b)
    (h : point requests k =
      .busy kept request ⟨.eval env (parityFunctions a b (bindEven a)), frames, s⟩ pending) :
    ∃ m even odd t, point requests (k + m) = .busy kept request
        ⟨.give (.ok (.pair (.function even) (.function odd))), frames, t⟩ pending ∧
      (t.cell odd).isRebound = false ∧
      ∀ j, k + m ≤ j → ((point requests j).store.cell odd).isRebound = false →
        (point requests j).store.TellsZeroOnly even := by
  obtain ⟨t, hends, heven, hodd⟩ :=
    Store.ends_bindEven s (parityEnv s.cells.size (s.cells.size + 1) env) hab
  obtain ⟨m, hm⟩ := point_of_inside (c := .begin env (parityFunctions a b (bindEven a)) s) h
    (Store.ends_parityFunctions hends)
  have hstore : (point requests (k + m)).store = t := store_of_busy hm
  have hnone : (t.cell (s.cells.size + 1)).isRebound = false := by
    rw [hodd.cell]
    rfl
  rw [← hstore] at heven
  exact ⟨m, _, _, t, hm, hnone, fun j hj hwaits =>
    tellsZeroOnly_of_rebound hj heven rfl (awaits_of_declared hj hstore hodd hwaits)⟩

end Program

/-- Two functions are declared and bound to bodies that ask each other. In whichever order this is
done, from then on they tell whether a number is even or odd, at any depth of their calls, and
every call leaves the store as it was. As long as `odd` has not been bound, `even` knows about
zero and fails on every greater number, and again the store is as it was. It does not matter by
which programs and at which points of the session the functions got their bodies. -/
theorem mutual_recursion_tells_parity :
    (∀ requests k kept request env frames s pending a b binds, a ≠ b →
      binds = .andThen (bindEven a) (bindOdd b) ∨ binds = .andThen (bindOdd b) (bindEven a) →
      point requests k =
        .busy kept request ⟨.eval env (parityFunctions a b binds), frames, s⟩ pending →
      ∃ m even odd t, point requests (k + m) = .busy kept request
          ⟨.give (.ok (.pair (.function even) (.function odd))), frames, t⟩ pending ∧
        ∀ j, k + m ≤ j → (point requests j).store.TellsParity even odd) ∧
    (∀ requests k kept request env frames s pending a b, a ≠ b →
      point requests k =
        .busy kept request ⟨.eval env (parityFunctions a b (bindEven a)), frames, s⟩ pending →
      ∃ m even odd t, point requests (k + m) = .busy kept request
          ⟨.give (.ok (.pair (.function even) (.function odd))), frames, t⟩ pending ∧
        (t.cell odd).isRebound = false ∧
        ∀ j, k + m ≤ j → ((point requests j).store.cell odd).isRebound = false →
          (point requests j).store.TellsZeroOnly even) ∧
    ∀ requests i j even odd env, i < j →
      .bound even (.closure env "n" (parityBody true "odd")) ∈ (point requests i).events →
      env.lookup "odd" = some (.function odd) →
      (((point requests j).store.cell odd).Awaits → (point requests j).store.TellsZeroOnly even) ∧
      ∀ i' env', i' < j →
        .bound odd (.closure env' "n" (parityBody false "even")) ∈ (point requests i').events →
        env'.lookup "even" = some (.function even) →
        (point requests j).store.TellsParity even odd := by
  refine ⟨fun requests k kept request env frames s pending a b binds => tellsParity_of_program,
    fun requests k kept request env frames s pending a b => tellsZeroOnly_of_program, ?_⟩
  intro requests i j even odd env hij heven hlookup
  have hrebound := rebound_of_bound hij heven
  refine ⟨tellsZeroOnly_of_rebound (Nat.le_refl j) hrebound hlookup, ?_⟩
  intro i' env' hij' hodd
  exact tellsParity_of_rebound (Nat.le_refl j) hrebound (rebound_of_bound hij' hodd) hlookup

/-- Declares both functions and binds `odd` first. -/
def oddBoundFirst : Request where
  question := .view
  program := parityFunctions "a" "b" (.andThen (bindOdd "b") (bindEven "a"))
  keepAs := none

/-- Declares both functions and binds one of them. -/
def evenBoundOnly : Request where
  question := .view
  program := parityFunctions "a" "b" (bindEven "a")
  keepAs := none

theorem mutual_recursion_tells_parity_oddBoundFirst :
    (∃ k even odd, (point [oddBoundFirst] k).Gives (.ok (.pair (.function even) (.function odd))) ∧
      (Config.beginCall (.function odd) (.number 7) (point [oddBoundFirst] k).store).Ends
        (.ok (.boolean true), (point [oddBoundFirst] k).store)) ∧
    (∃ k even odd, (point [evenBoundOnly] k).Gives (.ok (.pair (.function even) (.function odd))) ∧
      (Config.beginCall (.function even) (.number 2) (point [evenBoundOnly] k).store).Ends
        (.error Fault.unboundFunction.error, (point [evenBoundOnly] k).store)) ∧
    (point [oddBoundFirst] 12).store.TellsParity 4 5 := by
  obtain ⟨hboth, hone, hevents⟩ := mutual_recursion_tells_parity
  obtain ⟨m, even, odd, t, hm, htells⟩ :=
    hboth [oddBoundFirst] 1 _ _ _ _ _ _ "a" "b" _ (by decide) (.inr rfl) rfl
  obtain ⟨m', even', odd', t', hm', hnone, hzero⟩ :=
    hone [evenBoundOnly] 1 _ _ _ _ _ _ "a" "b" (by decide) rfl
  have hodd := (htells (1 + m) (Nat.le_refl _) 7 (by decide)).2
  have hstore : (point [evenBoundOnly] (1 + m')).store = t' := store_of_busy hm'
  rw [← hstore] at hnone
  have heven := (hzero (1 + m') (Nat.le_refl _) hnone).2 2 (by decide)
  -- the slot of `odd` is bound at point 9 and that of `even` at point 11
  obtain ⟨-, hlater⟩ := hevents [oddBoundFirst] 11 12 4 5 (parityEnv 4 5 []) (by decide)
    (List.mem_cons_of_mem _ List.mem_cons_self) rfl
  refine ⟨⟨1 + m, even, odd, ?_, hodd⟩, ⟨1 + m', even', odd', ?_, heven⟩,
    hlater 9 (parityEnv 4 5 []) (by decide) (List.mem_cons_of_mem _ List.mem_cons_self) rfl⟩
  · rw [hm]
    rfl
  · rw [hm']
    rfl

end Session

end RuntimeValues

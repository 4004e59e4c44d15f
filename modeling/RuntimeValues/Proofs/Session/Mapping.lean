import Mathlib.Data.List.Forall2
import RuntimeValues.Proofs.Session.Identity
import RuntimeValues.Proofs.Session.Prelude

/-!
# Mapping a function over a list

A recursive function of two parameters that walks a list with the help of the prelude. Every
level of the recursion makes a function of its own for the rest of the list, and the functions
of the outer levels are being called while the inner ones work. So the induction over the list
is about all stores that extend the one in which the mapping starts: the functions of the
levels lie above it, and those that were there before do not notice. The walk starts by looking
into the prelude, which builds its table if nothing has done so before; from there on the table
is built.
-/

namespace RuntimeValues

set_option autoImplicit false

/-- The first element of a list is handed to `f`, then the rest of the list is mapped. -/
def mapPair : Expr :=
  .binary .pair (.call (.var "f") (.unary .getFirst (.var "l")))
    (.call (.call (.var "map") (.var "f")) (.unary .getSecond (.var "l")))

/-- What `map f` does with a list: the elements are handed to `f` from the first to the last. -/
def mapList : Expr := .ifThenElse (.call (.prelude "is_null") (.var "l")) .null mapPair

/-- The function that takes a function and then a list. -/
def mapFunction : Expr := .recursive "map" "f" (.lambda "l" mapList)

/-- The names that the walk of a list sees, beside the list. -/
def mapEnv (m : FunctionId) (f : Value) (env : Env) : Env :=
  ("f", f) :: ("map", .function m) :: env

/-- The body of the function that `map f` makes. -/
def mapListBody (m : FunctionId) (f : Value) (env : Env) : Body :=
  .closure (mapEnv m f env) "l" mapList

namespace Store

variable {s t : Store} {m : FunctionId} {env : Env}

/-- Calling the function with the argument has this outcome in every store that extends `s`, and
the call leaves what was there as it was. -/
def Answers (s : Store) (function argument : Value) (outcome : Outcome Value) : Prop :=
  ∀ t : Store, t.Extends s →
    ∃ u, (Config.beginCall function argument t).Ends (outcome, u) ∧ u.Extends t

/-- The function `m` of the store is the mapping function, and the prelude tells whether a list
has come to its end. -/
structure HasMap (s : Store) (m : FunctionId) (env : Env) : Prop where
  map : (s.cell m).active = .closure (("map", .function m) :: env) "f" (.lambda "l" mapList)
  isNull : (s.cell Builtin.isNull.id).active = .builtin .isNull

namespace HasMap

theorem of_extends (h : s.HasMap m env) (hextends : t.Extends s) : t.HasMap m env where
  map := hextends.active_eq h.map Body.noConfusion
  isNull := hextends.active_eq h.isNull Body.noConfusion

theorem enter (h : s.HasMap m env) (f : FunctionId) : (s.enter f).HasMap m env where
  map := (active_enter s m f).trans h.map
  isNull := (active_enter s Builtin.isNull.id f).trans h.isNull

theorem congr (h : s.HasMap m env) (hcells : t.cells = s.cells) : t.HasMap m env where
  map := by rw [cell_congr hcells, h.map]
  isNull := by rw [cell_congr hcells, h.isNull]

theorem usePrelude (h : s.HasMap m env) : s.usePrelude.HasMap m env :=
  h.congr (cells_usePrelude s)

end HasMap

/-- A line is written where the table is built. -/
theorem lines_usePrelude (s : Store) :
    s.usePrelude.log.toList.map Notice.line = s.log.toList.map Notice.line ++
      if s.preludeBuilt then [] else ["debug: built 5 prelude values"] := by
  obtain ⟨cells, slots, log, built⟩ := s
  cases built with
  | true => simp [Store.usePrelude]
  | false =>
    simp only [Store.usePrelude, buildPrelude, record, Bool.false_eq_true, ↓reduceIte,
      Array.toList_push, List.map_append]
    rfl

end Store

namespace Config

variable {s t u : Store} {m c : FunctionId} {f x y rest : Value} {e : ValueError} {env : Env}

theorem ends_map_isNull (h : s.HasMap m env) (list : Value) :
    Ends (.begin (("l", list) :: mapEnv m f env) (.call (.prelude "is_null") (.var "l")) s)
      (.ok (.boolean list.isNull), s.usePrelude) :=
  (Ends.call (ends_prelude (Prelude.lookup_builtin .isNull)) (ends_var_last _ _ _ _)).mpr
    (ends_call_isNull h.usePrelude.isNull)

/-- The walk of a list starts by looking into the prelude. -/
theorem ends_mapList_of_asked (h : s.HasMap m env)
    (hactive : (s.cell c).active = mapListBody m f env) {list : Value} {outcome : Outcome Value}
    (hwalk : Ends (.begin (("l", list) :: mapEnv m f env) (if list.isNull then .null else mapPair)
      (s.usePrelude.enter c)) (outcome, t)) :
    Ends (.beginCall (.function c) list s) (outcome, t.leave c) := by
  rw [← Store.usePrelude_enter] at hwalk
  refine (ends_call_closure hactive).mpr ⟨t, ?_, rfl⟩
  exact ((ends_map_isNull (h.enter c) list).ifThenElse _ _).mpr hwalk

/-- The list has come to its end. -/
theorem ends_mapList_null (h : s.HasMap m env)
    (hactive : (s.cell c).active = mapListBody m f env) :
    Ends (.beginCall (.function c) .null s) (.ok .null, s.usePrelude) := by
  rw [← Store.leave_enter s.usePrelude c]
  exact ends_mapList_of_asked h hactive (ends_of_start rfl)

/-- The first element is handed to `f` while the function of this level is being called. -/
theorem ends_mapHead {outcome : Outcome Value}
    (hcall : Ends (.beginCall f x (s.enter c)) (outcome, t)) :
    Ends (.begin (("l", .pair x rest) :: mapEnv m f env)
      (.call (.var "f") (.unary .getFirst (.var "l"))) (s.enter c)) (outcome, t) :=
  (Ends.call (ends_var rfl) ((ends_var_last _ _ _ _).unary .getFirst)).mpr hcall

/-- An error of the first call is the outcome. -/
theorem ends_mapList_error (h : s.HasMap m env)
    (hactive : (s.cell c).active = mapListBody m f env)
    (hcall : Ends (.beginCall f x (s.usePrelude.enter c)) (.error e, t)) :
    Ends (.beginCall (.function c) (.pair x rest) s) (.error e, t.leave c) :=
  ends_mapList_of_asked h hactive ((ends_mapHead hcall).binary_left _ _)

/-- The rest of the list is mapped by a function that is made for it, and what comes of the rest
decides the outcome. -/
theorem ends_mapList_rest (h : s.HasMap m env) {outcome : Outcome Value}
    (hactive : (s.cell c).active = mapListBody m f env)
    (hcall : Ends (.beginCall f x (s.usePrelude.enter c)) (.ok y, t)) (ht : t.HasMap m env)
    (hrest : Ends (.beginCall (.function t.cells.size) rest
      (t.allocate (mapListBody m f env)).2) (outcome, u)) :
    Ends (.beginCall (.function c) (.pair x rest) s) (outcome.map (.pair y), u.leave c) := by
  refine ends_mapList_of_asked h hactive ?_
  have hmade : Ends (.begin (("l", .pair x rest) :: mapEnv m f env)
      (.call (.var "map") (.var "f")) t) (.ok (.function t.cells.size),
        (t.allocate (mapListBody m f env)).2) :=
    (Ends.call (ends_var rfl) (ends_var rfl)).mpr (ends_call_curried ht.map)
  have htail := (Ends.call hmade ((ends_var_last _ _ _ _).unary .getSecond)).mpr hrest
  cases outcome with
  | ok ys => exact (ends_mapHead hcall).binary htail .pair
  | error e => exact (ends_mapHead hcall).binary_right htail .pair

/-- Walking a list collects what `f` answers, up to the first error. -/
theorem ends_mapList {base : Store} (hmap : base.HasMap m env) {xs : List Value}
    {rs : List (Outcome Value)} (hanswers : List.Forall₂ (base.Answers f) xs rs)
    (hs : s.usePrelude.Extends base) (hc : base.cells.size ≤ c)
    (hactive : (s.cell c).active = mapListBody m f env) :
    ∃ t, Ends (.beginCall (.function c) (.ofList xs) s) ((rs.mapM id).map .ofList, t) ∧
      t.Extends s.usePrelude := by
  have hbuilt : base.preludeBuilt = true :=
    hs.preludeBuilt.symm.trans (Store.preludeBuilt_usePrelude s)
  induction hanswers generalizing s c with
  | nil =>
    have hhas : s.HasMap m env := (hmap.of_extends hs).congr s.cells_usePrelude.symm
    exact ⟨_, ends_mapList_null hhas hactive, .refl _⟩
  | @cons x r xs rs hanswer _ ih =>
    have hhas : s.HasMap m env := (hmap.of_extends hs).congr s.cells_usePrelude.symm
    have hlt : c < s.usePrelude.cells.size := by
      rw [Store.size_usePrelude]
      exact Store.lt_size_of_active hactive Body.noConfusion
    have hinside : (s.usePrelude.enter c).Extends base := hs.enter hc
    obtain ⟨t, hcall, ht⟩ := hanswer (s.usePrelude.enter c) hinside
    cases r with
    | error e => exact ⟨t.leave c, ends_mapList_error hhas hactive hcall, ht.leave hlt⟩
    | ok y =>
      have htbase := ht.trans hinside
      have hmade := Store.Extends.allocate t (mapListBody m f env)
      -- the first look at the prelude is behind us
      have hsame : (t.allocate (mapListBody m f env)).2.usePrelude =
          (t.allocate (mapListBody m f env)).2 :=
        Store.usePrelude_of_built (htbase.preludeBuilt.trans hbuilt)
      obtain ⟨u, hrest, hu⟩ := ih (hsame ▸ hmade.trans htbase) htbase.size
        (by rw [Store.cell_allocate, if_pos rfl]; rfl)
      rw [hsame] at hu
      have hends := ends_mapList_rest hhas hactive hcall (hmap.of_extends htbase) hrest
      refine ⟨u.leave c, ?_, ((hu.trans hmade).trans ht).leave hlt⟩
      have hcollect : (((.ok y :: rs).mapM id).map Value.ofList : Outcome Value) =
          ((rs.mapM id).map .ofList).map (.pair y) := by
        rw [List.mapM_cons]
        cases rs.mapM id <;> rfl
      rw [hcollect]
      exact hends

/-- Values only are collected in their order. -/
theorem mapM_values (ys : List Value) :
    ((ys.map .ok).mapM id : Outcome (List Value)) = .ok ys := by
  induction ys with
  | nil => rfl
  | cons y ys ih =>
    rw [List.map_cons, List.mapM_cons, ih]
    rfl

theorem mapM_firstError (ys : List Value) (e : ValueError) (rs : List (Outcome Value)) :
    (ys.map Except.ok ++ Except.error e :: rs).mapM id = Except.error e := by
  induction ys with
  | nil => rfl
  | cons y ys ih =>
    rw [List.map_cons, List.cons_append, List.mapM_cons, ih]
    rfl

end Config

namespace Session

variable {requests : List Request} {i j : Nat}

/-- The recursive mapping function of a session, called with a function and then with a list at
any later point, ends, if the function of the prelude that tells the end of a list has not been
rebound. If the function answers every element with a value, the outcome is the list of these
values in their order; if not, it is the very error that the first failing element is answered
with. The bodies and the counters of all functions and the slots are as before. Nothing is
written, but for the line that tells of building the prelude if that has not been done yet. -/
theorem map_applies_unless_rebound :
    ∀ requests i kept request env frames s pending,
      point requests i = .busy kept request ⟨.eval env mapFunction, frames, s⟩ pending →
      (point requests (i + 1)).Gives (.ok (.function s.cells.size)) ∧
      ∀ j, i < j → ((point requests j).store.cell Builtin.isNull.id).isRebound = false →
        ∀ t : Store, t.cells = (point requests j).store.cells →
        ∀ f xs rs, List.Forall₂ (t.usePrelude.Answers f) xs rs →
          ∃ c u outcome v, (Config.beginCall (.function s.cells.size) f t).Ends (.ok c, u) ∧
            (Config.beginCall c (.ofList xs) u).Ends (outcome, v) ∧
            u.Extends t ∧ v.Extends t.usePrelude ∧
            v.log.toList.map Notice.line = t.log.toList.map Notice.line ++
              (if t.preludeBuilt then [] else ["debug: built 5 prelude values"]) ∧
            (∀ ys : List Value, rs = ys.map .ok → outcome = .ok (.ofList ys)) ∧
            ∀ (ys : List Value) e rest, rs = ys.map .ok ++ .error e :: rest →
              outcome = .error e := by
  intro requests i kept request env frames s pending h
  refine ⟨?_, fun j hij hnone t hcells f xs rs hanswers => ?_⟩
  · rw [point_succ, h]
    exact Point.Makes.gives (p := .busy kept request ⟨.eval env mapFunction, frames, s⟩ pending)
      .recursive
  · obtain ⟨m, hstems, hactive⟩ := handle_of_recursive h
    obtain rfl : m = s.cells.size := by
      rw [eq_size_of_stemsFrom hstems, h]
      rfl
    have hmap : t.HasMap s.cells.size env :=
      Store.HasMap.congr ⟨hactive j hij, active_builtin hnone⟩ hcells
    have hmade := Store.Extends.allocate t (mapListBody s.cells.size f env)
    have hlooked := Store.Extends.allocate t.usePrelude (mapListBody s.cells.size f env)
    rw [← Store.usePrelude_allocate] at hlooked
    obtain ⟨v, hends, hv⟩ := Config.ends_mapList hmap.usePrelude hanswers hlooked
      (Nat.le_of_eq t.size_usePrelude) (by rw [Store.cell_allocate, if_pos rfl]; rfl)
    have hextends := hv.trans hlooked
    refine ⟨_, _, _, v, Config.ends_call_curried hmap.map, hends, hmade, hextends, ?_,
      fun ys hys => ?_, fun ys e rest hys => ?_⟩
    · rw [hextends.log, Store.lines_usePrelude]
    · rw [hys, Config.mapM_values]
      rfl
    · rw [hys, Config.mapM_firstError]
      rfl

def double : Expr := .binary .multiply (.var "x") (.number 2)

/-- A function whose body leaves every store as it is answers alike everywhere. -/
theorem answers_of_unchanged {s : Store} {f : FunctionId} {env : Env} {param : String}
    {program : Expr} {v : Value} {outcome : Outcome Value}
    (hactive : (s.cell f).active = .closure env param program)
    (hbody : ∀ t, Config.Ends (.begin ((param, v) :: env) program t) (outcome, t)) :
    s.Answers (.function f) v outcome := by
  intro t hextends
  have hkept := hextends.active_eq hactive Body.noConfusion
  exact ⟨t, Config.ends_call_of_unchanged hkept (hbody _), .refl t⟩

/-- Doubling leaves every store as it was, and fails on what is not a number. -/
theorem answers_double {s : Store} {f : FunctionId} {env : Env}
    (hactive : (s.cell f).active = .closure env "x" double) (v : Value) :
    s.Answers (.function f) v (BinaryOp.multiply.apply v (.number 2)) :=
  answers_of_unchanged hactive fun t =>
    (Config.ends_var_last "x" v env t).binary (Config.ends_number 2 _ _) .multiply

/-- Makes the mapping function and a function that doubles, and calls the latter. -/
def doubledList : Request where
  question := .view
  program := .letIn "map" mapFunction
    (.letIn "double" (.lambda "x" double) (.call (.var "double") (.number 4)))
  keepAs := none

/-- In the middle of the call, a list of numbers is doubled, and of a list with a boolean the
boolean is told. The latter is done where the prelude has not been built. -/
theorem map_applies_unless_rebound_doubledList :
    ((point [doubledList] 14).store.cell Builtin.isNull.id).isRebound = false ∧
    (∃ c u v, (Config.beginCall (.function 4) (.function 5) (point [doubledList] 14).store).Ends
        (.ok c, u) ∧
      (Config.beginCall c (.ofList [.number 1, .number 2]) u).Ends
        (.ok (.ofList [.number 2, .number 4]), v) ∧
      v.Extends (point [doubledList] 14).store) ∧
    ∃ c u v, (Config.beginCall (.function 4) (.function 5)
        { (point [doubledList] 14).store with log := #[], preludeBuilt := false }).Ends
        (.ok c, u) ∧
      (Config.beginCall c (.ofList [.number 1, .boolean true, .null]) u).Ends
        (.error (Fault.typeMismatch .getNumber .boolean).error, v) ∧
      v.log.toList.map Notice.line = ["debug: built 5 prelude values"] := by
  have hpublic : Public [doubledList] := by
    simp [Public, Uses, doubledList, mapFunction, mapList, mapPair, double, Expr.Within]
  have hnone := not_rebound_builtin (k := 14) hpublic .isNull
  obtain ⟨-, hmaps⟩ := map_applies_unless_rebound [doubledList] 2 _ _ _ _ _ _ rfl
  have hanswers := hmaps 14 (by decide) hnone
  have hdoubles := answers_double (s := (point [doubledList] 14).store) (f := 5) rfl
  obtain ⟨c, u, outcome, v, hfirst, hsecond, -, hv, -, hvalues, -⟩ := hanswers _ rfl _ _ _
    (.cons (hdoubles (.number 1)) (.cons (hdoubles (.number 2)) .nil))
  let unbuilt : Store := { (point [doubledList] 14).store with log := #[], preludeBuilt := false }
  have hdoubles' := answers_double (s := unbuilt.usePrelude) (f := 5) rfl
  obtain ⟨d, u', outcome', v', hfirst', hsecond', -, -, hlines, -, herror⟩ :=
    hanswers unbuilt rfl _ _ _ (.cons (hdoubles' (.number 1))
      (.cons (hdoubles' (.boolean true)) (.cons (hdoubles' .null) .nil)))
  obtain rfl := hvalues [.number 2, .number 4] rfl
  obtain rfl := herror [.number 2] _ _ rfl
  exact ⟨hnone, ⟨c, u, v, hfirst, hsecond, hv⟩, d, u', v', hfirst', hsecond', hlines⟩

/-- Rebinds the function of the prelude that tells the end of a list. -/
def rebindsEnd : Request where
  question := .view
  program := .andThen (.rebind (.prelude "is_null") "x" (.boolean true))
    (.letIn "map" mapFunction (.lambda "x" (.var "x")))
  keepAs := none

/-- When that function has been rebound, the elements are not looked at, and where the prelude has
not been built, a line is written. -/
theorem map_misses_elements_when_rebound :
    (∃ kept frames s, point [rebindsEnd] 7 =
      .busy kept rebindsEnd ⟨.eval [] mapFunction, frames, s⟩ [] ∧ s.cells.size = 4) ∧
    (∃ s, point [rebindsEnd] 12 = .idle s [] ∧
      s.store.Answers (.function 5) (.number 1) (.ok (.number 1)) ∧
      ∃ c u v, (Config.beginCall (.function 4) (.function 5) s.store).Ends (.ok c, u) ∧
        (Config.beginCall c (.ofList [.number 1]) u).Ends (.ok .null, v)) ∧
    ∃ c u v, (Config.beginCall (.function 4) (.function 5)
        { (point [doubledList] 14).store with log := #[], preludeBuilt := false }).Ends
        (.ok c, u) ∧
      (Config.beginCall c .null u).Ends (.ok .null, v) ∧
      v.log.toList.map Notice.line ≠ [] :=
  ⟨⟨_, _, _, rfl, rfl⟩,
    ⟨_, rfl, answers_of_unchanged rfl (Config.ends_var_last "x" _ _),
      _, _, _, ⟨9, rfl⟩, ⟨19, rfl⟩⟩,
    _, _, _, ⟨9, rfl⟩, ⟨19, rfl⟩, by decide⟩

end Session

end RuntimeValues

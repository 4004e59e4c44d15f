import RuntimeValues.Proofs.Call
import RuntimeValues.Proofs.Session.Slots

/-!
# Calls of the functions of the prelude

The functions of the prelude do what the operations on values do. They keep their bodies as long
as no program gives them others, and they run no program themselves, so a call of one ends at any
point of a session, whatever calls are around it. It leaves the store as it was, but for the
partial application that `pair` makes. That one keeps its first member and can be called again and
again. A program that binds functions through slots only reaches none of them; one that rebinds
functions can, and from then on the function does something else.
-/

namespace RuntimeValues

set_option autoImplicit false

namespace Session

variable {requests : List Request} {k : Nat}

/-- A call that ends on its own ends at any point of the session. -/
theorem point_of_ends {kept : Env} {request : Request} {argument function : Value}
    {frames : List Frame} {s t : Store} {pending : List Request} {outcome : Outcome Value}
    (h : point requests k =
      .busy kept request ⟨.give (.ok argument), .argument function :: frames, s⟩ pending)
    (hends : (Config.beginCall function argument s).Ends (outcome, t)) :
    ∃ n, point requests (k + n) = .busy kept request ⟨.give outcome, frames, t⟩ pending :=
  point_of_inside (c := .beginCall function argument s) h hends

/-- A function of the prelude that was not given another body does what it did at first. -/
theorem active_builtin {b : Builtin}
    (h : ((point requests k).store.cell b.id).isRebound = false) :
    ((point requests k).store.cell b.id).active = .builtin b := by
  rw [Cell.active_of_not_rebound h, body_builtin]

/-- A call of `pair` makes a function that keeps the argument. -/
theorem created_of_pair {kept : Env} {request : Request} {first : Value} {frames : List Frame}
    {s : Store} {pending : List Request}
    (hnone : ((point requests k).store.cell Builtin.pair.id).isRebound = false)
    (h : point requests k =
      .busy kept request ⟨.give (.ok first), .argument Builtin.pair.value :: frames, s⟩ pending) :
    .created s.cells.size .partialApplication (.pairWith first) ∈ (point requests k).events := by
  have hactive := active_builtin hnone
  rw [h] at hactive ⊢
  refine List.mem_cons_of_mem _ ?_
  rw [show (s.cell Builtin.pair.id).active = .builtin .pair from hactive]
  exact List.mem_cons_self

/-- A partial application that was not given another body makes pairs of what it keeps. -/
theorem ends_partialApplication {i : Nat} {f : FunctionId} {first : Value} (hik : i < k)
    (hcreated : .created f .partialApplication (.pairWith first) ∈ (point requests i).events)
    (hnone : ((point requests k).store.cell f).isRebound = false) (second : Value) :
    (Config.beginCall (.function f) second (point requests k).store).Ends
      (.ok (.pair first second), (point requests k).store) := by
  refine Config.ends_call_pairWith ?_
  rw [Cell.active_of_not_rebound hnone]
  exact body_of_created (mem_history.mpr ⟨i, hik, hcreated⟩)

/-- At every point of a session, calling a function of the prelude comes to what the operation of
that name comes to, unless that very function has been rebound, and an error gets the context and
the note of the prelude in place of its own. The call leaves the store as it was; that of `pair`
adds one function, which makes a pair with each argument that it gets, at once and at any later
point, unless it has been rebound itself. Sessions that bind functions through slots only rebind
neither. -/
theorem prelude_agrees_unless_rebound :
    (∀ (b : Builtin) (v : Value), b.named (.ok v) = .ok v) ∧
    (∀ (b : Builtin) (e : ValueError), b.named (.error e) =
      .error ⟨e.cause, .evaluatingPrelude, "in prelude function `" ++ b.name ++ "`"⟩) ∧
    (∀ requests k s, (point requests k).store = s →
      ((s.cell Builtin.first.id).isRebound = false → ∀ v,
        (Config.beginCall Builtin.first.value v s).Ends (Builtin.first.named v.getFirst, s)) ∧
      ((s.cell Builtin.second.id).isRebound = false → ∀ v,
        (Config.beginCall Builtin.second.value v s).Ends (Builtin.second.named v.getSecond, s)) ∧
      ((s.cell Builtin.isNull.id).isRebound = false → ∀ v,
        (Config.beginCall Builtin.isNull.value v s).Ends (.ok (.boolean v.isNull), s)) ∧
      ((s.cell Builtin.pair.id).isRebound = false → ∀ a, ∃ t,
        (Config.beginCall Builtin.pair.value a s).Ends (.ok (.function s.cells.size), t) ∧
        t.Extends s ∧ t.cells.size = s.cells.size + 1 ∧
        ∀ b, (Config.beginCall (.function s.cells.size) b t).Ends (.ok (.pair a b), t) ∧
          ((s.cell Builtin.first.id).isRebound = false →
            (Config.beginCall Builtin.first.value (.pair a b) t).Ends (.ok a, t)) ∧
          ((s.cell Builtin.second.id).isRebound = false →
            (Config.beginCall Builtin.second.value (.pair a b) t).Ends (.ok b, t)))) ∧
    (∀ requests i kept request a frames s pending,
      point requests i =
        .busy kept request ⟨.give (.ok a), .argument Builtin.pair.value :: frames, s⟩ pending →
      (s.cell Builtin.pair.id).isRebound = false →
      (∃ n, point requests (i + n) = .busy kept request
        ⟨.give (.ok (.function s.cells.size)), frames, (s.allocate (.pairWith a)).2⟩ pending) ∧
      ∀ k, i < k → ∀ t, (point requests k).store = t →
        (t.cell s.cells.size).isRebound = false → ∀ b,
          (Config.beginCall (.function s.cells.size) b t).Ends (.ok (.pair a b), t)) ∧
    (∀ requests k kept request v function frames s t pending outcome, point requests k =
        .busy kept request ⟨.give (.ok v), .argument function :: frames, s⟩ pending →
      (Config.beginCall function v s).Ends (outcome, t) →
      ∃ n, point requests (k + n) = .busy kept request ⟨.give outcome, frames, t⟩ pending) ∧
    ∀ requests, Public requests → ∀ k,
      (∀ b : Builtin, ((point requests k).store.cell b.id).isRebound = false) ∧
      ∀ f body, .created f .partialApplication body ∈ history requests k →
        ((point requests k).store.cell f).isRebound = false := by
  refine ⟨fun b v => rfl, fun b e => rfl, fun requests k s hs => ?_,
    fun requests i kept request a frames s pending hcall hnone => ?_,
    fun requests k kept request v function frames s t pending outcome => point_of_ends,
    fun requests hpublic k => ⟨fun b => not_rebound_builtin hpublic b, fun f body hcreated =>
      not_rebound_of_created hpublic hcreated (.inr rfl)⟩⟩
  · subst hs
    refine ⟨fun hfirst v => Config.ends_call_first (active_builtin hfirst),
      fun hsecond v => Config.ends_call_second (active_builtin hsecond),
      fun hisNull v => Config.ends_call_isNull (active_builtin hisNull), fun hpair a => ?_⟩
    generalize hs : (point requests k).store = s at hpair ⊢
    have hactive : ∀ b : Builtin, (s.cell b.id).isRebound = false →
        (s.cell b.id).active = .builtin b := by
      rw [← hs]
      exact fun b hnone => active_builtin hnone
    have hextends := Store.Extends.allocate s (.pairWith a)
    have hkept : ∀ b : Builtin, (s.cell b.id).isRebound = false →
        ((s.allocate (.pairWith a)).2.cell b.id).active = .builtin b :=
      fun b hnone => hextends.active_eq (hactive b hnone) Body.noConfusion
    have hnew : ((s.allocate (.pairWith a)).2.cell s.cells.size).active = .pairWith a := by
      rw [Store.cell_allocate, if_pos rfl]
      rfl
    exact ⟨_, Config.ends_call_pair (hactive .pair hpair), hextends, Store.size_allocate s _,
      fun b => ⟨Config.ends_call_pairWith hnew,
        fun hfirst => Config.ends_call_first (hkept .first hfirst),
        fun hsecond => Config.ends_call_second (hkept .second hsecond)⟩⟩
  · have hspared : ((point requests i).store.cell Builtin.pair.id).isRebound = false := by
      rw [hcall]
      exact hnone
    have hactive := active_builtin hspared
    have hcreated := created_of_pair hspared hcall
    rw [hcall] at hactive
    refine ⟨point_of_ends hcall (Config.ends_call_pair hactive), fun k hik t ht hkept b => ?_⟩
    subst ht
    exact ends_partialApplication hik hcreated hkept b

/-- Makes a partial application in the middle of a call and calls it twice, the second time with
itself. -/
def reusedApplication : Request where
  question := .view
  program := .call (.lambda "z" (.letIn "p" (.call (.prelude "pair") (.var "z"))
    (.binary .pair (.call (.var "p") .null) (.call (.var "p") (.var "p"))))) (.number 1)
  keepAs := none

theorem prelude_agrees_unless_rebound_reusedApplication :
    Public [reusedApplication] ∧
      (∃ n s, point [reusedApplication] (26 + n) = .busy [] reusedApplication
        ⟨.give (.ok (.pair (.number 1) (.function 5))),
          [.binaryRight .pair (.pair (.number 1) .null), .leave 4], s⟩ []) ∧
      (Config.beginCall Builtin.first.value (.number 3) (point [reusedApplication] 26).store).Ends
        (.error ⟨.typeMismatch .getFirst .number, .evaluatingPrelude,
          "in prelude function `first`"⟩, (point [reusedApplication] 26).store) := by
  obtain ⟨-, hnamed, hcalls, hpartial, hpoint, hspared⟩ := prelude_agrees_unless_rebound
  have hpublic : Public [reusedApplication] := by
    simp [Public, Uses, reusedApplication, Expr.Within]
  obtain ⟨hbuiltin, hmade⟩ := hspared _ hpublic 26
  obtain ⟨hfirst, -⟩ := hcalls [reusedApplication] 26 _ rfl
  have hmismatch := hfirst (hbuiltin .first) (.number 3)
  rw [show (Value.number 3).getFirst = .error ((Value.number 3).mismatch .getFirst) from rfl,
    hnamed] at hmismatch
  obtain ⟨-, hlater⟩ := hpartial [reusedApplication] 11 _ _ _ _ _ _ rfl rfl
  have hcreated : .created 5 .partialApplication (.pairWith (.number 1)) ∈
      history [reusedApplication] 26 :=
    mem_history.mpr ⟨11, by decide, List.mem_cons_of_mem _ List.mem_cons_self⟩
  have hcall := hlater 26 (by decide) _ rfl (hmade 5 _ hcreated) (.function 5)
  obtain ⟨n, hn⟩ := hpoint [reusedApplication] 26 _ _ _ _ _ _ _ _ _ rfl hcall
  exact ⟨hpublic, ⟨n, _, hn⟩, hmismatch⟩

/-- Makes a partial application and rebinds it, and a function of the prelude too. -/
def rebindsBoth : Request where
  question := .view
  program := .letIn "p" (.call (.prelude "pair") (.number 1))
    (.andThen (.rebind (.var "p") "x" .null) (.rebind (.prelude "first") "x" .null))
  keepAs := none

/-- What is rebound does not agree with the operations any more. -/
theorem prelude_disagrees_when_rebound :
    (∃ s, point [rebindsBoth] 18 = .idle s []) ∧
      (Value.pair (.number 1) (.number 2)).getFirst = .ok (.number 1) ∧
      (Config.beginCall Builtin.first.value (.pair (.number 1) (.number 2))
        (point [rebindsBoth] 18).store).Ends (.ok .null, (point [rebindsBoth] 18).store) ∧
      .created 4 .partialApplication (.pairWith (.number 1)) ∈ history [rebindsBoth] 18 ∧
      (Config.beginCall (.function 4) (.number 2) (point [rebindsBoth] 18).store).Ends
        (.ok .null, (point [rebindsBoth] 18).store) := by
  have hfirst : ((point [rebindsBoth] 18).store.cell Builtin.first.id).active =
      .closure [("p", .function 4)] "x" .null := rfl
  have hpartial : ((point [rebindsBoth] 18).store.cell 4).active =
      .closure [("p", .function 4)] "x" .null := rfl
  have hcreated : .created 4 .partialApplication (.pairWith (.number 1)) ∈
      (point [rebindsBoth] 6).events := List.mem_cons_of_mem _ List.mem_cons_self
  exact ⟨⟨_, rfl⟩, rfl, Config.ends_call_of_unchanged hfirst (Config.ends_of_start rfl),
    mem_history.mpr ⟨6, by decide, hcreated⟩,
    Config.ends_call_of_unchanged hpartial (Config.ends_of_start rfl)⟩

end Session

end RuntimeValues

import RuntimeValues.Proofs.Declaration
import RuntimeValues.Proofs.Session.Creation

/-!
# Functions without a body

To make a recursive function is to declare a function, to bind its body and to name it, with
nothing in between that could fail or look at the function. So a program meets a function
without a body only if some program declares one. The bodies that functions are given later
are closures, and what is made by other means has a body from the start; a call that finds no
body is therefore a call of a declared function that still awaits its own.
-/

namespace RuntimeValues

set_option autoImplicit false

/-- Declares a function, binds its body through the slot, and names it. -/
def Expr.declareThenBind (self slot param : String) (body : Expr) : Expr :=
  .letIn self (.declare slot) (.sequence [.bind slot param body, .var self])

namespace Store

variable {s : Store} {body : Body}

/-- A new function that has been given its body, and the notice of it. -/
def allocateBound (s : Store) (body : Body) : Store :=
  ((s.allocate .unbound).2.modify s.cells.size fun c => { c with rebound := some body }).record
    .bound

theorem cell_allocateBound :
    (s.allocateBound body).cell s.cells.size = ⟨.unbound, some body, 0⟩ := by
  rw [allocateBound, cell_record, cell_modify _ _ _ _ (by simp), if_pos rfl, cell_allocate,
    if_pos rfl]

/-- A slot that is put under a free name and taken away again leaves no trace. -/
theorem eraseSlot_insertSlot {name : String} (slot : Slot) (h : s.slot? name = none) :
    (s.insertSlot name slot).eraseSlot name = s := by
  have hslots : ((s.insertSlot name slot).eraseSlot name).slots = (s.eraseSlot name).slots := by
    simp only [insertSlot, eraseSlot]
    rw [List.filter_cons_of_neg (by simp), List.filter_filter]
    simp only [Bool.and_self]
  calc (s.insertSlot name slot).eraseSlot name
      = { s with slots := ((s.insertSlot name slot).eraseSlot name).slots } := rfl
    _ = s.eraseSlot name := by rw [hslots]; rfl
    _ = s := eraseSlot_of_free h

/-- A function that is declared under a free name and bound at once leaves no slot. -/
theorem bindAs_declareAs {name : String} (h : s.slot? name = none) :
    (s.declareAs name).bindAs name s.cells.size body = s.allocateBound body := by
  have hfree : (s.allocate .unbound).2.slot? name = none := h
  rw [bindAs, declareAs, eraseSlot_insertSlot _ hfree]
  rfl

end Store

namespace Config

variable {s : Store} {env : Env} {self param slot : String} {body : Expr}

theorem ends_recursive (s : Store) (env : Env) (self param : String) (body : Expr) :
    (begin env (.recursive self param body) s).Ends (.ok (.function s.cells.size),
      s.allocateBound (.closure ((self, .function s.cells.size) :: env) param body)) := by
  refine (ends_iff_of_step rfl).mpr ?_
  simp only [Expr.start, Store.makeRecursive_eq]
  exact (ends_give _ _).mpr rfl

theorem ends_declareThenBind (self param : String) (body : Expr) (env : Env)
    (h : s.slot? slot = none) :
    (begin env (.declareThenBind self slot param body) s).Ends (.ok (.function s.cells.size),
      s.allocateBound (.closure ((self, .function s.cells.size) :: env) param body)) := by
  have hdeclared := Store.declared_declareAs s slot
  rw [← Store.bindAs_declareAs h]
  -- the function is declared and named, its body is bound, and its name is looked up
  refine ((ends_declare slot env s).letIn _ _).mpr ?_
  exact ((ends_bind hdeclared param body).andThen _).mpr (ends_var_last self _ env _)

end Config

namespace Session

variable {requests : List Request} {f : FunctionId} {k : Nat}

/-- Only declared functions are without a body, and only until they are given one. -/
theorem declared_of_unbound (hf : f < (point requests k).store.cells.size)
    (h : ((point requests k).store.cell f).active = .unbound) :
    (∃ name, .created f (.declared name) .unbound ∈ history requests k) ∧
      ((point requests k).store.cell f).rebound = none := by
  have hnot : ¬ Body.unbound.IsClosure := fun ⟨env, param, program, heq⟩ => Body.noConfusion heq
  obtain ⟨hbody, hnone⟩ := body_of_not_closure h hnot
  refine ⟨?_, hnone⟩
  rcases builtin_or_created hf with ⟨b, rfl⟩ | ⟨origin, body, hcreated⟩
  · -- the functions of the prelude have the bodies that they start with
    rw [body_builtin] at hbody
    cases hbody
  · obtain rfl : body = .unbound := (body_of_created hcreated).symm.trans hbody
    obtain ⟨i, hi, hevent⟩ := mem_history.mp hcreated
    rcases Point.created_cases hevent with ⟨-, hne⟩ | ⟨-, hne⟩ | ⟨-, g, hbound⟩ | ⟨name, rfl, -⟩
    · exact absurd rfl hne
    · exact absurd rfl hne
    · rw [rebound_of_bound hi hbound] at hnone
      cases hnone
    · exact ⟨name, hcreated⟩

theorem unbound_of_declared {name : String} {body : Body}
    (hcreated : .created f (.declared name) body ∈ history requests k)
    (hnone : ((point requests k).store.cell f).rebound = none) :
    ((point requests k).store.cell f).active = .unbound := by
  obtain ⟨i, -, hevent⟩ := mem_history.mp hcreated
  obtain ⟨rfl, -⟩ := Point.events_of_declared hevent
  rw [Cell.active, hnone]
  exact body_of_created hcreated

/-- The call fails for want of a body exactly if its function was declared and awaits it. -/
theorem fails_of_call_iff {kept : Env} {request : Request} {v : Value} {frames : List Frame}
    {s : Store} {pending : List Request} (h : point requests k =
      .busy kept request ⟨.give (.ok v), .argument (.function f) :: frames, s⟩ pending) :
    (point requests (k + 1)).Fails .unboundFunction ↔
      (∃ name, .created f (.declared name) .unbound ∈ history requests k) ∧
        (s.cell f).rebound = none := by
  have hstore : (point requests k).store = s := store_of_busy h
  rw [← hstore]
  constructor
  · rintro ⟨e, hgives, hcause⟩
    rw [point_of_call h, ← hstore] at hgives
    rcases Body.unbound_or_plain hgives with ⟨hactive, -⟩ | hplain
    · refine declared_of_unbound ?_ hactive
      rw [hstore]
      exact lt_size_of_call h
    · rw [hcause] at hplain
      exact hplain.elim
  · rintro ⟨⟨name, hcreated⟩, hnone⟩
    have hactive := unbound_of_declared hcreated hnone
    refine ⟨Fault.unboundFunction.error, ?_, rfl⟩
    rw [point_of_call h, ← hstore, hactive]
    rfl

/-- Every error that tells of a function without a body arose in a call of such a function. -/
theorem call_of_fails (h : (point requests k).Fails .unboundFunction) :
    ∃ i < k, (∃ kept request v f frames s pending, point requests i =
        .busy kept request ⟨.give (.ok v), .argument (.function f) :: frames, s⟩ pending ∧
        (∃ name, .created f (.declared name) .unbound ∈ history requests i) ∧
        (s.cell f).rebound = none) ∧
      ∀ m, i < m → m ≤ k → (point requests m).Fails .unboundFunction := by
  obtain ⟨i, hi, hraises, hsince⟩ := raises_of_fails h
  refine ⟨i, hi, ?_, hsince⟩
  cases hpoint : point requests i with
  | idle session pending =>
    rw [hpoint] at hraises
    exact hraises.elim
  | busy kept request c pending =>
    rw [hpoint] at hraises
    obtain ⟨f, v, frames, s, rfl, -⟩ := hraises
    have hfails := hsince (i + 1) (Nat.lt_succ_self i) hi
    exact ⟨kept, request, v, f, frames, s, pending, rfl, (fails_of_call_iff hpoint).mp hfails⟩

/-- No program of the session declares a function. -/
def NeverDeclares (requests : List Request) : Prop :=
  Uses (fun form => ∀ name, form ≠ .declare name) requests

theorem NeverDeclares.not_created (hnever : NeverDeclares requests) {name : String}
    {body : Body} : .created f (.declared name) body ∉ history requests k := by
  intro hcreated
  obtain ⟨i, -, hevent⟩ := mem_history.mp hcreated
  have hscoped := wellScoped_point hnever i
  generalize point requests i = p at hevent hscoped
  cases p with
  | idle session pending => cases hevent
  | busy kept request c pending =>
    rcases Config.created_cases hevent with ⟨horigin, -⟩ | ⟨horigin, -⟩ | ⟨horigin, -⟩ |
      ⟨declared, env, -, hcontrol, -⟩
    · cases horigin
    · cases horigin
    · cases horigin
    · have hwithin := hscoped.config.within.control
      rw [hcontrol] at hwithin
      exact hwithin.2.form declared rfl

theorem NeverDeclares.active_ne_unbound (hnever : NeverDeclares requests)
    (hf : f < (point requests k).store.cells.size) :
    ((point requests k).store.cell f).active ≠ .unbound := by
  intro hactive
  obtain ⟨⟨name, hcreated⟩, -⟩ := declared_of_unbound hf hactive
  exact hnever.not_created hcreated

theorem NeverDeclares.not_fails (hnever : NeverDeclares requests) (k : Nat) :
    ¬ (point requests k).Fails .unboundFunction := by
  intro hfails
  obtain ⟨i, -, ⟨_, _, _, f, _, _, _, -, ⟨name, hcreated⟩, -⟩, -⟩ := call_of_fails hfails
  exact hnever.not_created hcreated

/-- Making a recursive function cannot fail, and it leaves behind what declaring a function,
binding its body and naming it leaves behind. A call finds no body exactly if its function was
declared and still awaits the body, and no other step makes an error of it. In a session that
declares nothing every function has a body, and there is no such error. -/
theorem unbound_only_if_declared :
    (∀ (s : Store) (env : Env) (self param : String) (body : Expr), ∃ after,
      (Config.begin env (.recursive self param body) s).Ends
        (.ok (.function s.cells.size), after) ∧
      (after.cell s.cells.size).isRebound = true ∧ after.log = s.log.push .bound ∧
      ∀ slot, s.slot? slot = none →
        (Config.begin env (.declareThenBind self slot param body) s).Ends
          (.ok (.function s.cells.size), after) ∧
        ∀ frames result, Config.Ends ⟨.eval env (.recursive self param body), frames, s⟩ result ↔
          Config.Ends ⟨.eval env (.declareThenBind self slot param body), frames, s⟩ result) ∧
    (∀ requests, NeverDeclares requests →
      (∀ k, ∀ f < (point requests k).store.cells.size,
        ((point requests k).store.cell f).active ≠ .unbound) ∧
      (∀ k, ¬ (point requests k).Fails .unboundFunction) ∧
      ∀ fuel replies final, initial.askAll fuel requests = some (replies, final) →
        ∀ reply ∈ replies, ∀ e, reply.answer = .error e → e.cause ≠ .unboundFunction) ∧
    (∀ requests k kept request v f frames s pending,
      point requests k =
        .busy kept request ⟨.give (.ok v), .argument (.function f) :: frames, s⟩ pending →
      ((point requests (k + 1)).Fails .unboundFunction ↔
        (∃ name, .created f (.declared name) .unbound ∈ history requests k) ∧
          (s.cell f).rebound = none)) ∧
    ∀ requests k, (point requests k).Fails .unboundFunction →
      ∃ i < k, (∃ kept request v f frames s pending, point requests i =
          .busy kept request ⟨.give (.ok v), .argument (.function f) :: frames, s⟩ pending ∧
          (∃ name, .created f (.declared name) .unbound ∈ history requests i) ∧
          (s.cell f).rebound = none) ∧
        ∀ m, i < m → m ≤ k → (point requests m).Fails .unboundFunction := by
  refine ⟨fun s env self param body => ?_, fun requests hnever =>
      ⟨fun k f => hnever.active_ne_unbound, hnever.not_fails, ?_⟩,
    fun requests k kept request v f frames s pending => fails_of_call_iff,
    fun requests k => call_of_fails⟩
  · have hrecursive := Config.ends_recursive s env self param body
    refine ⟨_, hrecursive, ?_, rfl, fun slot hslot => ?_⟩
    · rw [Store.cell_allocateBound]
      rfl
    · have hmanual := Config.ends_declareThenBind self param body env hslot
      refine ⟨hmanual, fun frames result => ?_⟩
      exact hrecursive.inside_iff.trans hmanual.inside_iff.symm
  · intro fuel replies final h reply hreply e herror hcause
    rcases fails_of_reply h hreply herror with ⟨k, hfails⟩ | ⟨v, hwalk⟩
    · rw [hcause] at hfails
      exact hnever.not_fails k hfails
    · have hplain := Value.plain_walk hwalk
      rw [hcause] at hplain
      exact hplain

/-- Calls a declared function before its body is bound and catches the error. -/
def earlyCall : Request where
  question := .view
  program := .letIn "f" (.declare "s")
    (.andThen (.attempt (.call (.var "f") .null) .null) (.bind "s" "x" (.var "x")))
  keepAs := none

/-- Makes a recursive function and calls it. -/
def recursiveCall : Request where
  question := .view
  program := .call (.recursive "f" "x" (.var "x")) .null
  keepAs := none

theorem unbound_only_if_declared_earlyCall :
    (Store.initial.slot? "s" = none ∧ ∃ after, (after.cell 4).isRebound = true ∧
      (Config.begin [] (.declareThenBind "f" "s" "x" (.var "x")) .initial).Ends
        (.ok (.function 4), after)) ∧
      (NeverDeclares [recursiveCall] ∧ ∀ k, ¬ (point [recursiveCall] k).Fails .unboundFunction) ∧
      (point [earlyCall] 11).Fails .unboundFunction := by
  obtain ⟨hmake, hnever, hcall, -⟩ := unbound_only_if_declared
  have hrecursive : NeverDeclares [recursiveCall] := by
    simp [NeverDeclares, Uses, recursiveCall, Expr.Within]
  obtain ⟨after, -, hrebound, -, hmanual⟩ := hmake .initial [] "f" "x" (.var "x")
  have hdeclared : .created 4 (.declared "s") .unbound ∈ history [earlyCall] 10 :=
    mem_history.mpr ⟨2, by decide, List.mem_singleton.mpr rfl⟩
  refine ⟨⟨rfl, after, hrebound, (hmanual "s" rfl).1⟩, ⟨hrecursive, (hnever _ hrecursive).2.1⟩, ?_⟩
  exact (hcall [earlyCall] 10 _ _ _ _ _ _ _ rfl).mpr ⟨⟨"s", hdeclared⟩, rfl⟩

end Session

end RuntimeValues

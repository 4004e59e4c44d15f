import RuntimeValues.Proofs.Session.Awaiting
import RuntimeValues.Proofs.Session.Creation

/-!
# Sessions that bind functions through slots only

A program that never rebinds a function itself can give a body only to a declared function,
and only through its slot. Each slot in the table belongs to a function of its own that still
awaits its body, and such a function is not being called while a program is evaluated. So
every binding of a slot that is there succeeds, and no attempt is ever refused.
-/

namespace RuntimeValues

set_option autoImplicit false

/-- No program of the session rebinds a function itself. -/
def Session.Public (requests : List Request) : Prop :=
  Uses (fun form => ∀ target param body, form ≠ .rebind target param body) requests

/-- The next step binds the slot that is under this name. -/
def Point.BindsSlot (name : String) (slot : Slot) (p : Point) : Prop :=
  ∃ kept request env param program frames s pending,
    p = .busy kept request ⟨.eval env (.bind name param program), frames, s⟩ pending ∧
      s.slot? name = some slot

namespace Store

variable {s : Store} {entry : String × Slot}

theorem mem_slots_apply {e : Event} (h : entry ∈ (e.apply s).slots) :
    entry ∈ s.slots ∨ ∃ f body, e = .created f (.declared entry.1) body ∧
      entry.2 = ⟨.function f⟩ := by
  cases e with
  | created f origin body =>
    cases origin with
    | declared name =>
      rcases List.mem_cons.mp h with rfl | hold
      · exact .inr ⟨f, body, rfl, rfl⟩
      · exact .inl (List.mem_filter.mp hold).1
    | _ => exact .inl h
  | taken name slot => exact .inl (List.mem_filter.mp h).1
  | _ => exact .inl h

theorem mem_slots_after {events : List Event} (h : entry ∈ (s.after events).slots) :
    entry ∈ s.slots ∨ ∃ f body, .created f (.declared entry.1) body ∈ events ∧
      entry.2 = ⟨.function f⟩ := by
  induction events generalizing s with
  | nil => exact .inl h
  | cons e rest ih =>
    rcases ih h with hfirst | ⟨f, body, hcreated, hslot⟩
    · rcases mem_slots_apply hfirst with hold | ⟨f, body, rfl, hslot⟩
      · exact .inl hold
      · exact .inr ⟨f, body, List.mem_cons_self, hslot⟩
    · exact .inr ⟨f, body, List.mem_cons_of_mem _ hcreated, hslot⟩

end Store

theorem Slot.slots_bind (slot : Slot) (body : Body) (s : Store) :
    (slot.bind body s).2.slots = s.slots := by
  simp only [bind, Store.rebind]
  split
  · rfl
  · split
    next h =>
      split at h <;> cases h
      rfl
    next h =>
      split at h <;> cases h
      rfl

namespace Point

variable {p : Point} {name : String} {slot : Slot} {f : FunctionId}

theorem BindsSlot.mem_slots (h : p.BindsSlot name slot) : (name, slot) ∈ p.store.slots := by
  obtain ⟨kept, request, env, param, program, frames, s, pending, rfl, hslot⟩ := h
  exact Store.mem_slots_of_slot? hslot

/-- Binding uses up the slot. -/
theorem BindsSlot.next_slots (h : p.BindsSlot name slot) :
    ∀ entry ∈ p.next.store.slots, entry.1 ≠ name := by
  intro entry hentry
  obtain ⟨kept, request, env, param, program, frames, s, pending, rfl, hslot⟩ := h
  simp only [next, Config.step, Expr.start, hslot, store, Slot.slots_bind] at hentry
  exact of_decide_eq_true (List.mem_filter.mp hentry).2

theorem BindsSlot.attempts (h : p.BindsSlot name ⟨.function f⟩) :
    ∃ body, p.Attempts f body := by
  obtain ⟨kept, request, env, param, program, frames, s, pending, rfl, hslot⟩ := h
  exact ⟨_, .bind hslot⟩

end Point

namespace Session

variable {requests : List Request} {f : FunctionId} {k : Nat}

/-- Each slot in the table belongs to a function that was declared under its name. -/
theorem declared_of_slot {entry : String × Slot}
    (h : entry ∈ (point requests k).store.slots) :
    ∃ f body, .created f (.declared entry.1) body ∈ history requests k ∧
      entry.2 = ⟨.function f⟩ := by
  rw [store_point] at h
  rcases Store.mem_slots_after h with hinitial | hcreated
  · cases hinitial
  · exact hcreated

theorem bindsSlot_of_attempts (hpublic : Public requests) {body : Body}
    (h : (point requests k).Attempts f body) :
    ∃ name, (point requests k).BindsSlot name ⟨.function f⟩ := by
  have hscoped := wellScoped_point hpublic k
  generalize point requests k = p at h hscoped
  cases p with
  | idle session pending => exact h.elim
  | busy kept request c pending =>
    cases h with
    | bind hslot => exact ⟨_, _, _, _, _, _, _, _, _, rfl, hslot⟩
    | rebind =>
      obtain ⟨-, target, param, program, hform⟩ :=
        hscoped.config.within.frames _ List.mem_cons_self
      exact absurd rfl (hform target param program)

/-- Each slot in the table belongs to the function that was declared with it, and the function
has not been given a body. -/
def SlotsAwait (requests : List Request) (k : Nat) : Prop :=
  ∀ entry ∈ (point requests k).store.slots, ∃ f, entry.2 = ⟨.function f⟩ ∧
    .created f (.declared entry.1) .unbound ∈ history requests k ∧
    ((point requests k).store.cell f).rebound = none

/-- The function of a slot that stays in the table is given no body in the step. -/
theorem SlotsAwait.not_bound (hk : SlotsAwait requests k) (hpublic : Public requests)
    {entry : String × Slot} (hcreated : .created f (.declared entry.1) .unbound ∈ history requests k)
    (hstays : entry ∈ (point requests (k + 1)).store.slots) {g : Body} :
    .bound f g ∉ (point requests k).events := by
  intro hbound
  rcases Point.attempts_or_created hbound with hattempts | hrecursive
  · obtain ⟨name, hbinds⟩ := bindsSlot_of_attempts hpublic hattempts
    obtain ⟨f', hslot, hdeclared, -⟩ := hk (name, ⟨.function f⟩) hbinds.mem_slots
    cases hslot
    have horigin := (Store.created_unique (allows_history requests k) hcreated hdeclared).1
    rw [point_succ] at hstays
    exact hbinds.next_slots entry hstays (Origin.declared.inj horigin)
  · have hlater := mem_history_succ.mpr (.inl hcreated)
    exact created_ne hlater Origin.noConfusion (mem_history_succ.mpr (.inr hrecursive))

theorem slots_point (hpublic : Public requests) (k : Nat) : SlotsAwait requests k := by
  induction k with
  | zero =>
    intro entry hentry
    cases hentry
  | succ k ih =>
    intro entry hentry
    have hslots := hentry
    rw [point_succ, Point.store_next] at hslots
    rcases Store.mem_slots_after hslots with hold | ⟨f, body, hcreated, hslot⟩
    · obtain ⟨f, hslot, hcreated, hnone⟩ := ih entry hold
      have hnot := fun g => ih.not_bound (g := g) hpublic hcreated hentry
      exact ⟨f, hslot, mem_history_succ.mpr (.inl hcreated), (rebound_succ hnot).trans hnone⟩
    · have hnone := rebound_of_created hcreated
      obtain ⟨rfl, hevents⟩ := Point.events_of_declared hcreated
      have hnot : ∀ g, .bound f g ∉ (point requests k).events := by
        intro g hbound
        rw [hevents] at hbound
        cases List.mem_singleton.mp hbound
      exact ⟨f, hslot, mem_history_succ.mpr (.inr hcreated), (rebound_succ hnot).trans hnone⟩

/-- A slot that is there belongs to a function that awaits its body, and binding succeeds. -/
theorem bound_of_bindsSlot (hpublic : Public requests) {name : String} {slot : Slot}
    (h : (point requests k).BindsSlot name slot) :
    ∃ f body, slot = ⟨.function f⟩ ∧ .bound f body ∈ (point requests k).events ∧
      (point requests (k + 1)).Gives (.ok .null) := by
  obtain ⟨f, hslot, hcreated, hnone⟩ := slots_point hpublic k _ h.mem_slots
  obtain rfl : slot = ⟨.function f⟩ := hslot
  obtain ⟨body, hattempts⟩ := h.attempts
  have hbody := body_of_created hcreated
  have hcalls : ((point requests k).store.cell f).callsInFlight = 0 := by
    obtain ⟨kept, request, env, param, program, frames, s, pending, hpoint, -⟩ := h
    rw [hpoint] at hbody hnone ⊢
    exact counter_of_awaits hpoint ⟨hbody, hnone⟩
  obtain ⟨hgives, hbound⟩ := hattempts.gives_of_ok (Cell.rebind_of_idle hcalls hnone body)
  rw [← point_succ] at hgives
  exact ⟨f, body, rfl, hbound, hgives⟩

/-- No attempt to give a function a body is refused. -/
theorem not_refused (hpublic : Public requests) {body : Body} {reason : Refusal} :
    .refused f body reason ∉ (point requests k).events := by
  intro hrefused
  obtain ⟨hattempts, hrebind⟩ := Point.attempts_of_refused hrefused
  obtain ⟨name, hbinds⟩ := bindsSlot_of_attempts hpublic hattempts
  obtain ⟨f', body', hslot, hbound, -⟩ := bound_of_bindsSlot hpublic hbinds
  cases hslot
  obtain ⟨hcalls, hnone⟩ := Point.cell_of_bound hbound
  rw [Cell.rebind_of_idle hcalls hnone] at hrebind
  cases hrebind

theorem not_fails (hpublic : Public requests) (k : Nat) (reason : Refusal) :
    ¬ (point requests k).Fails reason.error.cause := by
  intro hfails
  obtain ⟨i, -, hraises, -⟩ := raises_of_fails hfails
  obtain ⟨f, body, hrefused⟩ := Point.refused_of_raises hraises
  exact not_refused hpublic hrefused

/-- A function is rebound exactly if it is recursive, or declared and its own slot was bound. -/
theorem isRebound_iff (hpublic : Public requests) :
    ((point requests k).store.cell f).isRebound = true ↔
      .created f .recursive .unbound ∈ history requests k ∨
      ∃ name, .created f (.declared name) .unbound ∈ history requests k ∧
        ∃ i < k, (point requests i).BindsSlot name ⟨.function f⟩ := by
  rw [Cell.isRebound, Option.isSome_iff_exists]
  constructor
  · rintro ⟨g, hg⟩
    obtain ⟨i, hi, hbound⟩ := rebound_point_iff.mp hg
    rcases Point.attempts_or_created hbound with hattempts | hrecursive
    · obtain ⟨name, hbinds⟩ := bindsSlot_of_attempts hpublic hattempts
      obtain ⟨f', hslot, hcreated, -⟩ := slots_point hpublic i _ hbinds.mem_slots
      cases hslot
      obtain ⟨j, hj, hcreated⟩ := mem_history.mp hcreated
      exact .inr ⟨name, mem_history.mpr ⟨j, by omega, hcreated⟩, i, hi, hbinds⟩
    · exact .inl (mem_history.mpr ⟨i, hi, hrecursive⟩)
  · rintro (hrecursive | ⟨name, -, i, hi, hbinds⟩)
    · obtain ⟨i, hi, hcreated⟩ := mem_history.mp hrecursive
      obtain ⟨g, hbound⟩ := Point.bound_of_recursive hcreated
      exact ⟨g, rebound_of_bound hi hbound⟩
    · obtain ⟨f', body, hslot, hbound, -⟩ := bound_of_bindsSlot hpublic hbinds
      cases hslot
      exact ⟨body, rebound_of_bound hi hbound⟩

theorem not_rebound_of_created (hpublic : Public requests) {origin : Origin} {body : Body}
    (hcreated : .created f origin body ∈ history requests k)
    (horigin : origin = .lambda ∨ origin = .partialApplication) :
    ((point requests k).store.cell f).isRebound = false := by
  by_contra hrebound
  rw [Bool.not_eq_false, isRebound_iff hpublic] at hrebound
  rcases hrebound with hrecursive | ⟨name, hdeclared, -⟩
  · refine created_ne hcreated ?_ hrecursive
    rcases horigin with rfl | rfl <;> exact Origin.noConfusion
  · refine created_ne hcreated ?_ hdeclared
    rcases horigin with rfl | rfl <;> exact Origin.noConfusion

theorem not_rebound_builtin (hpublic : Public requests) (b : Builtin) :
    ((point requests k).store.cell b.id).isRebound = false := by
  by_contra hrebound
  rw [Bool.not_eq_false, isRebound_iff hpublic] at hrebound
  rcases hrebound with hrecursive | ⟨name, hdeclared, -⟩
  · exact not_created_builtin b hrecursive
  · exact not_created_builtin b hdeclared

end Session

theorem Store.mem_log_after {s : Store} {events : List Event} {notice : Notice}
    (hnot : ∀ f body reason, .refused f body reason ∉ events) (hbuilt : .preludeBuilt ∉ events)
    (h : notice ∈ (s.after events).log) : notice ∈ s.log ∨ notice = .bound := by
  rw [log_after, Array.mem_append] at h
  rcases h with hold | hnew
  · exact .inl hold
  · obtain ⟨e, he, hnotice⟩ := List.mem_filterMap.mp (List.mem_toArray.mp hnew)
    cases e with
    | bound f body => exact .inr (Option.some.inj hnotice).symm
    | refused f body reason => exact absurd he (hnot f body reason)
    | preludeBuilt => exact absurd he hbuilt
    | _ => cases hnotice

namespace Session

variable {requests : List Request} {k : Nat}

theorem log_point (hpublic : Public requests) (k : Nat) :
    ∀ notice ∈ (point requests k).store.log, notice = .bound := by
  induction k with
  | zero =>
    intro notice hnotice
    simp [initial, Point.store, Store.initial] at hnotice
  | succ k ih =>
    intro notice hnotice
    rw [point_succ, Point.store_next] at hnotice
    rcases Store.mem_log_after (fun f body reason => not_refused hpublic)
      (preludeBuilt_not_mem_events requests k) hnotice with hold | hnew
    · exact ih notice hold
    · exact hnew

theorem reply_of_askAll (hpublic : Public requests) {fuel : Nat} {replies : List Reply}
    {final : Session} (h : initial.askAll fuel requests = some (replies, final)) :
    ∀ reply ∈ replies,
      (∀ e (reason : Refusal), reply.answer = .error e → e.cause ≠ reason.error.cause) ∧
      ∀ notice ∈ reply.log, notice = .bound := by
  intro reply hreply
  refine ⟨fun e reason herror hcause => ?_, fun notice hnotice => ?_⟩
  · rcases fails_of_reply h hreply herror with ⟨k, hfails⟩ | ⟨v, hwalk⟩
    · rw [hcause] at hfails
      exact not_fails hpublic k reason hfails
    · have hplain := Value.plain_walk hwalk
      rw [hcause] at hplain
      cases reason <;> exact hplain
  · obtain ⟨-, hreplies⟩ := Point.next_of_askAll h
    obtain ⟨n, kept, request, outcome, s, pending, hlast, -, start, hlog⟩ :=
      hreplies reply hreply
    have hpoint : point requests n = .busy kept request ⟨.give outcome, [], s⟩ pending := hlast
    rw [hlog, Array.toList_extract] at hnotice
    have hmem : notice ∈ s.log.toList := List.mem_of_mem_drop (List.mem_of_mem_take hnotice)
    have hstore : s = (point requests n).store := by
      rw [hpoint]
      rfl
    rw [hstore] at hmem
    exact log_point hpublic n notice (Array.mem_toList_iff.mp hmem)

/-- In a session that binds functions through slots only, every binding of a slot that is there
succeeds, no error tells of a refused attempt, and a function is rebound exactly if it is
recursive or declared with a slot that was bound. -/
theorem slots_bind_in_public_session (requests : List Request) (hpublic : Public requests) :
    (∀ k name slot, (point requests k).BindsSlot name slot →
      (point requests (k + 1)).Gives (.ok .null)) ∧
    (∀ k, ¬ (point requests k).Fails .alreadyRebound ∧
      ∀ n, ¬ (point requests k).Fails (.rebindDuringCall n)) ∧
    (∀ k, ∀ notice ∈ (point requests k).store.log, notice = .bound) ∧
    (∀ fuel replies final, initial.askAll fuel requests = some (replies, final) →
      ∀ reply ∈ replies,
        (∀ e, reply.answer = .error e →
          e.cause ≠ .alreadyRebound ∧ ∀ n, e.cause ≠ .rebindDuringCall n) ∧
        ∀ notice ∈ reply.log, notice = .bound) ∧
    (∀ k f, ((point requests k).store.cell f).isRebound = true ↔
      .created f .recursive .unbound ∈ history requests k ∨
      ∃ name, .created f (.declared name) .unbound ∈ history requests k ∧
        ∃ i < k, (point requests i).BindsSlot name ⟨.function f⟩) ∧
    (∀ k f origin body, .created f origin body ∈ history requests k →
      origin = .lambda ∨ origin = .partialApplication →
      ((point requests k).store.cell f).isRebound = false) ∧
    (∀ k (b : Builtin), ((point requests k).store.cell b.id).isRebound = false) := by
  refine ⟨fun k name slot h => ?_, fun k => ⟨?_, fun n => ?_⟩, log_point hpublic, ?_,
    fun k f => isRebound_iff hpublic,
    fun k f origin body hcreated horigin => not_rebound_of_created hpublic hcreated horigin,
    fun k b => not_rebound_builtin hpublic b⟩
  · obtain ⟨-, -, -, -, hgives⟩ := bound_of_bindsSlot hpublic h
    exact hgives
  · exact not_fails hpublic k .alreadyRebound
  · exact not_fails hpublic k (.callsInFlight n)
  · intro fuel replies final h reply hreply
    obtain ⟨herror, hlog⟩ := reply_of_askAll hpublic h reply hreply
    refine ⟨fun e he => ⟨?_, fun n => ?_⟩, hlog⟩
    · exact herror e .alreadyRebound he
    · exact herror e (.callsInFlight n) he

/-- Declares a function, binds its slot and calls it with a recursive function. -/
def slotBinding : Request where
  question := .view
  program := .letIn "f" (.declare "s")
    (.andThen (.bind "s" "x" (.var "x")) (.call (.var "f") (.recursive "g" "y" (.var "y"))))
  keepAs := none

theorem slots_bind_in_public_session_slotBinding :
    Public [slotBinding] ∧ (point [slotBinding] 6).Gives (.ok .null) ∧
      (∀ k, ¬ (point [slotBinding] k).Fails .alreadyRebound) ∧
      ((point [slotBinding] 15).store.cell 4).isRebound = true ∧
      ((point [slotBinding] 15).store.cell 5).isRebound = true ∧
      ((point [slotBinding] 15).store.cell Builtin.pair.id).isRebound = false := by
  have hpublic : Public [slotBinding] := by
    simp [Public, Uses, slotBinding, Expr.Within]
  obtain ⟨hbinds, hfails, -, -, hrebound, -, hbuiltin⟩ :=
    slots_bind_in_public_session [slotBinding] hpublic
  have hslot : (point [slotBinding] 5).BindsSlot "s" ⟨.function 4⟩ :=
    ⟨_, _, _, _, _, _, _, _, rfl, rfl⟩
  refine ⟨hpublic, hbinds 5 _ _ hslot, fun k => (hfails k).1, ?_, ?_, hbuiltin 15 .pair⟩
  · refine (hrebound 15 4).mpr (.inr ⟨"s", mem_history.mpr ⟨2, by decide, ?_⟩, 5, by decide, hslot⟩)
    exact List.mem_singleton.mpr rfl
  · refine (hrebound 15 5).mpr (.inl (mem_history.mpr ⟨10, by decide, ?_⟩))
    exact List.mem_cons_self

end Session

end RuntimeValues

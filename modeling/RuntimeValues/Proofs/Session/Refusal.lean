import RuntimeValues.Proofs.Session.Creation

/-!
# Refused bodies

Whether a function is given a body is decided by its state alone. The calls that are running are
asked about first and the second body after that; a function with neither gets the body, and
nothing else in the store changes. A body that was refused leaves no trace: the step that refuses
it is the same for every other body, and whatever body a later call runs was there before the
attempt, or was made or given after it.
-/

namespace RuntimeValues

set_option autoImplicit false

namespace Store

variable {s : Store} {f : FunctionId}

theorem rebind_of_running (h : (s.cell f).callsInFlight ≠ 0) (body : Body) :
    s.rebind f body =
      (.error (Fault.rebindDuringCall (s.cell f).callsInFlight.toNat).error,
        s.record (.rejected (.callsInFlight (s.cell f).callsInFlight.toNat))) := by
  simp only [rebind, Cell.rebind_of_running h]
  rfl

theorem rebind_of_rebound {given : Body} (hcalls : (s.cell f).callsInFlight = 0)
    (hrebound : (s.cell f).rebound = some given) (body : Body) :
    s.rebind f body = (.error Fault.alreadyRebound.error, s.record (.rejected .alreadyRebound)) := by
  simp only [rebind, Cell.rebind_of_rebound hcalls hrebound]
  rfl

theorem rebind_of_idle (hcalls : (s.cell f).callsInFlight = 0)
    (hnone : (s.cell f).rebound = none) (body : Body) :
    s.rebind f body = (.ok (), s.modify f fun c => { c with rebound := some body }) := by
  simp only [rebind, Cell.rebind_of_idle hcalls hnone]
  rw [modify_const s f fun c => { c with rebound := some body }]

end Store

/-- Binding a slot is rebinding its function, and a notice in addition if that succeeds. -/
theorem Slot.bind_eq_rebind (s : Store) (f : FunctionId) (body : Body) :
    (Slot.bind ⟨.function f⟩ body s).1 = (s.rebind f body).1 ∧
      (Slot.bind ⟨.function f⟩ body s).2.cells = (s.rebind f body).2.cells ∧
      (Slot.bind ⟨.function f⟩ body s).2.slots = (s.rebind f body).2.slots := by
  simp only [bind, Value.asFunction]
  split
  next h =>
    rw [h]
    exact ⟨rfl, rfl, rfl⟩
  next h =>
    rw [h]
    exact ⟨rfl, rfl, rfl⟩

/-- A refusal does not look at the body that is refused. -/
theorem Cell.rebind_of_refused {c : Cell} {body : Body} {reason : Refusal}
    (h : c.rebind body = .error reason) (other : Body) : c.rebind other = .error reason := by
  simp only [rebind] at h ⊢
  split at h
  next hcalls =>
    rw [if_pos hcalls]
    exact h
  next hcalls =>
    rw [if_neg hcalls]
    split at h
    next hrebound =>
      rw [if_pos hrebound]
      exact h
    next => cases h

namespace Config

/-- Both are about to try to give the function a body and differ in nothing but these bodies. -/
inductive AlikeAttempts (f : FunctionId) : Config → Config → Prop
  | bind {env env' : Env} {name param param' : String} {program program' : Expr}
      {frames : List Frame} {s : Store} (hslot : s.slot? name = some ⟨.function f⟩) :
      AlikeAttempts f ⟨.eval env (.bind name param program), frames, s⟩
        ⟨.eval env' (.bind name param' program'), frames, s⟩
  | rebind {body body' : Body} {frames : List Frame} {s : Store} :
      AlikeAttempts f ⟨.give (.ok (.function f)), .rebind body :: frames, s⟩
        ⟨.give (.ok (.function f)), .rebind body' :: frames, s⟩

/-- What is refused makes no difference to what comes after the refusal. -/
theorem AlikeAttempts.step_eq {f : FunctionId} {c c' : Config} {body : Body} {reason : Refusal}
    (h : AlikeAttempts f c c') (hrefused : (c.store.cell f).rebind body = .error reason) :
    c.step = c'.step := by
  have hbind : ∀ s : Store, s.cell f = c.store.cell f → ∀ g,
      Slot.bind ⟨.function f⟩ g s = (.error reason.error, s.record (.rejected reason)) := by
    intro s hcell g
    refine Slot.bind_of_refused ?_
    rw [hcell]
    exact Cell.rebind_of_refused hrefused g
  cases h with
  | bind hslot =>
    simp only [step, Expr.start, hslot]
    rw [hbind (Store.eraseSlot _ _) rfl, hbind (Store.eraseSlot _ _) rfl]
  | rebind =>
    simp only [step, Frame.resume]
    rw [hbind _ rfl, hbind _ rfl]

end Config

namespace Session

variable {requests : List Request} {f : FunctionId}

/-- The body that a function runs at a point was there at an earlier one, or was given or made
in between. -/
theorem active_cases {i m : Nat} (him : i ≤ m) (hf : f < (point requests m).store.cells.size) :
    (f < (point requests i).store.cells.size ∧
      ((point requests m).store.cell f).active = ((point requests i).store.cell f).active) ∨
    (∃ j, i ≤ j ∧ j < m ∧
      .bound f ((point requests m).store.cell f).active ∈ (point requests j).events) ∨
    ∃ j origin, i ≤ j ∧ j < m ∧
      .created f origin ((point requests m).store.cell f).active ∈ (point requests j).events := by
  cases hrebound : ((point requests m).store.cell f).rebound with
  | some g =>
    have hactive : ((point requests m).store.cell f).active = g := by
      rw [Cell.active, hrebound]
      rfl
    rw [hactive]
    obtain ⟨j, hj, hbound⟩ := rebound_point_iff.mp hrebound
    rcases Nat.lt_or_ge j i with hji | hij
    · refine .inl ⟨?_, (active_of_bound ⟨j, hji, hbound⟩).symm⟩
      by_contra hsize
      have hgiven := rebound_of_bound hji hbound
      rw [Store.cell_of_size_le _ f (Nat.le_of_not_lt hsize)] at hgiven
      cases hgiven
    · exact .inr (.inl ⟨j, hij, hj, hbound⟩)
  | none =>
    have hactive : ((point requests m).store.cell f).active =
        ((point requests m).store.cell f).body := by
      rw [Cell.active, hrebound]
      rfl
    rw [hactive]
    by_cases hold : f < (point requests i).store.cells.size
    · have hnone : ((point requests i).store.cell f).rebound = none := by
        cases hbefore : ((point requests i).store.cell f).rebound with
        | none => rfl
        | some g =>
          rw [rebound_point_of_le him hbefore] at hrebound
          cases hrebound
      refine .inl ⟨hold, ?_⟩
      rw [body_point him hold, Cell.active, hnone]
      rfl
    · obtain ⟨j, origin, body, hij, hj, hcreated⟩ :=
        created_between (Nat.le_of_not_lt hold) hf
      have hbody := body_of_created (mem_history.mpr ⟨j, hj, hcreated⟩)
      rw [hbody]
      exact .inr (.inr ⟨j, origin, hij, hj, hcreated⟩)

/-- An attempt that ends with an error was refused, and no function has changed. -/
theorem cells_of_failed {i : Nat} {body : Body} {e : ValueError}
    (hattempts : (point requests i).Attempts f body)
    (hgives : (point requests (i + 1)).Gives (.error e)) :
    (point requests (i + 1)).store.cells = (point requests i).store.cells := by
  rw [point_succ] at hgives ⊢
  cases hrebind : ((point requests i).store.cell f).rebind body with
  | ok after =>
    obtain ⟨hnull, -⟩ := hattempts.gives_of_ok hrebind
    cases hnull.unique hgives
  | error reason => exact hattempts.cells_of_refused hrebind

/-- The state of a function decides what an attempt to give it a body comes to: an error that
counts the running calls if there are any, the error of a function that has its second body, or
that this body is given and nothing else changes. Binding a slot comes to the same and fails on
what is no function. A body that was refused is lost: any other one in its place would have led
to the same next step, and a later call runs a body that was there before, or one that was given
or made since. -/
theorem attempts_decided_by_state :
    (∀ (s : Store) (f : FunctionId) (body : Body), f < s.cells.size →
      ((s.cell f).callsInFlight ≠ 0 →
        s.rebind f body =
          (.error (Fault.rebindDuringCall (s.cell f).callsInFlight.toNat).error,
            s.record (.rejected (.callsInFlight (s.cell f).callsInFlight.toNat)))) ∧
      ((s.cell f).callsInFlight = 0 → ∀ given, (s.cell f).rebound = some given →
        s.rebind f body =
          (.error Fault.alreadyRebound.error, s.record (.rejected .alreadyRebound))) ∧
      ((s.cell f).callsInFlight = 0 → (s.cell f).rebound = none →
        ∃ after, s.rebind f body = (.ok (), after) ∧
          (∀ g, after.cell g =
            if g = f then { s.cell f with rebound := some body } else s.cell g) ∧
          after.cells.size = s.cells.size ∧ after.slots = s.slots ∧ after.log = s.log)) ∧
    (∀ (s : Store) (f : FunctionId) (body : Body),
      (Slot.bind ⟨.function f⟩ body s).1 = (s.rebind f body).1 ∧
        (Slot.bind ⟨.function f⟩ body s).2.cells = (s.rebind f body).2.cells ∧
        (Slot.bind ⟨.function f⟩ body s).2.slots = (s.rebind f body).2.slots) ∧
    (∀ (s : Store) (v : Value) (body : Body), v.kind ≠ .function →
      Slot.bind ⟨v⟩ body s = (.error (Fault.typeMismatch .call v.kind).error, s)) ∧
    (∀ f c c', Config.AlikeAttempts f c c' →
      (c.store.cell f).callsInFlight ≠ 0 ∨ (c.store.cell f).rebound ≠ none → c.step = c'.step) ∧
    ∀ requests i f body e, (point requests i).Attempts f body →
      (point requests (i + 1)).Gives (.error e) →
      (point requests (i + 1)).store.cells = (point requests i).store.cells ∧
      ∀ m kept request v g frames s pending, i < m →
        point requests m =
          .busy kept request ⟨.give (.ok v), .argument (.function g) :: frames, s⟩ pending →
        ∃ given : Body,
          point requests (m + 1) =
            .busy kept request (given.start v (.leave g :: frames) (s.enter g)) pending ∧
          ((g < (point requests i).store.cells.size ∧
              given = ((point requests i).store.cell g).active) ∨
            (∃ j, i < j ∧ j < m ∧ .bound g given ∈ (point requests j).events) ∨
            ∃ j origin, i < j ∧ j < m ∧ .created g origin given ∈ (point requests j).events) := by
  refine ⟨fun s f body hf => ⟨fun hcalls => Store.rebind_of_running hcalls body,
      fun hcalls given hgiven => Store.rebind_of_rebound hcalls hgiven body,
      fun hcalls hnone => ?_⟩,
    Slot.bind_eq_rebind, fun s v body hkind => ?_, fun f c c' halike hstate => ?_,
    fun requests i f body e hattempts hgives => ?_⟩
  · refine ⟨_, Store.rebind_of_idle hcalls hnone body, fun g => ?_, Store.size_modify s f _, rfl,
      rfl⟩
    rw [Store.cell_modify s f g _ hf]
    split
    next hg => rw [hg]
    next => rfl
  · refine Slot.bind_of_mismatch fun f hv => hkind ?_
    rw [hv]
    rfl
  · by_cases hcalls : (c.store.cell f).callsInFlight = 0
    · obtain ⟨given, hgiven⟩ := Option.ne_none_iff_exists'.mp (hstate.resolve_left (· hcalls))
      exact halike.step_eq (Cell.rebind_of_rebound hcalls hgiven .unbound)
    · exact halike.step_eq (Cell.rebind_of_running hcalls .unbound)
  · have hcells := cells_of_failed hattempts hgives
    have hcell : ∀ g, (point requests (i + 1)).store.cell g = (point requests i).store.cell g := by
      intro g
      simp only [Store.cell, hcells]
    refine ⟨hcells, fun m kept request v g frames s pending him hcall => ?_⟩
    have hstore : (point requests m).store = s := store_of_busy hcall
    refine ⟨(s.cell g).active, point_of_call hcall, ?_⟩
    rw [← hstore, ← hcell, ← hcells]
    refine active_cases him ?_
    rw [hstore]
    exact lt_size_of_call hcall

/-- Calls a function that tries to give itself another body, and calls it again. -/
def refusedInCall : Request where
  question := .view
  program := .letIn "f" (.recursive "f" "x" (.attempt (.rebind (.var "f") "y" .null) (.var "x")))
    (.andThen (.call (.var "f") (.boolean true)) (.call (.var "f") (.boolean false)))
  keepAs := none

theorem attempts_decided_by_state_refusedInCall :
    (point [refusedInCall] 14).Gives (.error (Fault.rebindDuringCall 1).error) ∧
      (point [refusedInCall] 14).store.cells = (point [refusedInCall] 13).store.cells ∧
      (∃ (given : Body) (s : Store),
        point [refusedInCall] 23 =
          .busy [] refusedInCall (given.start (.boolean false) [.leave 4] s) [] ∧
        ((4 < (point [refusedInCall] 13).store.cells.size ∧
            given = ((point [refusedInCall] 13).store.cell 4).active) ∨
          (∃ j, 13 < j ∧ j < 22 ∧ .bound 4 given ∈ (point [refusedInCall] j).events) ∨
          ∃ j origin, 13 < j ∧ j < 22 ∧
            .created 4 origin given ∈ (point [refusedInCall] j).events)) ∧
      ((point [refusedInCall] 13).store.cell 4).callsInFlight ≠ 0 ∧
      ((point [refusedInCall] 13).store.rebind 4 .unbound).1 =
        .error (Fault.rebindDuringCall 1).error ∧
      Slot.bind ⟨.null⟩ .unbound .initial =
        (.error (Fault.typeMismatch .call .null).error, .initial) := by
  obtain ⟨hdecided, -, hmismatch, -, hrefused⟩ := attempts_decided_by_state
  have hgives : (point [refusedInCall] 14).Gives (.error (Fault.rebindDuringCall 1).error) := rfl
  obtain ⟨hcells, hcalls⟩ := hrefused [refusedInCall] 13 4 _ _ .rebind hgives
  obtain ⟨given, hcall, hgiven⟩ := hcalls 22 _ _ _ _ _ _ _ (by decide) rfl
  have hrunning : ((point [refusedInCall] 13).store.cell 4).callsInFlight ≠ 0 := by decide
  have hrebind := (hdecided (point [refusedInCall] 13).store 4 .unbound (by decide)).1 hrunning
  refine ⟨hgives, hcells, ⟨given, _, hcall, hgiven⟩, hrunning, ?_,
    hmismatch .initial .null .unbound Kind.noConfusion⟩
  rw [hrebind]
  rfl

end Session

end RuntimeValues

import RuntimeValues.Proofs.Session.Bodies
import RuntimeValues.Proofs.Session.RunningCalls
import Mathlib.Tactic.IntervalCases

/-!
# Functions do not change while they run

While a call of a function is running, its counter is not zero, so no attempt to give it a
body succeeds. Its bodies stay as they are until the last of its calls has ended, and all
calls inside of one call run the body of that call. Since the counter wraps around, calls of
one function must not be nested 2^64 deep.
-/

namespace RuntimeValues

set_option autoImplicit false

/-- A call of the function is running, and the counter can tell how many are. -/
def Point.InFlight (f : FunctionId) (p : Point) : Prop :=
  0 < running f p.frames ∧ running f p.frames < UInt64.size

theorem running_pos_of_suffix {f : FunctionId} {outer frames : List Frame}
    (h : .leave f :: outer <:+ frames) : 0 < running f frames := by
  have hmem : Frame.leave f ∈ frames := h.subset List.mem_cons_self
  exact List.countP_pos_iff.mpr ⟨.leave f, hmem, by simp [Frame.isCallOf]⟩

namespace Session

variable {requests : List Request} {f : FunctionId} {g : Body} {k : Nat}

theorem counter_of_inFlight (h : (point requests k).InFlight f) :
    ((point requests k).store.cell f).callsInFlight ≠ 0 := by
  intro hzero
  have hcounter := counter_toNat h.2
  rw [hzero] at hcounter
  have hpos := h.1
  rw [← hcounter] at hpos
  exact absurd hpos (by decide)

theorem lt_size_of_inFlight (h : (point requests k).InFlight f) :
    f < (point requests k).store.cells.size := by
  by_contra hge
  have hnew := Store.cell_of_size_le (point requests k).store f (Nat.le_of_not_lt hge)
  refine counter_of_inFlight h ?_
  rw [hnew]
  rfl

theorem not_bound_of_inFlight (h : (point requests k).InFlight f) :
    .bound f g ∉ (point requests k).events := fun hbound =>
  counter_of_inFlight h (Point.cell_of_bound hbound).1

/-- While calls of a function are running, it keeps both of its bodies. -/
theorem bodies_of_inFlight {i j : Nat} (hij : i ≤ j)
    (h : ∀ m, i ≤ m → m < j → (point requests m).InFlight f) :
    ((point requests j).store.cell f).body = ((point requests i).store.cell f).body ∧
      ((point requests j).store.cell f).rebound = ((point requests i).store.cell f).rebound := by
  induction j, hij using Nat.le_induction with
  | base => exact ⟨rfl, rfl⟩
  | succ j hij ih =>
    obtain ⟨hbody, hrebound⟩ := ih fun m him hmj => h m him (Nat.lt_succ_of_lt hmj)
    have hlast := h j hij (Nat.lt_succ_self j)
    constructor
    · rw [body_point (Nat.le_succ j) (lt_size_of_inFlight hlast), hbody]
    · rw [rebound_succ fun g => not_bound_of_inFlight hlast, hrebound]

theorem active_of_inFlight {i j : Nat} (hij : i ≤ j)
    (h : ∀ m, i ≤ m → m < j → (point requests m).InFlight f) :
    ((point requests j).store.cell f).active = ((point requests i).store.cell f).active := by
  obtain ⟨hbody, hrebound⟩ := bodies_of_inFlight hij h
  rw [Cell.active, Cell.active, hbody, hrebound]

/-- An attempt is refused while calls are running, whether or not there is a second body. -/
theorem refused_of_inFlight (h : (point requests k).InFlight f)
    (hattempts : (point requests k).Attempts f g) :
    (point requests (k + 1)).Gives
        (.error (Fault.rebindDuringCall (running f (point requests k).frames)).error) ∧
      ∀ f', (point requests (k + 1)).store.cell f' = (point requests k).store.cell f' := by
  have hrefused := Cell.rebind_of_running (counter_of_inFlight h) g
  rw [counter_toNat h.2] at hrefused
  rw [point_succ]
  exact ⟨hattempts.gives_of_refused hrefused, hattempts.cell_of_refused hrefused⟩

/-- From one point to another, the call with these frames outside of it has not ended, and
the calls of the function are not nested 2^64 deep. -/
def CallGoesOn (requests : List Request) (f : FunctionId) (outer : List Frame) (i j : Nat) :
    Prop :=
  ∀ m, i < m → m ≤ j → .leave f :: outer <:+ (point requests m).frames ∧
    running f (point requests m).frames < UInt64.size

theorem CallGoesOn.inFlight {outer : List Frame} {i j m : Nat}
    (h : CallGoesOn requests f outer i j) (him : i < m) (hmj : m ≤ j) :
    (point requests m).InFlight f := by
  obtain ⟨hsuffix, hbound⟩ := h m him hmj
  exact ⟨running_pos_of_suffix hsuffix, hbound⟩

theorem not_bound_of_call {m : Nat} {kept : Env} {request : Request} {v : Value}
    {frames : List Frame} {s : Store} {pending : List Request}
    (h : point requests m =
      .busy kept request ⟨.give (.ok v), .argument (.function f) :: frames, s⟩ pending) :
    ∀ g, .bound f g ∉ (point requests m).events := by
  intro g hbound
  rw [h] at hbound
  have hevent : .bound f g ∈
      Config.events ⟨.give (.ok v), .argument (.function f) :: frames, s⟩ := hbound
  rcases Config.attempts_of_bound hevent with ⟨hattempts, -⟩ | ⟨_, _, _, _, _, _, hc, -⟩
  · cases hattempts
  · cases hc

/-- From the start of a call to its end the function has the body that the call runs. -/
theorem active_of_callGoesOn {i j : Nat} {kept : Env} {request : Request} {v : Value}
    {outer : List Frame} {s : Store} {pending : List Request} (hij : i < j)
    (hcall : point requests i =
      .busy kept request ⟨.give (.ok v), .argument (.function f) :: outer, s⟩ pending)
    (h : ∀ m, i < m → m < j → (point requests m).InFlight f) :
    ((point requests j).store.cell f).active = (s.cell f).active := by
  have hstore : (point requests i).store = s := store_of_busy hcall
  have hfirst : ((point requests (i + 1)).store.cell f).active = (s.cell f).active := by
    have hsize : f < (point requests i).store.cells.size := by
      rw [hstore]
      exact lt_size_of_call hcall
    rw [Cell.active, Cell.active, rebound_succ (not_bound_of_call hcall),
      body_point (Nat.le_succ i) hsize, hstore]
  rw [← hfirst]
  exact active_of_inFlight hij fun m him hmj => h m him hmj

/-- Nothing changes the bodies of a function while a call of it is running. Every attempt is
refused, a call inside of another one runs the body of that one, and when a call ends the
function has the body that the call started with. -/
theorem frozen_while_running (requests : List Request) (f : FunctionId) :
    (∀ i j, i ≤ j → (∀ m, i ≤ m → m < j → (point requests m).InFlight f) →
      ((point requests j).store.cell f).body = ((point requests i).store.cell f).body ∧
      ((point requests j).store.cell f).rebound =
        ((point requests i).store.cell f).rebound) ∧
    (∀ k g, (point requests k).InFlight f → (point requests k).Attempts f g →
      (point requests (k + 1)).Gives
          (.error (Fault.rebindDuringCall (running f (point requests k).frames)).error) ∧
        (point requests (k + 1)).store.cell f = (point requests k).store.cell f) ∧
    (∀ i j kept request v outer s pending kept' request' v' outer' s' pending', i < j →
      point requests i =
        .busy kept request ⟨.give (.ok v), .argument (.function f) :: outer, s⟩ pending →
      CallGoesOn requests f outer i j →
      point requests j =
        .busy kept' request' ⟨.give (.ok v'), .argument (.function f) :: outer', s'⟩ pending' →
      ∃ body : Body,
        point requests (i + 1) =
          .busy kept request (body.start v (.leave f :: outer) (s.enter f)) pending ∧
        point requests (j + 1) =
          .busy kept' request' (body.start v' (.leave f :: outer') (s'.enter f)) pending') ∧
    (∀ i j kept request v outer s pending outcome s', i < j →
      point requests i =
        .busy kept request ⟨.give (.ok v), .argument (.function f) :: outer, s⟩ pending →
      CallGoesOn requests f outer i j →
      point requests j = .busy kept request ⟨.give outcome, .leave f :: outer, s'⟩ pending →
      ∃ body : Body,
        point requests (i + 1) =
          .busy kept request (body.start v (.leave f :: outer) (s.enter f)) pending ∧
        (s'.cell f).active = body ∧ ((point requests (j + 1)).store.cell f).active = body) := by
  refine ⟨fun i j hij h => bodies_of_inFlight hij h, fun k g h hattempts => ?_, ?_, ?_⟩
  · obtain ⟨hgives, hcells⟩ := refused_of_inFlight h hattempts
    exact ⟨hgives, hcells f⟩
  · intro i j kept request v outer s pending kept' request' v' outer' s' pending' hij hcall hon
      hinner
    have hactive := active_of_callGoesOn hij hcall
      fun m him hmj => hon.inFlight him (Nat.le_of_lt hmj)
    rw [hinner] at hactive
    have hbody : (s'.cell f).active = (s.cell f).active := hactive
    refine ⟨(s.cell f).active, point_of_call hcall, ?_⟩
    rw [← hbody]
    exact point_of_call hinner
  · intro i j kept request v outer s pending outcome s' hij hcall hon hend
    have hactive := active_of_callGoesOn hij hcall
      fun m him hmj => hon.inFlight him (Nat.le_of_lt hmj)
    have hafter := active_of_callGoesOn (Nat.lt_succ_of_lt hij) hcall
      fun m him hmj => hon.inFlight him (Nat.le_of_lt_succ hmj)
    rw [hend] at hactive
    exact ⟨(s.cell f).active, point_of_call hcall, hactive, hafter⟩

/-- A function that calls itself once, and inside of that call tries to give itself another
body and goes on after the error. -/
def nestedRebinding : Request where
  question := .view
  program := .call (.recursive "f" "x" (.ifThenElse (.unary .isNull (.var "x"))
    (.call (.var "f") (.boolean true)) (.attempt (.rebind (.var "f") "y" .null) .null))) .null
  keepAs := none

theorem frozen_while_running_nestedRebinding :
    (point [nestedRebinding] 25).Gives (.error (Fault.rebindDuringCall 2).error) ∧
    (∃ (body : Body) (v v' : Value) (outer : List Frame) (s s' : Store),
      point [nestedRebinding] 6 = .busy [] nestedRebinding (body.start v [.leave 4] s) [] ∧
      point [nestedRebinding] 16 =
        .busy [] nestedRebinding (body.start v' (.leave 4 :: outer) s') []) ∧
    (∃ (body : Body) (v : Value) (s : Store),
      point [nestedRebinding] 6 = .busy [] nestedRebinding (body.start v [.leave 4] s) [] ∧
      ((point [nestedRebinding] 29).store.cell 4).active = body) ∧
    ((point [nestedRebinding] 28).store.cell 4).rebound =
      ((point [nestedRebinding] 6).store.cell 4).rebound := by
  obtain ⟨hbodies, hrefused, hnested, hend⟩ := frozen_while_running [nestedRebinding] 4
  have hon : CallGoesOn [nestedRebinding] 4 [] 5 28 := by
    intro m him hmj
    have hlast := List.drop_suffix ((point [nestedRebinding] m).frames.length - 1)
      (point [nestedRebinding] m).frames
    interval_cases m <;> exact ⟨hlast, by decide⟩
  refine ⟨(hrefused 24 _ ⟨by decide, by decide⟩ .rebind).1, ?_, ?_, ?_⟩
  · obtain ⟨body, hfirst, hsecond⟩ := hnested 5 15 _ _ _ _ _ _ _ _ _ _ _ _ (by decide) rfl
      (fun m him hmj => hon m him (by omega)) rfl
    exact ⟨body, _, _, _, _, _, hfirst, hsecond⟩
  · obtain ⟨body, hfirst, -, hactive⟩ := hend 5 28 _ _ _ _ _ _ _ _ (by decide) rfl hon rfl
    exact ⟨body, _, _, hfirst, hactive⟩
  · exact (hbodies 6 28 (by decide) fun m him hmj => hon.inFlight (by omega) (by omega)).2

end Session

end RuntimeValues

import RuntimeValues.Proofs.Session.Attempt

/-!
# Counters and running calls

A running call is a frame, and each function counts its running calls in 64 bits. Here the
counter is shown to be the number of frames, up to wrapping around, at every point of a
session. Both follow the events: a call that starts adds one to each and a call that ends
takes one from each, and no other event touches either.
-/

namespace RuntimeValues

set_option autoImplicit false

def Frame.isCallOf (f : FunctionId) : Frame → Bool
  | leave g => g == f
  | _ => false

/-- The number of calls of the function that are running. -/
def running (f : FunctionId) (frames : List Frame) : Nat := frames.countP (Frame.isCallOf f)

def Event.startsCallOf (f : FunctionId) : Event → Bool
  | called g => g == f
  | _ => false

def Event.endsCallOf (f : FunctionId) : Event → Bool
  | returned g => g == f
  | _ => false

/-- The number of calls of the function that start in the history. -/
def started (f : FunctionId) (history : List Event) : Nat :=
  history.countP (Event.startsCallOf f)

/-- The number of calls of the function that end in the history. -/
def ended (f : FunctionId) (history : List Event) : Nat :=
  history.countP (Event.endsCallOf f)

variable {f : FunctionId}

@[simp] theorem running_nil : running f [] = 0 := rfl

theorem running_cons (frame : Frame) (frames : List Frame) :
    running f (frame :: frames) = running f frames + if frame.isCallOf f then 1 else 0 :=
  List.countP_cons

theorem running_of_not_call {frame : Frame} (h : frame.isCallOf f = false)
    (frames : List Frame) : running f (frame :: frames) = running f frames := by
  simp [running_cons, h]

@[simp] theorem started_nil : started f [] = 0 := rfl
@[simp] theorem ended_nil : ended f [] = 0 := rfl

theorem started_cons (e : Event) (history : List Event) :
    started f (e :: history) = started f history + if e.startsCallOf f then 1 else 0 :=
  List.countP_cons

theorem ended_cons (e : Event) (history : List Event) :
    ended f (e :: history) = ended f history + if e.endsCallOf f then 1 else 0 :=
  List.countP_cons

theorem started_append (first second : List Event) :
    started f (first ++ second) = started f first + started f second := List.countP_append

theorem ended_append (first second : List Event) :
    ended f (first ++ second) = ended f first + ended f second := List.countP_append

theorem Expr.running_start (env : Env) (frames : List Frame) (s : Store) (program : Expr) :
    running f (program.start env frames s).frames = running f frames := by
  have hpushes : running f (program.pushes env) = 0 := by cases program <;> rfl
  rw [frames_start, running, List.countP_append]
  exact (congrArg (· + running f frames) hpushes).trans (Nat.zero_add _)

theorem Slot.calls_attempt (slot : Slot) (body : Body) (s : Store) :
    started f (slot.attempt body s) = 0 ∧ ended f (slot.attempt body s) = 0 := by
  obtain ⟨v⟩ := slot
  cases v with
  | function g =>
    simp only [attempt, Store.attempt]
    split <;> exact ⟨rfl, rfl⟩
  | _ => exact ⟨rfl, rfl⟩

theorem Expr.calls_events (env : Env) (s : Store) (program : Expr) :
    started f (program.events env s) = 0 ∧ ended f (program.events env s) = 0 := by
  cases program with
  | bind name param body =>
    simp only [events]
    split
    next slot _ =>
      obtain ⟨hstarted, hended⟩ :=
        Slot.calls_attempt (f := f) slot (.closure env param body) (s.eraseSlot name)
      rw [started_cons, ended_cons, hstarted, hended]
      exact ⟨rfl, rfl⟩
    next => exact ⟨rfl, rfl⟩
  | builtin _ | prelude _ =>
    simp only [events, Store.preludeEvents]
    split <;> exact ⟨rfl, rfl⟩
  | _ => exact ⟨rfl, rfl⟩

theorem Body.calls_events (argument : Value) (s : Store) (body : Body) :
    started f (body.events argument s) = 0 ∧ ended f (body.events argument s) = 0 := by
  rcases body with _ | _ | (_ | _ | _ | _) | _ <;> exact ⟨rfl, rfl⟩

theorem Frame.running_resume (v : Value) (frames : List Frame) (s : Store) (frame : Frame) :
    running f (frame.resume v frames s).frames + ended f (frame.events v s) =
      running f (frame :: frames) + started f (frame.events v s) := by
  cases frame with
  | argument function =>
    cases function with
    | function g =>
      obtain ⟨hstarted, hended⟩ := Body.calls_events (f := f) v s (s.cell g).active
      have hframes : (Frame.resume v frames s (.argument (.function g))).frames =
          .leave g :: frames := Body.frames_start v _ _ _
      have hargument : running f (.argument (.function g) :: frames) = running f frames :=
        running_of_not_call rfl frames
      rw [hframes, hargument, running_cons]
      simp only [events]
      rw [started_cons, ended_cons, hstarted, hended]
      simp [isCallOf, Event.startsCallOf, Event.endsCallOf]
    | _ => rfl
  | leave g =>
    rw [running_cons]
    simp only [resume, events, started_cons, ended_cons]
    simp [isCallOf, Event.startsCallOf, Event.endsCallOf]
  | rebind body =>
    obtain ⟨hstarted, hended⟩ := Slot.calls_attempt (f := f) ⟨v⟩ body s
    simp only [events]
    rw [hstarted, hended]
    rfl
  | iterate count _ _ _ => cases count <;> rfl
  | ifThenElse _ _ _ =>
    simp only [resume]
    split <;> rfl
  | _ => rfl

theorem Config.running_step {c next : Config} (h : c.step = .inr next) (f : FunctionId) :
    running f next.frames + ended f c.events = running f c.frames + started f c.events := by
  obtain ⟨control, frames, s⟩ := c
  rcases control with ⟨env, program⟩ | e | v
  · cases h
    obtain ⟨hstarted, hended⟩ := Expr.calls_events (f := f) env s program
    simp only [events]
    rw [hstarted, hended]
    exact Expr.running_start env frames s program
  · rcases frames with _ | ⟨frame, frames⟩
    · cases h
    · cases h
      cases frame with
      | leave g =>
        simp only [events, Frame.unwind, running_cons, started_cons, ended_cons]
        simp [Frame.isCallOf, Event.startsCallOf, Event.endsCallOf]
      | _ => rfl
  · rcases frames with _ | ⟨frame, frames⟩
    · cases h
    · cases h
      exact Frame.running_resume v frames s frame

theorem Point.running_next (p : Point) (f : FunctionId) :
    running f p.next.frames + ended f p.events = running f p.frames + started f p.events := by
  cases p with
  | idle session pending => cases pending <;> rfl
  | busy kept request c pending =>
    cases h : c.step with
    | inr c' =>
      simp only [next, h]
      exact Config.running_step h f
    | inl result =>
      obtain rfl := Config.eq_of_done h
      obtain ⟨e | v, s⟩ := result <;> rfl

theorem Store.counter_apply {s : Store} {e : Event} (h : e.Possible s) (f : FunctionId) :
    ((e.apply s).cell f).callsInFlight + UInt64.ofNat (ended f [e]) =
      (s.cell f).callsInFlight + UInt64.ofNat (started f [e]) := by
  rw [cell_apply h]
  cases e with
  | created g origin body =>
    by_cases hf : f = g
    · subst hf
      simp only [Event.onCell, ↓reduceIte, cell_of_created h]
      rfl
    · simp only [Event.onCell, if_neg hf]
      rfl
  | bound g body =>
    simp only [Event.onCell]
    split <;> rfl
  | called g =>
    by_cases hf : f = g
    · subst hf
      simp [Event.onCell, Cell.enter, started, ended, Event.startsCallOf, Event.endsCallOf]
    · have hne : (g == f) = false := by simpa using Ne.symm hf
      simp [Event.onCell, started, ended, Event.startsCallOf, Event.endsCallOf, hf, hne]
  | returned g =>
    by_cases hf : f = g
    · subst hf
      simp [Event.onCell, Cell.leave, started, ended, Event.startsCallOf, Event.endsCallOf]
    · have hne : (g == f) = false := by simpa using Ne.symm hf
      simp [Event.onCell, started, ended, Event.startsCallOf, Event.endsCallOf, hf, hne]
  | taken _ _ | refused _ _ _ | preludeBuilt => rfl

theorem Store.counter_after {s : Store} {history : List Event} (h : s.Allows history)
    (f : FunctionId) :
    ((s.after history).cell f).callsInFlight + UInt64.ofNat (ended f history) =
      (s.cell f).callsInFlight + UInt64.ofNat (started f history) := by
  induction history generalizing s with
  | nil => rfl
  | cons e rest ih =>
    have hrest := ih h.2
    have hfirst := counter_apply h.1 f
    have hstarted : started f (e :: rest) = started f [e] + started f rest :=
      started_append [e] rest
    have hended : ended f (e :: rest) = ended f [e] + ended f rest := ended_append [e] rest
    rw [after_cons, hstarted, hended, UInt64.ofNat_add, UInt64.ofNat_add, ← UInt64.add_assoc,
      ← UInt64.add_assoc, ← hfirst, UInt64.add_assoc _ _ (UInt64.ofNat (started f rest)),
      UInt64.add_comm (UInt64.ofNat (ended f [e])), ← UInt64.add_assoc, ← hrest,
      UInt64.add_assoc, UInt64.add_assoc, UInt64.add_comm (UInt64.ofNat (ended f [e]))]

theorem Store.counter_initial (f : FunctionId) : (initial.cell f).callsInFlight = 0 := by
  rcases f with _ | _ | _ | _ | f <;> rfl

namespace Session

variable {requests : List Request}

/-- A call that has started either has ended or is a frame. -/
theorem running_point (requests : List Request) (k : Nat) (f : FunctionId) :
    running f (point requests k).frames + ended f (history requests k) =
      started f (history requests k) := by
  induction k with
  | zero => rfl
  | succ k ih =>
    have hnext := Point.running_next (point requests k) f
    rw [point_succ, history, started_append, ended_append]
    omega

/-- The counter of a function, up to wrapping around. -/
theorem counter_point (requests : List Request) (k : Nat) (f : FunctionId) :
    ((point requests k).store.cell f).callsInFlight =
      UInt64.ofNat (running f (point requests k).frames) := by
  have hcounter := Store.counter_after (allows_history requests k) f
  rw [← store_point, Store.counter_initial, UInt64.zero_add, ← running_point requests k f,
    UInt64.ofNat_add] at hcounter
  exact (UInt64.add_left_inj _).mp hcounter

theorem counter_toNat {k : Nat} {f : FunctionId}
    (h : running f (point requests k).frames < UInt64.size) :
    ((point requests k).store.cell f).callsInFlight.toNat =
      running f (point requests k).frames := by
  rw [counter_point]
  exact UInt64.toNat_ofNat_of_lt' h

theorem counter_idle {k : Nat} {session : Session} {pending : List Request}
    (h : point requests k = .idle session pending) (f : FunctionId) :
    (session.store.cell f).callsInFlight = 0 := by
  have hcounter := counter_point requests k f
  rw [h] at hcounter
  exact hcounter

theorem point_of_run {k fuel : Nat} {kept env : Env} {request : Request} {program : Expr}
    {frames : List Frame} {s s' : Store} {pending : List Request} {outcome : Outcome Value}
    (hpoint : point requests k = .busy kept request ⟨.eval env program, frames, s⟩ pending)
    (hrun : (Config.begin env program s).run fuel = some (outcome, s')) :
    ∃ j ≥ k, point requests j = .busy kept request ⟨.give outcome, frames, s'⟩ pending := by
  obtain ⟨n, hn⟩ := Point.next_of_run hrun frames kept request pending
  refine ⟨k + n, by omega, ?_⟩
  rw [point_add, hpoint]
  exact hn

/-- The frames outside of an evaluation are the same before and after, so the counters are. -/
theorem counter_of_run {k fuel : Nat} {kept env : Env} {request : Request} {program : Expr}
    {frames : List Frame} {s s' : Store} {pending : List Request} {outcome : Outcome Value}
    (hpoint : point requests k = .busy kept request ⟨.eval env program, frames, s⟩ pending)
    (hrun : (Config.begin env program s).run fuel = some (outcome, s')) (f : FunctionId) :
    (s'.cell f).callsInFlight = (s.cell f).callsInFlight := by
  obtain ⟨j, -, hj⟩ := point_of_run hpoint hrun
  have hbefore := counter_point requests k f
  have hafter := counter_point requests j f
  rw [hpoint] at hbefore
  rw [hj] at hafter
  exact hafter.trans hbefore.symm

theorem counter_of_refused {k n : Nat} {f : FunctionId} {body : Body}
    (h : .refused f body (.callsInFlight n) ∈ (point requests k).events) :
    ((point requests k).store.cell f).callsInFlight.toNat = n ∧ 1 ≤ n := by
  have hrefused := (Point.attempts_of_refused h).2
  simp only [Cell.rebind] at hrefused
  split at hrefused
  next hpos =>
    cases hrefused
    exact ⟨rfl, UInt64.lt_iff_toNat_lt.mp hpos⟩
  next =>
    split at hrefused <;> cases hrefused

theorem counter_askAll {fuel : Nat} {replies : List Reply} {final : Session}
    (h : initial.askAll fuel requests = some (replies, final)) (f : FunctionId) :
    (final.store.cell f).callsInFlight = 0 := by
  obtain ⟨⟨k, hk⟩, -⟩ := Point.next_of_askAll h
  exact counter_idle hk f

/-- The counter of a function is the number of its running calls at every point of a session.
The bound of 64 bits is asked for where a counter is read as a number, and nowhere else. -/
theorem counters_count_running_calls (requests : List Request) (k : Nat) :
    (∀ f, running f (point requests k).frames =
        started f (history requests k) - ended f (history requests k) ∧
      ended f (history requests k) ≤ started f (history requests k)) ∧
    (∀ f, running f (point requests k).frames < UInt64.size →
      ((point requests k).store.cell f).callsInFlight.toNat =
        running f (point requests k).frames) ∧
    (∀ kept request env program frames s pending fuel outcome s',
      point requests k = .busy kept request ⟨.eval env program, frames, s⟩ pending →
      (Config.begin env program s).run fuel = some (outcome, s') →
      (∃ j ≥ k, point requests j = .busy kept request ⟨.give outcome, frames, s'⟩ pending) ∧
      (∀ f < s.cells.size, (s'.cell f).callsInFlight = (s.cell f).callsInFlight) ∧
      (∀ f, s.cells.size ≤ f → (s'.cell f).callsInFlight = 0)) ∧
    (∀ session pending, point requests k = .idle session pending →
      ∀ f, (session.store.cell f).callsInFlight = 0) ∧
    (∀ fuel replies final, initial.askAll fuel requests = some (replies, final) →
      ∀ f, (final.store.cell f).callsInFlight = 0) ∧
    (∀ n, (point requests k).Fails (.rebindDuringCall n) →
      ∃ i < k, ∃ f body, (point requests i).Attempts f body ∧
        (∀ m, i < m → m ≤ k → (point requests m).Fails (.rebindDuringCall n)) ∧
        1 ≤ n ∧ (running f (point requests i).frames < UInt64.size →
          n = running f (point requests i).frames)) := by
  refine ⟨fun f => ?_, fun f hbound => counter_toNat hbound, ?_,
    fun session pending h f => counter_idle h f,
    fun fuel replies final h f => counter_askAll h f, fun n hfails => ?_⟩
  · have hcalls := running_point requests k f
    omega
  · intro kept request env program frames s pending fuel outcome s' hpoint hrun
    have hcounter := counter_of_run hpoint hrun
    refine ⟨point_of_run hpoint hrun, fun f _ => hcounter f, fun f hf => ?_⟩
    rw [hcounter f, Store.cell_of_size_le s f hf]
    rfl
  · obtain ⟨i, hi, hraises, hsince⟩ := raises_of_fails hfails
    have hevent : ∃ f body, .refused f body (.callsInFlight n) ∈ (point requests i).events :=
      Point.refused_of_raises hraises
    obtain ⟨f, body, hrefused⟩ := hevent
    have hattempts := (Point.attempts_of_refused hrefused).1
    obtain ⟨hcounter, hpos⟩ := counter_of_refused hrefused
    refine ⟨i, hi, f, body, hattempts, hsince, hpos, fun hbound => ?_⟩
    rw [← hcounter]
    exact counter_toNat hbound

/-- Declares a function that rebinds itself when it is called, and calls it. -/
def selfRebinding : Request where
  question := .view
  program := .letIn "f" (.declare "s")
    (.andThen (.bind "s" "x" (.rebind (.var "f") "y" .null)) (.call (.var "f") .null))
  keepAs := none

theorem counters_count_running_calls_selfRebinding :
    ((point [selfRebinding] 14).store.cell 4).callsInFlight.toNat = 1 ∧
    (∃ i < 15, ∃ f body, (point [selfRebinding] i).Attempts f body ∧
      (running f (point [selfRebinding] i).frames < UInt64.size →
        1 = running f (point [selfRebinding] i).frames)) ∧
    (∃ outcome s', (Config.begin [] selfRebinding.program .initial).run 16 = some (outcome, s') ∧
      ∀ f, 4 ≤ f → (s'.cell f).callsInFlight = 0) ∧
    ∃ final, point [selfRebinding] 17 = .idle final [] ∧
      ∀ f, (final.store.cell f).callsInFlight = 0 := by
  obtain ⟨-, hcall, -⟩ := counters_count_running_calls [selfRebinding] 14
  obtain ⟨-, -, -, -, -, herror⟩ := counters_count_running_calls [selfRebinding] 15
  obtain ⟨-, -, hrun, -⟩ := counters_count_running_calls [selfRebinding] 1
  obtain ⟨-, -, -, hidle, -⟩ := counters_count_running_calls [selfRebinding] 17
  refine ⟨hcall 4 (by decide), ?_, ⟨_, _, rfl, ?_⟩, ⟨_, rfl, hidle _ _ rfl⟩⟩
  · obtain ⟨i, hi, f, body, hattempts, -, -, hcount⟩ := herror 1 ⟨_, rfl, rfl⟩
    exact ⟨i, hi, f, body, hattempts, hcount⟩
  · obtain ⟨-, -, hnew⟩ := hrun _ _ _ _ _ _ _ 16 _ _ rfl rfl
    exact hnew

end Session

end RuntimeValues

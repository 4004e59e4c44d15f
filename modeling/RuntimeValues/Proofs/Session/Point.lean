import RuntimeValues.Program.Session
import RuntimeValues.Proofs.Evaluation
import RuntimeValues.Proofs.Event.Possible
import Mathlib.Logic.Function.Iterate
import Mathlib.Data.Nat.Init

/-!
# The run of a session

A session passes through points. It rests between two requests, and while a request is
answered every configuration of the machine is a point of its own. `Session.point` numbers
the points from 0 and `Session.history` collects the events before each. A request that never
ends keeps the session busy for ever, so statements about all points need no termination.
A session that has answered all requests stays where it is.
-/

namespace RuntimeValues

set_option autoImplicit false

/-- A point of the run of a session, with the requests still to come. -/
inductive Point where
  | idle (session : Session) (pending : List Request)
  /-- The request is being answered. The names are those kept by earlier requests. -/
  | busy (kept : Env) (request : Request) (config : Config) (pending : List Request)

namespace Point

def store : Point → Store
  | idle session _ => session.store
  | busy _ _ c _ => c.store

def frames : Point → List Frame
  | idle _ _ => []
  | busy _ _ c _ => c.frames

/-- The events between this point and the next one. -/
def events : Point → List Event
  | idle _ _ => []
  | busy _ _ c _ => c.events

def next : Point → Point
  | idle session [] => .idle session []
  | idle session (request :: pending) =>
    .busy session.env request (.begin session.env request.program session.store) pending
  | busy kept request c pending =>
    match c.step with
    | .inr c' => .busy kept request c' pending
    | .inl (outcome, s) => .idle ⟨Session.keep kept request.keepAs outcome, s⟩ pending

end Point

namespace Session

/-- The points of the session that answers these requests. -/
def point (requests : List Request) (k : Nat) : Point :=
  Point.next^[k] (.idle .initial requests)

/-- The events of the session before a point. -/
def history (requests : List Request) : Nat → List Event
  | 0 => []
  | k + 1 => history requests k ++ (point requests k).events

@[simp] theorem point_zero (requests : List Request) :
    point requests 0 = .idle .initial requests := rfl

theorem point_succ (requests : List Request) (k : Nat) :
    point requests (k + 1) = (point requests k).next :=
  Function.iterate_succ_apply' Point.next k _

theorem point_add (requests : List Request) (j k : Nat) :
    point requests (k + j) = Point.next^[j] (point requests k) := by
  rw [Nat.add_comm]
  exact Function.iterate_add_apply Point.next j k _

end Session

namespace Point

theorem store_next (p : Point) : p.next.store = p.store.after p.events := by
  cases p with
  | idle session pending => cases pending <;> rfl
  | busy kept request c pending =>
    cases h : c.step with
    | inr c' =>
      simp only [next, h]
      exact Config.store_step h
    | inl result =>
      obtain rfl := Config.eq_of_done h
      obtain ⟨e | v, s⟩ := result <;> rfl

/-- A frame was there before, or a program or a frame has added it. -/
theorem mem_frames_next {p : Point} {frame : Frame} (h : frame ∈ p.next.frames) :
    frame ∈ p.frames ∨ (∃ env program, frame ∈ Expr.pushes env program) ∨
      ∃ v top, frame ∈ Frame.pushes v top := by
  cases p with
  | idle session pending => cases pending <;> cases h
  | busy kept request c pending =>
    cases hstep : c.step with
    | inr c' =>
      simp only [next, hstep] at h
      exact Config.mem_frames_step hstep h
    | inl result =>
      simp only [next, hstep] at h
      cases h

def Within (scope : Scope) : Point → Prop
  | idle session pending =>
    Env.Within scope session.env ∧ session.store.Within scope ∧
      ∀ request ∈ pending, request.program.Within scope
  | busy kept _ c pending =>
    Env.Within scope kept ∧ c.Within scope ∧ ∀ request ∈ pending, request.program.Within scope

theorem Within.mono {a b : Scope} (h : a.Le b) {p : Point} (hp : p.Within a) : p.Within b := by
  cases p with
  | idle session pending =>
    exact ⟨hp.1.mono h, hp.2.1.mono h, fun request hrequest => (hp.2.2 request hrequest).mono h⟩
  | busy kept request c pending =>
    exact ⟨hp.1.mono h, hp.2.1.mono h, fun request hrequest => (hp.2.2 request hrequest).mono h⟩

/-- The next point stays within every scope that holds the built-in functions and what is made
on the way to it. -/
theorem Within.next {scope : Scope} {p : Point} (hp : p.Within scope)
    (hbuiltin : ∀ b : Builtin, scope.functions b.id)
    (hnew : ∀ f origin body, .created f origin body ∈ p.events → scope.functions f) :
    p.next.Within scope := by
  cases p with
  | idle session pending =>
    cases pending with
    | nil => exact hp
    | cons request pending =>
      obtain ⟨henv, hstore, hpending⟩ := hp
      obtain ⟨hprogram, hrest⟩ := List.forall_mem_cons.mp hpending
      exact ⟨henv, ⟨⟨henv, hprogram⟩, by simp [Config.begin], hstore⟩, hrest⟩
  | busy kept request c pending =>
    obtain ⟨hkept, hc, hpending⟩ := hp
    cases h : c.step with
    | inr c' =>
      simp only [Point.next, h]
      exact ⟨hkept, Config.within_step hc hbuiltin hnew h, hpending⟩
    | inl result =>
      obtain rfl := Config.eq_of_done h
      refine ⟨?_, hc.store, hpending⟩
      obtain ⟨outcome, s⟩ := result
      cases request.keepAs with
      | none => exact hkept
      | some name =>
        cases outcome with
        | ok v => exact Env.within_cons hc.control hkept
        | error e => exact hkept

structure WellScoped (forms : Expr → Prop) (p : Point) : Prop where
  within : p.Within (p.store.scope forms)
  builtins : ∀ b : Builtin, b.id < p.store.cells.size

theorem WellScoped.config {forms : Expr → Prop} {kept : Env} {request : Request} {c : Config}
    {pending : List Request} (hp : (busy kept request c pending).WellScoped forms) :
    c.WellScoped forms := ⟨hp.within.2.1, hp.builtins⟩

theorem WellScoped.allows_events {forms : Expr → Prop} {p : Point} (hp : p.WellScoped forms) :
    p.store.Allows p.events := by
  cases p with
  | idle session pending => trivial
  | busy kept request c pending => exact Config.allows_events hp.config

/-- Evaluation makes no identity dangle. -/
theorem WellScoped.next {forms : Expr → Prop} {p : Point} (hp : p.WellScoped forms) :
    p.next.WellScoped forms := by
  have hsize : p.store.cells.size ≤ p.next.store.cells.size := by
    rw [store_next]
    exact Store.size_le_after p.store p.events
  have hle : (p.store.scope forms).Le (p.next.store.scope forms) :=
    ⟨fun f hf => Nat.lt_of_lt_of_le hf hsize, fun e he => he⟩
  have hbuiltins : ∀ b : Builtin, b.id < p.next.store.cells.size :=
    fun b => Nat.lt_of_lt_of_le (hp.builtins b) hsize
  refine ⟨(hp.within.mono hle).next hbuiltins ?_, hbuiltins⟩
  intro f origin body hcreated
  have hlt := Store.created_lt hp.allows_events hcreated
  rw [← store_next] at hlt
  exact hlt

end Point

namespace Session

/-- Whether all programs of the session have forms that are allowed. -/
def Uses (forms : Expr → Prop) (requests : List Request) : Prop :=
  ∀ request ∈ requests, request.program.Within ⟨fun _ => True, forms⟩

end Session

/-- Programs mention functions by no identity. -/
theorem Expr.Within.congr {a b : Scope} {e : Expr} (he : e.Within a) (h : a.forms = b.forms) :
    e.Within b := by
  induction e <;> simp only [Expr.Within, h] at he ⊢ <;> simp_all

/-- All programs use some form. -/
theorem Session.uses_any (requests : List Request) : Uses (fun _ => True) requests :=
  fun request _ => request.program.within_of_forms fun _ => trivial

namespace Session

variable {forms : Expr → Prop} {requests : List Request}

theorem store_of_busy {k : Nat} {kept : Env} {request : Request} {c : Config}
    {pending : List Request} (h : point requests k = .busy kept request c pending) :
    (point requests k).store = c.store := by
  rw [h]
  rfl

theorem wellScoped_point (h : Uses forms requests) (k : Nat) :
    (point requests k).WellScoped forms := by
  induction k with
  | zero =>
    exact ⟨⟨by simp [Env.Within, initial], Store.within_initial _,
      fun r hr => (h r hr).congr rfl⟩, Store.id_lt_size_initial⟩
  | succ k ih =>
    rw [point_succ]
    exact ih.next

theorem allows_events_point (requests : List Request) (k : Nat) :
    (point requests k).store.Allows (point requests k).events :=
  (wellScoped_point (uses_any requests) k).allows_events

/-- The store is what the history made of the initial one. -/
theorem store_point (requests : List Request) (k : Nat) :
    (point requests k).store = Store.initial.after (history requests k) := by
  induction k with
  | zero => rfl
  | succ k ih => rw [point_succ, Point.store_next, ih, history, Store.after_append]

theorem allows_history (requests : List Request) (k : Nat) :
    Store.initial.Allows (history requests k) := by
  induction k with
  | zero => trivial
  | succ k ih =>
    refine Store.allows_append ih ?_
    rw [← store_point]
    exact allows_events_point requests k

/-- A session starts with the prelude built. -/
theorem preludeBuilt_point (requests : List Request) (k : Nat) :
    (point requests k).store.preludeBuilt = true := by
  rw [store_point]
  exact Store.preludeBuilt_after rfl (allows_history requests k)

theorem preludeBuilt_not_mem_events (requests : List Request) (k : Nat) :
    .preludeBuilt ∉ (point requests k).events :=
  Store.preludeBuilt_not_mem (preludeBuilt_point requests k) (allows_events_point requests k)

/-- The events of a stretch of the run are possible where it starts and lead to where it ends. -/
theorem history_between (requests : List Request) {i j : Nat} (h : i ≤ j) :
    ∃ later, history requests j = history requests i ++ later ∧
      (point requests i).store.Allows later ∧
      (point requests j).store = (point requests i).store.after later := by
  induction j, h using Nat.le_induction with
  | base => exact ⟨[], by simp, trivial, rfl⟩
  | succ j _ ih =>
    obtain ⟨later, hhistory, hallows, hstore⟩ := ih
    refine ⟨later ++ (point requests j).events, ?_, ?_, ?_⟩
    · rw [history, hhistory, List.append_assoc]
    · refine Store.allows_append hallows ?_
      rw [← hstore]
      exact allows_events_point requests j
    · rw [point_succ, Point.store_next, hstore, Store.after_append]

theorem mem_history {e : Event} {k : Nat} :
    e ∈ history requests k ↔ ∃ i < k, e ∈ (point requests i).events := by
  induction k with
  | zero => simp [history]
  | succ k ih =>
    rw [history, List.mem_append, ih]
    constructor
    · rintro (⟨i, hi, he⟩ | he)
      · exact ⟨i, by omega, he⟩
      · exact ⟨k, by omega, he⟩
    · rintro ⟨i, hi, he⟩
      rcases Nat.lt_succ_iff_lt_or_eq.mp hi with hlt | rfl
      · exact .inl ⟨i, hlt, he⟩
      · exact .inr he

end Session

namespace Point

/-- An evaluation that ends is a stretch of the run, whatever frames are outside of it. -/
theorem next_of_run {fuel : Nat} {c : Config} {outcome : Outcome Value} {s : Store}
    (h : c.run fuel = some (outcome, s)) (outer : List Frame) (kept : Env) (request : Request)
    (pending : List Request) :
    ∃ n, Point.next^[n] (.busy kept request (c.inside outer) pending) =
      .busy kept request ⟨.give outcome, outer, s⟩ pending := by
  induction fuel generalizing c with
  | zero => cases h
  | succ fuel ih =>
    simp only [Config.run] at h
    split at h
    next result hdone =>
      obtain rfl := Option.some.inj h
      obtain rfl := Config.eq_of_done hdone
      exact ⟨0, rfl⟩
    next c' hstep =>
      obtain ⟨n, hn⟩ := ih h
      refine ⟨n + 1, ?_⟩
      rw [Function.iterate_succ_apply, ← hn]
      simp only [next, Config.step_inside hstep outer]

/-- A request is answered from the last configuration of its evaluation. -/
theorem next_of_ask {fuel : Nat} {session after : Session} {request : Request} {reply : Reply}
    (h : session.ask fuel request = some (reply, after)) (pending : List Request) :
    ∃ n outcome,
      Point.next^[n] (.idle session (request :: pending)) =
        .busy session.env request ⟨.give outcome, [], after.store⟩ pending ∧
      Point.next^[n + 1] (.idle session (request :: pending)) = .idle after pending ∧
      reply.answer = outcome.bind (request.question.answer after.store) ∧
      reply.log =
        (after.store.log.extract session.store.log.size after.store.log.size).toList := by
  simp only [Session.ask, Option.bind_eq_bind, Option.bind_eq_some_iff, Option.pure_def,
    Option.some.injEq, Prod.mk.injEq] at h
  obtain ⟨⟨outcome, s⟩, hrun, rfl, rfl⟩ := h
  obtain ⟨n, hn⟩ := next_of_run hrun [] session.env request pending
  have hlast : Point.next^[n + 1] (.idle session (request :: pending)) =
      .busy session.env request ⟨.give outcome, [], s⟩ pending := by
    rw [Function.iterate_succ_apply, ← hn]
    rfl
  refine ⟨n + 1, outcome, hlast, ?_, rfl, rfl⟩
  rw [Function.iterate_succ_apply', hlast]
  cases outcome <;> rfl

/-- Answering all requests is a stretch of the run, and every reply has its place in it. -/
theorem next_of_askAll {fuel : Nat} {session final : Session} {requests : List Request}
    {replies : List Reply} (h : session.askAll fuel requests = some (replies, final)) :
    (∃ n, Point.next^[n] (.idle session requests) = .idle final []) ∧
    ∀ reply ∈ replies, ∃ n kept request outcome s pending,
      Point.next^[n] (.idle session requests) = .busy kept request ⟨.give outcome, [], s⟩ pending ∧
      reply.answer = outcome.bind (request.question.answer s) ∧
      ∃ start, reply.log = (s.log.extract start s.log.size).toList := by
  induction requests generalizing session replies with
  | nil =>
    obtain ⟨rfl, rfl⟩ := Prod.mk.inj (Option.some.inj h)
    exact ⟨⟨0, rfl⟩, by simp⟩
  | cons request rest ih =>
    simp only [Session.askAll, Option.bind_eq_bind, Option.bind_eq_some_iff, Option.pure_def,
      Option.some.injEq, Prod.mk.injEq] at h
    obtain ⟨⟨reply, after⟩, hask, ⟨others, final'⟩, hrest, rfl, rfl⟩ := h
    obtain ⟨n, outcome, hlast, hidle, hanswer, hlog⟩ := next_of_ask hask rest
    obtain ⟨⟨m, hm⟩, hothers⟩ := ih hrest
    refine ⟨⟨m + (n + 1), ?_⟩, fun r hr => ?_⟩
    · rw [Function.iterate_add_apply, hidle, hm]
    · rcases List.mem_cons.mp hr with rfl | hr
      · exact ⟨n, _, _, outcome, _, _, hlast, hanswer, _, hlog⟩
      · obtain ⟨k, kept, request', outcome', s, pending, hk, hreply⟩ := hothers r hr
        refine ⟨k + (n + 1), kept, request', outcome', s, pending, ?_, hreply⟩
        rw [Function.iterate_add_apply, hidle, hk]

end Point

/-- What ends on its own ends in the middle of a session too, and the frames around it get its
outcome. -/
theorem Session.point_of_inside {requests : List Request} {k : Nat} {c : Config} {kept : Env}
    {request : Request} {outer : List Frame} {t : Store} {pending : List Request}
    {outcome : Outcome Value} (h : point requests k = .busy kept request (c.inside outer) pending)
    (hends : c.Ends (outcome, t)) :
    ∃ n, point requests (k + n) = .busy kept request ⟨.give outcome, outer, t⟩ pending := by
  obtain ⟨fuel, hrun⟩ := hends
  obtain ⟨n, hn⟩ := Point.next_of_run hrun outer kept request pending
  refine ⟨n, ?_⟩
  rw [point_add, h]
  exact hn

end RuntimeValues

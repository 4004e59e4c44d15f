import RuntimeValues.Proofs.Session.Slots
import Mathlib.Data.List.Forall2

/-!
# The log and the attempts

The log of a session is the list of its attempts to give functions a body. Each attempt writes
one line, which says what came of it, and nothing else writes any; the lines stand in the order
of the attempts and none is ever taken back, also if the error of the attempt is caught. The
lines of success are as many as the functions that have been given a body, be they made in the
session or functions of the prelude, because a function is given one at most once and never
loses it.
-/

namespace RuntimeValues

set_option autoImplicit false

/-- The next step is an attempt to give a function a body: the slot that is bound is there,
what is rebound is a function, or the function is a recursive one that is being made. -/
def Config.tries : Config → Bool
  | ⟨.eval _ (.bind name _ _), _, s⟩ => (s.slot? name).isSome
  | ⟨.eval _ (.recursive _ _ _), _, _⟩ => true
  | ⟨.give (.ok (.function _)), .rebind _ :: _, _⟩ => true
  | _ => false

/-- The next step is to bind a slot that is not there, or to rebind what is no function. -/
def Config.Misses : Config → Prop
  | ⟨.eval _ (.bind name _ _), _, s⟩ => s.slot? name = none
  | ⟨.give (.ok v), .rebind _ :: _, _⟩ => ∀ f, v ≠ .function f
  | _ => False

/-- The notice says what came of the attempt. -/
def Notice.Reports : Notice → Outcome Value → Prop
  | bound, outcome => ∃ v, outcome = .ok v
  | rejected reason, outcome => outcome = .error reason.error
  | preludeBuilt _, _ => False

def Notice.isRejected : Notice → Bool
  | rejected _ => true
  | bound | preludeBuilt _ => false

/-- The line of the log that tells of an attempt with this outcome. -/
inductive TellsOf : String → Outcome Value → Prop
  | bound {v : Value} : TellsOf "debug: bound a forward-declared function" (.ok v)
  | duringCall {n : Nat} :
      TellsOf ("error: rebind rejected: " ++ n.repr ++ " call(s) in flight")
        (.error (Fault.rebindDuringCall n).error)
  | alreadyRebound :
      TellsOf "error: rebind rejected: the function is already rebound"
        (.error Fault.alreadyRebound.error)

/-- The line starts with the level. -/
def hasLevel (level line : String) : Bool := (level ++ ": ").toList.isPrefixOf line.toList

theorem Notice.Reports.tellsOf {notice : Notice} {outcome : Outcome Value}
    (h : notice.Reports outcome) : TellsOf notice.line outcome := by
  cases notice with
  | bound =>
    obtain ⟨v, rfl⟩ := h
    exact .bound
  | rejected reason =>
    obtain rfl : outcome = .error reason.error := h
    cases reason with
    | callsInFlight n => exact .duringCall
    | alreadyRebound => exact .alreadyRebound
  | preludeBuilt count => exact h.elim

theorem Notice.hasLevel_error (notice : Notice) :
    hasLevel "error" notice.line = notice.isRejected := by
  rcases notice with _ | (n | _) | n <;> simp [hasLevel, isRejected, List.isPrefixOf]

theorem Notice.hasLevel_debug (notice : Notice) :
    hasLevel "debug" notice.line = !notice.isRejected := by
  rcases notice with _ | (n | _) | n <;> simp [hasLevel, isRejected, List.isPrefixOf]

namespace Point

/-- The log so far, line by line. -/
def lines (p : Point) : List String := p.store.log.toList.map Notice.line

def tries : Point → Bool
  | busy _ _ c _ => c.tries
  | idle _ _ => false

def Misses : Point → Prop
  | busy _ _ c _ => c.Misses
  | idle _ _ => False

/-- An error is about to be handed on. -/
def failed : Point → Bool
  | busy _ _ ⟨.give (.error _), _, _⟩ _ => true
  | _ => false

/-- The notice says what came of the attempt that has just been made. -/
def ReportedBy (notice : Notice) (p : Point) : Prop :=
  ∃ outcome, p.Gives outcome ∧ notice.Reports outcome

/-- The line says what came of the attempt that has just been made. -/
def ToldBy (line : String) (p : Point) : Prop := ∃ outcome, p.Gives outcome ∧ TellsOf line outcome

theorem ReportedBy.failed_iff {p : Point} {notice : Notice} (h : p.ReportedBy notice) :
    p.failed = notice.isRejected := by
  obtain ⟨outcome, hgives, hreports⟩ := h
  cases p with
  | idle session pending => exact hgives.elim
  | busy kept request c pending =>
    obtain ⟨control, frames, s⟩ := c
    obtain rfl : control = .give outcome := hgives
    cases notice with
    | bound =>
      obtain ⟨v, rfl⟩ := hreports
      rfl
    | rejected reason =>
      obtain rfl : outcome = .error reason.error := hreports
      rfl
    | preludeBuilt count => exact hreports.elim

end Point

namespace Session

/-- The points of the session before `k` at which an attempt is made, in their order. -/
def attempts (requests : List Request) (k : Nat) : List Nat :=
  (List.range k).filter fun i => (point requests i).tries

end Session

/-- Every slot belongs to a function. -/
def Store.SlotsHold (s : Store) : Prop := ∀ entry ∈ s.slots, ∃ f, entry.2 = ⟨.function f⟩

theorem Slot.reports_bind (f : FunctionId) (body : Body) (s : Store) :
    ∃ notice : Notice, (Slot.bind ⟨.function f⟩ body s).2.log = s.log.push notice ∧
      notice.Reports ((Slot.bind ⟨.function f⟩ body s).1.map fun _ => .null) := by
  cases h : (s.cell f).rebind body with
  | ok after =>
    rw [bind_of_ok h]
    exact ⟨.bound, rfl, .null, rfl⟩
  | error reason =>
    rw [bind_of_refused h]
    exact ⟨.rejected reason, rfl, rfl⟩

namespace Config

variable {c next : Config}

/-- An attempt writes one notice, which says what came of it. -/
theorem reports_of_tries (h : c.tries = true) (hslots : c.store.SlotsHold)
    (hstep : c.step = .inr next) :
    ∃ (notice : Notice) (outcome : Outcome Value), next.store.log = c.store.log.push notice ∧
      next.control = .give outcome ∧ notice.Reports outcome := by
  obtain ⟨control, frames, s⟩ := c
  rcases control with ⟨env, program⟩ | e | v
  · cases hstep
    cases program with
    | bind name param body =>
      obtain ⟨slot, hslot⟩ := Option.isSome_iff_exists.mp h
      obtain ⟨f, hf⟩ := hslots _ (Store.mem_slots_of_slot? hslot)
      obtain rfl : slot = ⟨.function f⟩ := hf
      obtain ⟨notice, hlog, hreports⟩ :=
        Slot.reports_bind f (.closure env param body) (s.eraseSlot name)
      simp only [Expr.start, hslot]
      exact ⟨notice, _, hlog, rfl, hreports⟩
    | recursive self param body =>
      simp only [Expr.start, Store.makeRecursive_eq]
      exact ⟨.bound, _, rfl, rfl, _, rfl⟩
    | _ => cases h
  · rcases frames with _ | ⟨frame, frames⟩ <;> cases h
  · rcases frames with _ | ⟨frame, frames⟩
    · cases hstep
    · cases hstep
      cases v with
      | function f =>
        cases frame with
        | rebind body =>
          obtain ⟨notice, hlog, hreports⟩ := Slot.reports_bind f body s
          exact ⟨notice, _, hlog, rfl, hreports⟩
        | _ => cases h
      | _ => cases frame <;> cases h

theorem Attempts.tries {f : FunctionId} {body : Body} (h : c.Attempts f body) :
    c.tries = true := by
  cases h with
  | bind hslot => exact Option.isSome_iff_exists.mpr ⟨_, hslot⟩
  | rebind => rfl

/-- What misses a function fails without being an attempt. -/
theorem Misses.step (h : c.Misses) :
    c.tries = false ∧ ∃ next e, c.step = .inr next ∧ next.control = .give (.error e) := by
  obtain ⟨control, frames, s⟩ := c
  rcases control with ⟨env, program⟩ | e | v
  · cases program with
    | bind name param body =>
      have hslot : s.slot? name = none := h
      refine ⟨by simp only [tries, hslot, Option.isSome_none],
        _, ValueError.raised ("no slot " ++ name), rfl, ?_⟩
      simp only [Expr.start, hslot]
    | _ => exact h.elim
  · exact h.elim
  · rcases frames with _ | ⟨frame, frames⟩
    · exact h.elim
    · cases frame with
      | rebind body =>
        cases v with
        | function f => exact absurd rfl (h f)
        | number _ | boolean _ | null | pair _ _ => exact ⟨rfl, _, _, rfl, rfl⟩
      | _ => exact h.elim

/-- Whatever is no attempt writes nothing, if it does not build the prelude. -/
theorem log_of_not_tries (h : c.tries = false) (hbuilt : .preludeBuilt ∉ c.events)
    (hstep : c.step = .inr next) : next.store.log = c.store.log := by
  have hnone : c.events.filterMap Event.notice = [] := by
    refine List.filterMap_eq_nil_iff.mpr fun e he => ?_
    have hquiet : ¬ e.TellsOfAttempt := by
      intro htells
      rcases attempts_of_event he htells with ⟨f, body, hattempts, -⟩ |
        ⟨_, _, _, _, _, _, _, rfl, -⟩
      · cases hattempts with
        | bind hslot => simp [tries, hslot] at h
        | rebind => cases h
      · cases h
    cases e with
    | bound _ _ | refused _ _ _ => exact absurd trivial hquiet
    | preludeBuilt => exact absurd he hbuilt
    | created _ _ _ | taken _ _ | called _ | returned _ => rfl
  rw [store_step hstep, Store.log_after, hnone]
  simp

end Config

theorem Point.Attempts.tries {p : Point} {f : FunctionId} {body : Body} (h : p.Attempts f body) :
    p.tries = true := by
  cases p with
  | idle session pending => exact h.elim
  | busy kept request c pending => exact Config.Attempts.tries h

theorem Point.log_grows_next (p : Point) : p.store.log.toList <+: p.next.store.log.toList := by
  rw [store_next, Store.log_after, Array.toList_append]
  exact List.prefix_append _ _

theorem Point.log_grows_iterate (p : Point) (n : Nat) :
    p.store.log.toList <+: (Point.next^[n] p).store.log.toList := by
  induction n with
  | zero => exact List.prefix_rfl
  | succ n ih =>
    rw [Function.iterate_succ_apply']
    exact ih.trans (log_grows_next _)

namespace Session

variable {requests : List Request} {k : Nat}

theorem slotsHold_point (requests : List Request) (k : Nat) :
    (point requests k).store.SlotsHold := by
  intro entry hentry
  obtain ⟨f, body, -, hslot⟩ := declared_of_slot hentry
  exact ⟨f, hslot⟩

theorem log_of_tries (h : (point requests k).tries = true) :
    ∃ notice, (point requests (k + 1)).ReportedBy notice ∧
      (point requests (k + 1)).store.log = (point requests k).store.log.push notice := by
  have hslots := slotsHold_point requests k
  rw [point_succ]
  generalize point requests k = p at h hslots ⊢
  cases p with
  | idle session pending => cases h
  | busy kept request c pending =>
    cases hstep : c.step with
    | inl result =>
      obtain rfl := Config.eq_of_done hstep
      obtain ⟨e | v, s⟩ := result
      · cases h
      · cases v <;> cases h
    | inr next =>
      obtain ⟨notice, outcome, hlog, hcontrol, hreports⟩ := Config.reports_of_tries h hslots hstep
      have hgives : (Point.busy kept request c pending).next.Gives outcome :=
        (Point.gives_next hstep).mpr hcontrol
      refine ⟨notice, ⟨outcome, hgives, hreports⟩, ?_⟩
      simp only [Point.next, hstep]
      exact hlog

theorem log_of_not_tries (h : (point requests k).tries = false) :
    (point requests (k + 1)).store.log = (point requests k).store.log := by
  have hbuilt := preludeBuilt_not_mem_events requests k
  rw [point_succ]
  generalize point requests k = p at h hbuilt ⊢
  cases p with
  | idle session pending => cases pending <;> rfl
  | busy kept request c pending =>
    cases hstep : c.step with
    | inr next =>
      simp only [Point.next, hstep]
      exact Config.log_of_not_tries h hbuilt hstep
    | inl result =>
      obtain rfl := Config.eq_of_done hstep
      obtain ⟨e | v, s⟩ := result <;> rfl

theorem attempts_succ (requests : List Request) (k : Nat) :
    attempts requests (k + 1) =
      attempts requests k ++ if (point requests k).tries then [k] else [] := by
  simp [attempts, List.range_succ, List.filter_append, List.filter_cons]

/-- The notices are the reports of the attempts, one for each and in their order. -/
theorem reports_point (requests : List Request) (k : Nat) :
    List.Forall₂ (fun i notice => (point requests (i + 1)).ReportedBy notice)
      (attempts requests k) (point requests k).store.log.toList := by
  induction k with
  | zero => exact .nil
  | succ k ih =>
    rw [attempts_succ]
    cases htries : (point requests k).tries with
    | true =>
      obtain ⟨notice, hreported, hlog⟩ := log_of_tries htries
      rw [hlog, Array.toList_push, if_pos rfl]
      exact List.rel_append ih (.cons hreported .nil)
    | false =>
      rw [log_of_not_tries htries, if_neg Bool.false_ne_true, List.append_nil]
      exact ih

/-- The log has one line for each attempt, and the line says what came of it. -/
theorem lines_point (requests : List Request) (k : Nat) :
    List.Forall₂ (fun i line => (point requests (i + 1)).ToldBy line)
      (attempts requests k) (point requests k).lines := by
  refine List.forall₂_map_right_iff.mpr ((reports_point requests k).imp fun i notice => ?_)
  rintro ⟨outcome, hgives, hreports⟩
  exact ⟨outcome, hgives, hreports.tellsOf⟩

/-- As many attempts were refused as the log has lines of errors. -/
theorem countP_error_point (requests : List Request) (k : Nat) :
    (point requests k).lines.countP (hasLevel "error") =
      (attempts requests k).countP fun i => (point requests (i + 1)).failed := by
  have hreports := reports_point requests k
  rw [Point.lines, List.countP_map]
  generalize (point requests k).store.log.toList = notices at hreports ⊢
  generalize attempts requests k = tried at hreports ⊢
  induction hreports with
  | nil => rfl
  | @cons i notice _ _ hreported _ ih =>
    rw [List.countP_cons, List.countP_cons, ih, hreported.failed_iff, Function.comp_apply,
      notice.hasLevel_error]

/-- The lines that tell of a success are those of the level for debugging. -/
theorem countP_debug_point (requests : List Request) (k : Nat) :
    (point requests k).lines.countP (hasLevel "debug") =
      (point requests k).store.log.toList.count .bound := by
  have hreports := reports_point requests k
  rw [Point.lines, List.countP_map]
  generalize (point requests k).store.log.toList = notices at hreports ⊢
  generalize attempts requests k = tried at hreports
  induction hreports with
  | nil => rfl
  | @cons i notice _ _ hreported _ ih =>
    rw [List.countP_cons, List.count_cons, ih, Function.comp_apply, notice.hasLevel_debug]
    cases notice with
    | bound | rejected _ => rfl
    | preludeBuilt _ =>
      obtain ⟨_, -, hreports⟩ := hreported
      exact hreports.elim

end Session

/-- The functions that have been given a body, in the order of their identities. -/
def Store.reboundFunctions (s : Store) : List FunctionId :=
  (List.range s.cells.size).filter fun f => (s.cell f).isRebound

namespace Store

variable {s : Store} {f : FunctionId}

theorem mem_reboundFunctions : f ∈ s.reboundFunctions ↔ (s.cell f).isRebound = true := by
  simp only [reboundFunctions, List.mem_filter, List.mem_range, and_iff_right_iff_imp]
  intro hrebound
  by_contra hsize
  rw [cell_of_size_le s f (Nat.le_of_not_lt hsize)] at hrebound
  cases hrebound

theorem nodup_reboundFunctions (s : Store) : s.reboundFunctions.Nodup :=
  List.nodup_range.filter _

/-- One event adds as many notices of success as functions that have been given a body. -/
theorem count_bound_apply {e : Event} (h : e.Possible s)
    (hs : s.log.toList.count .bound = s.reboundFunctions.length) :
    (e.apply s).log.toList.count .bound = (e.apply s).reboundFunctions.length := by
  have hlog : (e.apply s).log = s.log ++ ([e].filterMap Event.notice).toArray :=
    log_after s [e]
  by_cases hbound : ∃ f body, e = .bound f body
  · obtain ⟨f, body, rfl⟩ := hbound
    have hnew : f ∉ s.reboundFunctions := by
      rw [mem_reboundFunctions, Cell.isRebound, h.2.2]
      exact Bool.false_ne_true
    have hperm : (Event.apply s (.bound f body)).reboundFunctions.Perm
        (f :: s.reboundFunctions) := by
      refine (List.perm_ext_iff_of_nodup (nodup_reboundFunctions _)
        (List.nodup_cons.mpr ⟨hnew, nodup_reboundFunctions s⟩)).mpr fun g => ?_
      rw [List.mem_cons, mem_reboundFunctions, mem_reboundFunctions, cell_apply h]
      by_cases hg : g = f <;> simp [Event.onCell, hg, Cell.isRebound]
    rw [hperm.length_eq, hlog]
    simp [Event.notice, hs]
  · have hnotice : ([e].filterMap Event.notice).count .bound = 0 := by
      cases e with
      | bound f body => exact absurd ⟨f, body, rfl⟩ hbound
      | refused _ _ _ => simp [Event.notice]
      | preludeBuilt => simp [Event.notice]
      | created _ _ _ | taken _ _ | called _ | returned _ => rfl
    have hperm : (e.apply s).reboundFunctions.Perm s.reboundFunctions := by
      refine (List.perm_ext_iff_of_nodup (nodup_reboundFunctions _)
        (nodup_reboundFunctions s)).mpr fun g => ?_
      rw [mem_reboundFunctions, mem_reboundFunctions]
      rcases rebound_apply (f := g) h with hsame | ⟨body, he, -⟩
      · rw [Cell.isRebound, Cell.isRebound, hsame]
      · exact absurd ⟨g, body, he⟩ hbound
    rw [hperm.length_eq, hlog, Array.toList_append, List.count_append, hnotice, hs]
    rfl

end Store

namespace Session

variable {requests : List Request} {k : Nat}

theorem count_bound_point (requests : List Request) (k : Nat) :
    (point requests k).store.log.toList.count .bound =
      (point requests k).store.reboundFunctions.length := by
  rw [store_point]
  exact Store.after_preserves (fun s e hs he => Store.count_bound_apply he hs) rfl
    (allows_history requests k)

/-- The functions that have been given a body are functions of the prelude or were made in the
session. -/
theorem length_reboundFunctions_point (requests : List Request) (k : Nat) :
    (point requests k).store.reboundFunctions.length =
      (Builtin.all.countP fun b => ((point requests k).store.cell b.id).isRebound) +
        (created requests k).countP fun f => ((point requests k).store.cell f).isRebound := by
  rw [Store.reboundFunctions, range_size_point, ← List.countP_eq_length_filter,
    List.countP_append, List.countP_map]
  rfl

end Session

/-- What a reply tells of the log is what was added to it. -/
theorem append_extract_of_grows {before after : Array Notice}
    (h : before.toList <+: after.toList) :
    before.toList ++ (after.extract before.size after.size).toList = after.toList := by
  obtain ⟨added, hadded⟩ := h
  have hlength : before.size + added.length = after.size := by
    rw [← Array.length_toList, ← Array.length_toList, ← hadded, List.length_append]
  rw [Array.toList_extract, ← hadded, List.append_cancel_left_eq]
  simp [List.extract, ← hlength]

/-- The replies tell of all notices, each of them once and in their order. -/
theorem Point.log_of_askAll {fuel : Nat} {session final : Session} {requests : List Request}
    {replies : List Reply} (h : session.askAll fuel requests = some (replies, final)) :
    session.store.log.toList ++ replies.flatMap Reply.log = final.store.log.toList := by
  induction requests generalizing session replies with
  | nil =>
    obtain ⟨rfl, rfl⟩ := Prod.mk.inj (Option.some.inj h)
    exact List.append_nil _
  | cons request rest ih =>
    simp only [Session.askAll, Option.bind_eq_bind, Option.bind_eq_some_iff, Option.pure_def,
      Option.some.injEq, Prod.mk.injEq] at h
    obtain ⟨⟨reply, after⟩, hask, ⟨others, final'⟩, hrest, rfl, rfl⟩ := h
    obtain ⟨n, -, -, hidle, -, hlog⟩ := next_of_ask hask rest
    have hprefix : session.store.log.toList <+: after.store.log.toList := by
      have hiterate := log_grows_iterate (.idle session (request :: rest)) (n + 1)
      rw [hidle] at hiterate
      exact hiterate
    rw [List.flatMap_cons, ← List.append_assoc, hlog, append_extract_of_grows hprefix]
    exact ih hrest

namespace Session

variable {requests : List Request} {k : Nat}

theorem misses_point (h : (point requests k).Misses) :
    (point requests k).tries = false ∧ (point requests (k + 1)).failed = true := by
  rw [point_succ]
  generalize point requests k = p at h ⊢
  cases p with
  | idle session pending => exact h.elim
  | busy kept request c pending =>
    obtain ⟨htries, ⟨control, frames, s⟩, e, hstep, rfl⟩ := Config.Misses.step h
    refine ⟨htries, ?_⟩
    simp only [Point.next, hstep]
    rfl

theorem lines_grow {i j : Nat} (h : i ≤ j) :
    (point requests i).lines <+: (point requests j).lines := by
  rw [← Nat.add_sub_cancel' h, point_add]
  exact (Point.log_grows_iterate _ _).map _

/-- The log of a session tells of its attempts to give functions a body, of each one what came
of it, and of nothing else. Lines stay whatever becomes of an error, and the replies hand them
all on. As many lines tell of success as functions were given a body, functions of the prelude
among them, and as many tell of a refusal as attempts were refused. -/
theorem log_tells_attempts (requests : List Request) :
    (∀ k, List.Forall₂ (fun i line => (point requests (i + 1)).ToldBy line)
      (attempts requests k) (point requests k).lines) ∧
    (∀ k, (point requests k).tries = false →
      (point requests (k + 1)).lines = (point requests k).lines) ∧
    (∀ k, (point requests k).Misses → (point requests (k + 1)).failed = true ∧
      (point requests (k + 1)).lines = (point requests k).lines) ∧
    (∀ i j, i ≤ j → (point requests i).lines <+: (point requests j).lines) ∧
    (∀ k, (point requests k).lines.countP (hasLevel "debug") =
      (Builtin.all.countP fun b => ((point requests k).store.cell b.id).isRebound) +
        (created requests k).countP fun f => ((point requests k).store.cell f).isRebound) ∧
    (∀ k, (point requests k).lines.countP (hasLevel "error") =
      (attempts requests k).countP fun i => (point requests (i + 1)).failed) ∧
    ∀ fuel replies final, initial.askAll fuel requests = some (replies, final) →
      ∃ k, point requests k = .idle final [] ∧
        (replies.flatMap Reply.log).map Notice.line = (point requests k).lines := by
  have hquiet : ∀ k, (point requests k).tries = false →
      (point requests (k + 1)).lines = (point requests k).lines := by
    intro k htries
    rw [Point.lines, log_of_not_tries htries, Point.lines]
  refine ⟨lines_point requests, hquiet, fun k h => ?_, fun i j => lines_grow, fun k => ?_,
    countP_error_point requests, fun fuel replies final h => ?_⟩
  · obtain ⟨htries, hfailed⟩ := misses_point h
    exact ⟨hfailed, hquiet k htries⟩
  · rw [countP_debug_point, count_bound_point, length_reboundFunctions_point]
  · obtain ⟨⟨k, hk⟩, -⟩ := Point.next_of_askAll h
    have hpoint : point requests k = .idle final [] := hk
    refine ⟨k, hpoint, ?_⟩
    rw [hpoint]
    exact congrArg (List.map Notice.line) (Point.log_of_askAll h)

/-- Gives a function a body, tries to give it another one, and tries to give a body to what is
no function. The errors are caught. -/
def repeatedRebinding : Request where
  question := .view
  program := .letIn "f" (.lambda "x" (.var "x"))
    (.andThen (.rebind (.var "f") "x" .null)
      (.andThen (.attempt (.rebind (.var "f") "x" (.var "x")) .null)
        (.attempt (.rebind .null "x" .null) .null)))
  keepAs := none

theorem log_tells_attempts_repeatedRebinding :
    attempts [repeatedRebinding] 24 = [7, 13] ∧
      (point [repeatedRebinding] 24).lines =
        ["debug: bound a forward-declared function",
          "error: rebind rejected: the function is already rebound"] ∧
      (point [repeatedRebinding] 21).failed = true ∧
      (point [repeatedRebinding] 21).lines = (point [repeatedRebinding] 20).lines ∧
      ((created [repeatedRebinding] 24).countP fun f =>
        ((point [repeatedRebinding] 24).store.cell f).isRebound) = 1 ∧
      ((attempts [repeatedRebinding] 24).countP fun i =>
        (point [repeatedRebinding] (i + 1)).failed) = 1 := by
  obtain ⟨-, -, hmisses, -, hdebug, herror, -⟩ := log_tells_attempts [repeatedRebinding]
  have hlines : (point [repeatedRebinding] 24).lines =
      ["debug: bound a forward-declared function",
        "error: rebind rejected: the function is already rebound"] := by rfl
  have hbuiltin : (Builtin.all.countP fun b =>
      ((point [repeatedRebinding] 24).store.cell b.id).isRebound) = 0 := by rfl
  obtain ⟨hfailed, hquiet⟩ := hmisses 20 fun f => Value.noConfusion
  have hone := hdebug 24
  have hother := herror 24
  rw [hlines, hbuiltin, Nat.zero_add] at hone
  rw [hlines] at hother
  exact ⟨by rfl, hlines, hfailed, hquiet, hone.symm, hother.symm⟩

/-- Gives a function of the prelude a body. -/
def preludeRebinding : Request where
  question := .view
  program := .rebind (.prelude "second") "x" .null
  keepAs := none

/-- Functions that were made in the session are not all that a line of success can be about. -/
theorem debug_line_without_created_function :
    (∃ final, point [preludeRebinding] 5 = .idle final []) ∧
      (point [preludeRebinding] 5).lines = ["debug: bound a forward-declared function"] ∧
      (point [preludeRebinding] 5).lines.countP (hasLevel "debug") = 1 ∧
      ((created [preludeRebinding] 5).countP fun f =>
        ((point [preludeRebinding] 5).store.cell f).isRebound) = 0 :=
  ⟨⟨_, rfl⟩, rfl, by decide, rfl⟩

end Session

end RuntimeValues

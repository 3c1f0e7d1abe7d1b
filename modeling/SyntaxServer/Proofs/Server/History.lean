import SyntaxServer.Proofs.Server.Trace
import SyntaxServer.Server.Scripted

/-!
The lifecycle over a history of messages. A session starts with the first request to start it that
is answered with a result, and with nothing else; before that no other handler runs and nothing
else has an effect, and after it no start is accepted (`lifecycle_of_history`). Failed starts
change nothing.
-/

namespace SyntaxServer

variable {σ : Type}

/-- A message of a history: the state it found, and what became of it. -/
structure Event (σ : Type) where
  before : ServerState σ
  message : Message
  outcome : Dispatched σ

namespace Dispatcher

variable {d : Dispatcher σ} {s : ServerState σ} {m : Message}

/-- The history of some messages, dispatched in turn. -/
def history (d : Dispatcher σ) : ServerState σ → List Message → List (Event σ)
  | _, [] => []
  | s, m :: ms => ⟨s, m, d.dispatch s m⟩ :: d.history (d.dispatch s m).state ms

/-- A request to start the session is answered with a result. -/
def Starts (m : Message) (answer : Option Response) : Prop :=
  ∃ r v, m = .request r ∧ isStart r.method = true ∧ answer = some (.success r.id v)

/-! ### One message -/

theorem route_again {method : String} (hs : isStart method = true) :
    d.route .initialized method = .startedBefore := by
  have ho := ordinary_of_isStart hs
  unfold route gate
  rw [ho.not_control]
  dsimp only
  rw [ho.not_exit, if_neg (by simp), if_pos hs]

theorem route_early {method : String} (ho : Ordinary method) (hs : isStart method = false) :
    d.route .uninitialized method = .tooEarly := by
  unfold route gate
  rw [ho.not_control]
  dsimp only
  rw [ho.not_exit, if_neg (by simp), if_neg (by simp [hs])]

theorem response_again {r : Request} (hl : s.lifecycle = .initialized)
    (hs : isStart r.method = true) :
    (d.dispatch s (.request r)).response =
      some (.failure r.id (.withText .invalidRequest "Server is already initialized")) := by
  show (d.follow s r (d.route s.lifecycle r.method)).response = _
  rw [hl, route_again hs]
  rfl

theorem response_early {r : Request} (hl : s.lifecycle = .uninitialized)
    (ho : Ordinary r.method) (hs : isStart r.method = false) :
    (d.dispatch s (.request r)).response = some (.ofCode r.id .serverNotInitialized) := by
  show (d.follow s r (d.route s.lifecycle r.method)).response = _
  rw [hl, route_early ho hs]
  rfl

theorem not_starts_of_initialized (hl : s.lifecycle = .initialized) :
    ¬ Starts m (d.dispatch s m).response := by
  rintro ⟨r, v, rfl, hs, hr⟩
  rw [response_again hl hs] at hr
  cases hr

theorem starts_iff {r : Request} {answer : Option Response} :
    Starts (.request r) answer ↔
      isStart r.method = true ∧ ∃ v, answer = some (.success r.id v) := by
  constructor
  · rintro ⟨r, v, ⟨⟩, hs, hanswer⟩
    exact ⟨hs, v, hanswer⟩
  · rintro ⟨hs, v, hanswer⟩
    exact ⟨r, v, rfl, hs, hanswer⟩

theorem lifecycleAfter_eq_iff (l : Lifecycle) (r : Request) (o : Except ResponseError Json) :
    lifecycleAfter l r.method o = .initialized ↔
      l = .initialized ∨ Starts (.request r) (some ⟨r.id, o⟩) := by
  rw [starts_iff]
  cases hs : isStart r.method with
  | false => simp [lifecycleAfter_of_not_start hs]
  | true =>
    cases o with
    | ok v => exact iff_of_true (by simp [lifecycleAfter, hs]) (Or.inr ⟨rfl, v, rfl⟩)
    | error x =>
      refine (or_iff_left ?_).symm
      rintro ⟨-, v, hanswer⟩
      cases congrArg (Option.map Response.outcome) hanswer

/-- **The lifecycle changes with a start that is answered with a result**, and with nothing
else. -/
theorem lifecycle_dispatch (d : Dispatcher σ) (s : ServerState σ) (m : Message) :
    (d.dispatch s m).state.lifecycle = .initialized ↔
      s.lifecycle = .initialized ∨ Starts m (d.dispatch s m).response := by
  have stays : ∀ {l : Lifecycle}, l = s.lifecycle → ¬ Starts m (d.dispatch s m).response →
      (l = .initialized ↔ s.lifecycle = .initialized ∨ Starts m (d.dispatch s m).response) := by
    intro l hl hn
    rw [hl, or_iff_left hn]
  cases m with
  | notification n =>
    refine stays (heard d s n).lifecycle ?_
    rintro ⟨r, v, hm, -, -⟩
    cases hm
  | response r =>
    refine stays rfl ?_
    rintro ⟨r, v, hm, -, -⟩
    cases hm
  | request r =>
    have hresponse : (d.dispatch s (.request r)).response = (d.request s r).response := rfl
    cases settled d s r with
    | waiting hr hc hl hlimit hh hstuck =>
      refine stays hl ?_
      rintro ⟨r, v, -, -, hanswer⟩
      rw [hresponse, hr] at hanswer
      cases hanswer
    | @answered o hr hc hl =>
      have hlifecycle : (d.dispatch s (.request r)).state.lifecycle =
          lifecycleAfter s.lifecycle r.method o := hl
      rw [hlifecycle, hresponse, hr]
      exact lifecycleAfter_eq_iff ..

theorem invoked_early (hl : s.lifecycle = .uninitialized) :
    ∀ c ∈ d.invoked s m, ∃ r, m = .request r ∧ isStart r.method = true ∧
      c = .request r.method := by
  intro c hc
  rw [invoked_eq] at hc
  cases m with
  | response r => cases hc
  | notification n =>
    have hc : c ∈ noticeCalls d s n := hc
    unfold noticeCalls at hc
    rw [if_neg (by simp [hl])] at hc
    cases hc
  | request r =>
    have hroute := routed d s.lifecycle r.method
    have hc : c ∈ routeCalls s r (d.route s.lifecycle r.method) := hc
    generalize s.lifecycle = l at hl hroute hc
    generalize d.route l r.method = route at hroute hc
    cases hroute with
    | handler ho ha hh =>
      have hc : c ∈ (if (s.registry.enter r.id ()).1 = true then [] else
        [Invocation.request r.method]) := hc
      by_cases he : (s.registry.enter r.id ()).1 = true
      · rw [if_pos he] at hc
        cases hc
      · rw [if_neg he] at hc
        exact ⟨r, rfl, ha.2 hl, List.mem_singleton.1 hc⟩
    | _ => cases hc

theorem invoked_again {r : Request} (hl : s.lifecycle = .initialized)
    (hs : isStart r.method = true) : d.invoked s (.request r) = [] := by
  rw [invoked_eq]
  show routeCalls s r (d.route s.lifecycle r.method) = []
  rw [hl, route_again hs]
  rfl

/-- Before the start a notification does nothing, unless it is the exit or a cancellation. -/
theorem dispatch_notice_early {n : Notification} (hl : s.lifecycle = .uninitialized)
    (ho : s.outbox = []) (hx : isExit n.method = false)
    (hc : Wire.ofName? ControlMethod n.method ≠ some .cancelRequest) :
    (d.dispatch s (.notification n)).state = s ∧
      (d.dispatch s (.notification n)).response = none ∧
      (d.dispatch s (.notification n)).notifications = [] ∧
      (d.dispatch s (.notification n)).control = .proceed := by
  have hstep : ∃ log, d.notification s n = ⟨s, none, .proceed, log⟩ := by
    cases noticed d s n with
    | @control c hcontrol =>
      cases c with
      | cancelRequest => exact absurd hcontrol hc
      | progress => exact ⟨_, notification_control hcontrol⟩
    | exit hexit =>
      rw [hx] at hexit
      cases hexit
    | early ho hl => exact ⟨_, notification_early ho hl⟩
    | unhandled _ hl' _ =>
      rw [hl] at hl'
      cases hl'
    | handled _ hl' _ =>
      rw [hl] at hl'
      cases hl'
  obtain ⟨log, hstep⟩ := hstep
  unfold dispatch handle
  dsimp only
  rw [hstep]
  obtain ⟨lifecycle, registry, outbox, shared⟩ := s
  cases ho
  exact ⟨rfl, rfl, rfl, rfl⟩

end Dispatcher

/-! ### Histories -/

namespace Event

open Dispatcher

def IsStart (e : Event σ) : Prop := Starts e.message e.outcome.response

/-- What holds of an event before the session has started: no handler runs but that of the start,
other requests are refused, and notifications do nothing, but for the exit and cancellations. -/
structure Early (d : Dispatcher σ) (e : Event σ) : Prop where
  calls : ∀ c ∈ d.invoked e.before e.message, ∃ r, e.message = .request r ∧
    isStart r.method = true ∧ c = .request r.method
  requests : ∀ r, e.message = .request r → Ordinary r.method → isStart r.method = false →
    e.outcome.response = some (.ofCode r.id .serverNotInitialized)
  notifications : ∀ n, e.message = .notification n → isExit n.method = false →
    Wire.ofName? ControlMethod n.method ≠ some .cancelRequest →
    e.outcome.state = e.before ∧ e.outcome.response = none ∧ e.outcome.notifications = [] ∧
      e.outcome.control = .proceed

/-- What holds of an event after the session has started: a request to start it is refused, and no
handler runs for it. -/
structure Late (d : Dispatcher σ) (e : Event σ) : Prop where
  again : ∀ r, e.message = .request r → isStart r.method = true →
    e.outcome.response =
        some (.failure r.id (.withText .invalidRequest "Server is already initialized")) ∧
      d.invoked e.before e.message = []

end Event

namespace Dispatcher

variable {d : Dispatcher σ} {s : ServerState σ} {ms : List Message} {pre post : List (Event σ)}
  {e : Event σ}

/-- **What an event finds**: nothing waits to be written, and the session has started if and only
if it had at first or an event before has started it. -/
theorem event_spec (ho : s.outbox = []) (h : d.history s ms = pre ++ e :: post) :
    e.outcome = d.dispatch e.before e.message ∧ e.before.outbox = [] ∧
      (e.before.lifecycle = .initialized ↔
        s.lifecycle = .initialized ∨ ∃ e' ∈ pre, e'.IsStart) := by
  induction pre generalizing s ms with
  | nil =>
    cases ms with
    | nil => cases h
    | cons m ms =>
      obtain ⟨rfl, -⟩ := List.cons.inj h
      exact ⟨rfl, ho, by simp⟩
  | cons e₀ pre ih =>
    cases ms with
    | nil => cases h
    | cons m ms =>
      obtain ⟨rfl, htail⟩ := List.cons.inj h
      obtain ⟨h₁, h₂, h₃⟩ := ih rfl htail
      refine ⟨h₁, h₂, h₃.trans ?_⟩
      rw [lifecycle_dispatch, or_assoc]
      simp only [List.mem_cons, exists_eq_or_imp]
      exact Iff.rfl

theorem event_of_start {shared : σ} (h : d.history (.start shared) ms = pre ++ e :: post) :
    e.outcome = d.dispatch e.before e.message ∧ e.before.outbox = [] ∧
      (e.before.lifecycle = .initialized ↔ ∃ e' ∈ pre, e'.IsStart) := by
  obtain ⟨hout, hbox, hlife⟩ := event_spec rfl h
  refine ⟨hout, hbox, hlife.trans (or_iff_right ?_)⟩
  intro hl
  cases hl

theorem early_of_uninitialized (hout : e.outcome = d.dispatch e.before e.message)
    (hbox : e.before.outbox = []) (hl : e.before.lifecycle = .uninitialized) : e.Early d where
  calls := invoked_early hl
  requests r hm ho hs := by
    rw [hout, hm]
    exact response_early hl ho hs
  notifications n hm hx hc := by
    rw [hout, hm]
    exact dispatch_notice_early hl hbox hx hc

theorem late_of_initialized (hout : e.outcome = d.dispatch e.before e.message)
    (hl : e.before.lifecycle = .initialized) : e.Late d where
  again r hm hs := by
    rw [hout, hm]
    exact ⟨response_again hl hs, invoked_again hl hs⟩

theorem not_isStart_of_initialized (hout : e.outcome = d.dispatch e.before e.message)
    (hl : e.before.lifecycle = .initialized) : ¬ e.IsStart := by
  unfold Event.IsStart
  rw [hout]
  exact not_starts_of_initialized hl

theorem lifecycle_outcome (hout : e.outcome = d.dispatch e.before e.message) :
    e.outcome.state.lifecycle = .initialized ↔ e.before.lifecycle = .initialized ∨ e.IsStart := by
  unfold Event.IsStart
  rw [hout]
  exact lifecycle_dispatch ..

theorem ne_initialized_iff {l : Lifecycle} : l ≠ .initialized ↔ l = .uninitialized := by
  cases l <;> simp

theorem changes_iff (hout : e.outcome = d.dispatch e.before e.message) :
    e.outcome.state.lifecycle ≠ e.before.lifecycle ↔ e.IsStart := by
  have hafter := lifecycle_outcome hout
  constructor
  · intro hne
    refine Classical.byContradiction fun hstart => ?_
    have hsame := hafter.trans (or_iff_left hstart)
    by_cases hl : e.before.lifecycle = .initialized
    · exact hne ((hsame.2 hl).trans hl.symm)
    · rw [ne_initialized_iff.1 hl, ne_initialized_iff.1 (mt hsame.1 hl)] at hne
      exact hne rfl
  · intro hstart hsame
    exact not_isStart_of_initialized hout (hsame ▸ hafter.2 (Or.inr hstart)) hstart

theorem not_isStart_behind {shared : σ} (h : d.history (.start shared) ms = pre ++ e :: post)
    (hstart : e.IsStart) : ∀ e' ∈ post, ¬ e'.IsStart := by
  intro e' he'
  obtain ⟨mid, rest, rfl⟩ := List.append_of_mem he'
  have h' : d.history (.start shared) ms = (pre ++ e :: mid) ++ e' :: rest := by
    rw [h, List.append_assoc]
    rfl
  obtain ⟨hout', -, hlife'⟩ := event_of_start h'
  exact not_isStart_of_initialized hout' (hlife'.2 ⟨e, by simp, hstart⟩)

/-- **The lifecycle over every history** from the state in which a server begins. A session has
started at an event if and only if an event before has started it, so it never goes back. An event
changes the lifecycle if and only if it starts the session, and at most one does. -/
theorem lifecycle_of_history {shared : σ} (h : d.history (.start shared) ms = pre ++ e :: post) :
    (e.before.lifecycle = .initialized ↔ ∃ e' ∈ pre, e'.IsStart) ∧
      (e.before.lifecycle = .initialized → e.outcome.state.lifecycle = .initialized) ∧
      (e.outcome.state.lifecycle ≠ e.before.lifecycle ↔ e.IsStart) ∧
      (e.IsStart → ∀ e' ∈ pre ++ post, ¬ e'.IsStart) ∧
      ((∀ e' ∈ pre, ¬ e'.IsStart) → e.Early d) ∧
      ((∃ e' ∈ pre, e'.IsStart) → e.Late d) := by
  obtain ⟨hout, hbox, hlife⟩ := event_of_start h
  refine ⟨hlife, fun hl => (lifecycle_outcome hout).2 (Or.inl hl), changes_iff hout, ?_, ?_, ?_⟩
  · intro hstart e' he'
    rcases List.mem_append.1 he' with he' | he'
    · intro hstart'
      exact not_isStart_of_initialized hout (hlife.2 ⟨e', he', hstart'⟩) hstart
    · exact not_isStart_behind h hstart e' he'
  · intro hnone
    refine early_of_uninitialized hout hbox (ne_initialized_iff.1 fun hl => ?_)
    obtain ⟨e', he', hstart⟩ := hlife.1 hl
    exact hnone e' he' hstart
  · intro hsome
    exact late_of_initialized hout (hlife.2 hsome)

/-- A request too early, a start that fails, one with a result, and one more. -/
def startMessages : List Message :=
  [.request ⟨.number 1, "textDocument/hover", none⟩,
    .request ⟨.number 2, "initialize", some (.object [("do", .string "fail")])⟩,
    .request ⟨.number 3, "initialize", none⟩, .request ⟨.number 4, "initialize", none⟩]

theorem late_of_startMessages :
    ∃ pre e, history ⟨Scripted.router, none⟩ (.start []) startMessages = pre ++ [e] ∧
      (∃ e' ∈ pre, e'.IsStart) ∧ e.Late ⟨Scripted.router, none⟩ := by
  have h : history ⟨Scripted.router, none⟩ (.start []) startMessages =
      [_, _, _] ++ [_] := rfl
  have hstart : ∃ e' ∈ (history ⟨Scripted.router, none⟩ (.start []) startMessages).take 3,
      e'.IsStart :=
    ⟨_, .tail _ (.tail _ (.head _)), ⟨.number 3, "initialize", none⟩, .null, rfl, by decide, rfl⟩
  exact ⟨_, _, h, hstart, (lifecycle_of_history h).2.2.2.2.2 hstart⟩

end Dispatcher

end SyntaxServer

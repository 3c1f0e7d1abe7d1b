import SyntaxServer.Proofs.Server.Verdict
import SyntaxServer.Server.Scripted

/-!
Failures are alike. A handler may fail with an error, by a panic, or by not ending within its time.
Whatever it queued goes out, its state is kept, its request is finished and the lifecycle stays, so
nothing but the error in its answer tells how it failed (`agree_dispatch`), and nothing at all
later on (`failure_of_histories`). Handlers may behave differently at every call here: each message
of a history comes with the dispatcher that deals with it.
-/

namespace SyntaxServer

variable {σ : Type}

/-! ### Failures -/

/-- The end of a call is a failure: an error of any kind, a panic, or a handler that does not end
within the limit. -/
inductive CallEnd.Fails {α : Type} (limit : Option Nat) : CallEnd α → Prop
  | failed (e : HandlerError) : Fails limit (.failed e)
  | panicked (text : Option String) : Fails limit (.panicked text)
  | late : limit ≠ none → Fails limit .stuck

/-- Two calls both fail, with the same effects and in the same state. -/
structure RequestRun.FailAlike (limit : Option Nat) (x y : RequestRun σ) : Prop where
  left : x.ending.Fails limit
  right : y.ending.Fails limit
  state : x.state = y.state
  effects : x.effects = y.effects

/-- Two answers are the same, or they are errors under one identifier. -/
inductive AlmostSame : Option Response → Option Response → Prop
  | same {a : Option Response} : AlmostSame a a
  | errors {id : RequestId} {e e' : ResponseError} :
      AlmostSame (some (.failure id e)) (some (.failure id e'))

/-- Two events agree but for the error of an answer. -/
structure Event.Agrees (e e' : Event σ) : Prop where
  before : e'.before = e.before
  message : e'.message = e.message
  state : e'.outcome.state = e.outcome.state
  notifications : e'.outcome.notifications = e.outcome.notifications
  control : e'.outcome.control = e.outcome.control
  response : AlmostSame e.outcome.response e'.outcome.response

namespace Dispatcher

variable {d d' : Dispatcher σ} {s : ServerState σ} {l : Lifecycle} {method : String} {r : Request}
  {h h' : RequestHandler σ} {limit : Option Nat}

/-! ### One request -/

theorem verdict_of_fails {x : CallEnd Json} (hx : x.Fails limit) :
    ∃ e, verdict limit x = some (.error e) := by
  cases hx with
  | failed e => exact ⟨_, rfl⟩
  | panicked text => exact ⟨_, rfl⟩
  | late hlimit =>
    obtain ⟨ms, rfl⟩ := Option.ne_none_iff_exists'.1 hlimit
    exact ⟨_, rfl⟩

/-- A failure leaves the lifecycle as it is, so it does not matter which one it is. -/
theorem concluded_error (s : ServerState σ) (id : RequestId) (method : String)
    {run run' : RequestRun σ} (hstate : run.state = run'.state)
    (heffects : run.effects = run'.effects) (e e' : ResponseError) :
    concluded s id method run (some (.error e)) =
      concluded s id method run' (some (.error e')) := by
  unfold concluded
  dsimp only
  rw [hstate, heffects]
  rfl

/-- What two steps lead to is the same but for the error of an answer. -/
structure StepsAgree (x y : Step σ) : Prop where
  state : y.state = x.state
  control : y.control = x.control
  response : AlmostSame x.response y.response

theorem stepsAgree_refl (x : Step σ) : StepsAgree x x := ⟨rfl, rfl, .same⟩

theorem agree_invoke (hlimit : d'.limit = d.limit)
    (hfail : (h ⟨r.id, false⟩ r.params s.shared).FailAlike d.limit
      (h' ⟨r.id, false⟩ r.params s.shared)) :
    StepsAgree (d.invoke s r h) (d'.invoke s r h') := by
  obtain ⟨e, he⟩ := verdict_of_fails hfail.left
  obtain ⟨e', he'⟩ := verdict_of_fails hfail.right
  obtain ⟨hstate, hresponse, hcontrol⟩ := d.invoke_verdict s r (h := h) rfl
  obtain ⟨hstate', hresponse', hcontrol'⟩ := d'.invoke_verdict s r (h := h') rfl
  rw [he] at hstate hresponse hcontrol
  rw [hlimit, he'] at hstate' hresponse' hcontrol'
  refine ⟨?_, hcontrol'.trans hcontrol.symm, ?_⟩
  · rw [hstate, hstate']
    exact (concluded_error s r.id r.method hfail.state hfail.effects e e').symm
  · rw [hresponse, hresponse']
    exact .errors

theorem agree_run (hlimit : d'.limit = d.limit)
    (hfail : (h ⟨r.id, false⟩ r.params s.shared).FailAlike d.limit
      (h' ⟨r.id, false⟩ r.params s.shared)) :
    StepsAgree (d.run s r h) (d'.run s r h') := by
  by_cases hk : r.id ∈ s.registry.early
  · rw [run_cancelled hk, run_cancelled hk]
    exact stepsAgree_refl _
  · rw [run_invoked hk, run_invoked hk]
    exact agree_invoke hlimit hfail

/-! ### Another handler -/

/-- The dispatcher with another handler for a method. -/
def withHandler (d : Dispatcher σ) (method : String) (h : RequestHandler σ) : Dispatcher σ :=
  { d with router := { d.router with requests := d.router.requests.insert method h } }

theorem get?_withHandler (d : Dispatcher σ) (method : String) (h : RequestHandler σ) :
    (d.withHandler method h).router.requests.get? method = some h := by
  show (d.router.requests.insert method h).get? method = some h
  rw [Table.get?_insert, if_pos rfl]

theorem route_withHandler (d : Dispatcher σ) (l : Lifecycle) (method : String)
    (h : RequestHandler σ) :
    (d.withHandler method h).route l method =
      match Wire.ofName? ControlMethod method with
      | some m => .control m
      | none => if isExit method then .exit else gate l method (.handler h) := by
  unfold route
  cases Wire.ofName? ControlMethod method with
  | some m => rfl
  | none => simp only [get?_withHandler]

/-- Steps along two routes agree if the routes are the same, but for a handler that fails. -/
theorem agree_gate (hlimit : d'.limit = d.limit)
    (hfail : (h ⟨r.id, false⟩ r.params s.shared).FailAlike d.limit
      (h' ⟨r.id, false⟩ r.params s.shared)) (l : Lifecycle) :
    StepsAgree (d.follow s r (gate l r.method (.handler h)))
      (d'.follow s r (gate l r.method (.handler h'))) := by
  have hrun : StepsAgree (d.follow s r (.handler h)) (d'.follow s r (.handler h')) :=
    agree_run hlimit hfail
  unfold gate
  cases l with
  | uninitialized =>
    cases isStart r.method with
    | true => exact hrun
    | false => exact stepsAgree_refl _
  | initialized =>
    cases isStart r.method with
    | true => exact stepsAgree_refl _
    | false => exact hrun

/-- **One request**: how its handler fails shows in the error of its answer only. -/
theorem agree_dispatch (d : Dispatcher σ)
    (hfail : (h ⟨r.id, false⟩ r.params s.shared).FailAlike d.limit
      (h' ⟨r.id, false⟩ r.params s.shared)) :
    Event.Agrees ⟨s, .request r, (d.withHandler r.method h).dispatch s (.request r)⟩
      ⟨s, .request r, (d.withHandler r.method h').dispatch s (.request r)⟩ := by
  have hfollow : StepsAgree
      ((d.withHandler r.method h).follow s r
        ((d.withHandler r.method h).route s.lifecycle r.method))
      ((d.withHandler r.method h').follow s r
        ((d.withHandler r.method h').route s.lifecycle r.method)) := by
    rw [route_withHandler, route_withHandler]
    cases Wire.ofName? ControlMethod r.method with
    | some m => exact stepsAgree_refl _
    | none =>
      cases isExit r.method with
      | true => exact stepsAgree_refl _
      | false => exact agree_gate rfl hfail s.lifecycle
  refine ⟨rfl, rfl, ?_, ?_, hfollow.control, hfollow.response⟩
  · exact congrArg (fun t : ServerState σ => { t with outbox := [] }) hfollow.state
  · exact congrArg ServerState.outbox hfollow.state

/-! ### Histories -/

/-- The history of some messages, each with the dispatcher that deals with it. -/
def historyOf : ServerState σ → List (Dispatcher σ × Message) → List (Event σ)
  | _, [] => []
  | s, (d, m) :: rest => ⟨s, m, d.dispatch s m⟩ :: historyOf (d.dispatch s m).state rest

/-- The state after some messages, each with the dispatcher that deals with it. -/
def stateAfter : ServerState σ → List (Dispatcher σ × Message) → ServerState σ
  | s, [] => s
  | s, (d, m) :: rest => stateAfter (d.dispatch s m).state rest

variable {pre post xs ys : List (Dispatcher σ × Message)} {m : Message}

theorem historyOf_map (d : Dispatcher σ) (s : ServerState σ) (ms : List Message) :
    historyOf s (ms.map fun m => (d, m)) = d.history s ms := by
  induction ms generalizing s with
  | nil => rfl
  | cons m ms ih => exact congrArg (_ :: ·) (ih _)

theorem historyOf_append (s : ServerState σ) (xs ys : List (Dispatcher σ × Message)) :
    historyOf s (xs ++ ys) = historyOf s xs ++ historyOf (stateAfter s xs) ys := by
  induction xs generalizing s with
  | nil => rfl
  | cons x xs ih => exact congrArg (_ :: ·) (ih _)

theorem idle_dispatch (hs : s.registry.active = .empty)
    (hended : (d.dispatch s m).control ≠ .stall) :
    (d.dispatch s m).state.registry.active = .empty := by
  cases recorded d s m with
  | @cancelled id _ _ hx =>
    rw [hx, Registry.cancel_idle hs]
    split <;> exact hs
  | entered _ hx => rw [hx, Registry.turn_idle hs]
  | waiting _ hstall _ => exact absurd hstall hended
  | kept _ _ hx => rw [hx, hs]

theorem idle_stateAfter (hs : s.registry.active = .empty)
    (hended : ∀ e ∈ historyOf s xs, e.Ended) : (stateAfter s xs).registry.active = .empty := by
  induction xs generalizing s with
  | nil => exact hs
  | cons x xs ih =>
    obtain ⟨hfirst, hrest⟩ := List.forall_mem_cons.1 hended
    exact ih (idle_dispatch hs hfirst) hrest

theorem ended_of_fails (d : Dispatcher σ)
    (hfail : (h ⟨r.id, false⟩ r.params s.shared).ending.Fails d.limit) :
    ((d.withHandler r.method h).dispatch s (.request r)).control ≠ .stall := by
  have hcontrol : ((d.withHandler r.method h).dispatch s (.request r)).control =
      ((d.withHandler r.method h).request s r).control := rfl
  rw [hcontrol]
  cases settled (d.withHandler r.method h) s r with
  | answered _ hc _ =>
    rw [hc]
    split <;> exact nofun
  | waiting _ _ _ hlimit hh hstuck =>
    rw [get?_withHandler] at hh
    cases hh
    rw [hstuck] at hfail
    cases hfail with
    | late hsome => exact absurd hlimit hsome

/-- **How a handler fails does not show later on.** Take two histories of the same messages, in
which one request finds handlers that both fail after the same effects and in the same state. They
are the same before the request and behind it, and at the request they agree in all but the error of
its answer: in the state, and with it in the registry and the lifecycle, in the notifications and
in the control. If the messages before were dealt with, no request is left running. -/
theorem failure_of_histories (d : Dispatcher σ) (r : Request) (h h' : RequestHandler σ)
    (shared : σ) (pre post : List (Dispatcher σ × Message))
    (hfail : (h ⟨r.id, false⟩ r.params (stateAfter (.start shared) pre).shared).FailAlike d.limit
      (h' ⟨r.id, false⟩ r.params (stateAfter (.start shared) pre).shared)) :
    ∃ e e' behind,
      historyOf (.start shared) (pre ++ (d.withHandler r.method h, .request r) :: post) =
          historyOf (.start shared) pre ++ e :: behind ∧
        historyOf (.start shared) (pre ++ (d.withHandler r.method h', .request r) :: post) =
          historyOf (.start shared) pre ++ e' :: behind ∧
        e.message = .request r ∧ e.Agrees e' ∧
        ((∀ x ∈ historyOf (.start shared) pre, x.Ended) →
          e.outcome.state.registry.active = .empty) := by
  have hagree := agree_dispatch d hfail
  have hended := ended_of_fails d hfail.left
  refine ⟨_, _, _, historyOf_append .., ?_, rfl, hagree,
    fun hall => idle_dispatch (idle_stateAfter rfl hall) hended⟩
  rw [historyOf_append, historyOf, hagree.state]

/-- A server whose handlers have some time. -/
def timedServer : Dispatcher Scripted.Recorded := ⟨Scripted.router, some 100⟩

/-- A handler that notes its call, queues a notification, and ends in some way. -/
def noting (x : CallEnd Json) : RequestHandler Scripted.Recorded := fun _ _ s =>
  ⟨⟨s ++ ["noted"], x, []⟩, [.notify ⟨"note", none⟩]⟩

/-- A request whose handler ends in some way, behind the start and before another request under its
identifier. -/
def notedMessages (x : CallEnd Json) : List (Dispatcher Scripted.Recorded × Message) :=
  [Message.request ⟨.number 1, "initialize", none⟩].map (fun m => (timedServer, m)) ++
    (timedServer.withHandler "textDocument/hover" (noting x),
      Message.request ⟨.number 2, "textDocument/hover", none⟩) ::
    [(timedServer, Message.request ⟨.number 2, "shutdown", none⟩)]

/-- A handler that panics and one that runs out of time cannot be told apart later on. -/
theorem failure_of_notedMessages :
    (∃ e e' start behind,
      historyOf (.start []) (notedMessages (.panicked none)) = start ++ e :: behind ∧
        historyOf (.start []) (notedMessages .stuck) = start ++ e' :: behind ∧
        e.Agrees e' ∧ e.outcome.state.registry.active = .empty) ∧
      (historyOf (.start []) (notedMessages .stuck)).map
          (fun e => (e.outcome.notifications.length, e.outcome.response.map Response.isError)) =
        [(0, some false), (1, some true), (0, some false)] := by
  obtain ⟨e, e', behind, hleft, hright, -, hagree, hidle⟩ :=
    failure_of_histories timedServer ⟨.number 2, "textDocument/hover", none⟩
      (noting (.panicked none)) (noting .stuck) []
      ([Message.request ⟨.number 1, "initialize", none⟩].map fun m => (timedServer, m))
      [(timedServer, .request ⟨.number 2, "shutdown", none⟩)]
      ⟨.panicked none, .late nofun, rfl, rfl⟩
  refine ⟨⟨e, e', _, behind, hleft, hright, hagree, hidle ?_⟩, rfl⟩
  intro x hx
  rw [historyOf_map] at hx
  cases hx with
  | head => exact nofun
  | tail _ hx => cases hx

end Dispatcher

end SyntaxServer

import SyntaxServer.Proofs.Server.History
import SyntaxServer.Proofs.Server.Registry

/-!
Cancellations over a history of messages. What a message does to the registry follows from the
identifier that it cancels, and from the one that it enters (`recorded`). So between two messages
nothing runs, and the registry knows the last 64 requests that were entered
(`registry_of_history`). A cancellation that comes before its request is honoured
(`cancelled_of_history`).
-/

namespace SyntaxServer

variable {σ : Type} {d : Dispatcher σ} {s : ServerState σ} {m : Message} {l : Lifecycle}
  {r : Request} {id k : RequestId}

namespace Dispatcher

/-! ### What a message names -/

/-- The identifier that a call of a method cancels, if it is a well-formed cancellation. -/
def target? (method : String) (params : Option Json) : Option RequestId :=
  match Wire.ofName? ControlMethod method with
  | some .cancelRequest => (readParams CancelParams.read params).toOption.map (·.id)
  | _ => none

def cancels? : Message → Option RequestId
  | .request r => target? r.method r.params
  | .notification n => target? n.method n.params
  | .response _ => none

/-- The identifier of a request that passes the gate to a handler. -/
def entered? (d : Dispatcher σ) (l : Lifecycle) : Message → Option RequestId
  | .request r =>
    match d.route l r.method with
    | .handler _ => some r.id
    | _ => none
  | _ => none

theorem target?_control {method : String} (params : Option Json)
    (hc : Wire.ofName? ControlMethod method = none) : target? method params = none := by
  unfold target?
  rw [hc]

theorem entered?_eq_some_iff :
    d.entered? l (.request r) = some k ↔ r.id = k ∧ ∃ h, d.route l r.method = .handler h := by
  unfold entered?
  dsimp only
  cases d.route l r.method with
  | handler h => simp
  | _ => simp

theorem cancels?_of_entered? (h : d.entered? l m = some k) : cancels? m = none := by
  cases m with
  | request r =>
    obtain ⟨-, handler, hroute⟩ := entered?_eq_some_iff.1 h
    have hrouted := routed d l r.method
    rw [hroute] at hrouted
    cases hrouted with
    | handler ho _ _ => exact target?_control r.params ho.not_control
  | _ => cases h

/-! ### The registry after a message -/

/-- The registry after a message: it cancels a request, enters one, or neither. A request that
waits for its handler is not finished. -/
inductive Recorded (d : Dispatcher σ) (s : ServerState σ) (m : Message) (x : Dispatched σ) : Prop
  | cancelled {id : RequestId} : cancels? m = some id → d.entered? s.lifecycle m = none →
    x.state.registry = (s.registry.cancel id).2 → Recorded d s m x
  | entered {id : RequestId} : d.entered? s.lifecycle m = some id →
    x.state.registry = s.registry.turn id () → Recorded d s m x
  | waiting {id : RequestId} : d.entered? s.lifecycle m = some id → x.control = .stall →
    x.state.registry = (s.registry.enter id ()).2 → Recorded d s m x
  | kept : cancels? m = none → d.entered? s.lifecycle m = none →
    x.state.registry = s.registry → Recorded d s m x

theorem registry_handleControl {method : String} {c : ControlMethod} (params : Option Json)
    (hc : Wire.ofName? ControlMethod method = some c) :
    (handleControl s c params).1.registry =
      match target? method params with
      | some id => (s.registry.cancel id).2
      | none => s.registry := by
  unfold target?
  rw [hc]
  cases c with
  | progress => rfl
  | cancelRequest =>
    unfold handleControl cancel
    dsimp only
    cases readParams CancelParams.read params <;> rfl

theorem recorded_control {method : String} {c : ControlMethod} {params : Option Json}
    {x : Dispatched σ} (hc : Wire.ofName? ControlMethod method = some c)
    (hm : cancels? m = target? method params) (he : d.entered? s.lifecycle m = none)
    (hx : x.state.registry = (handleControl s c params).1.registry) : Recorded d s m x := by
  rw [registry_handleControl params hc] at hx
  cases ht : target? method params with
  | some id =>
    rw [ht] at hm hx
    exact .cancelled hm he hx
  | none =>
    rw [ht] at hm hx
    exact .kept hm he hx

theorem registry_run (d : Dispatcher σ) (s : ServerState σ) (r : Request) (h : RequestHandler σ) :
    (d.run s r h).state.registry = s.registry.turn r.id () ∨
      (d.run s r h).control = .stall ∧
        (d.run s r h).state.registry = (s.registry.enter r.id ()).2 := by
  unfold run
  dsimp only
  split
  · exact Or.inl rfl
  · unfold invoke
    dsimp only
    cases conclude d.limit r.id r.method (h ⟨r.id, false⟩ r.params s.shared).ending with
    | none => exact Or.inr ⟨rfl, rfl⟩
    | some p => exact Or.inl rfl

theorem recorded_request (d : Dispatcher σ) (s : ServerState σ) (r : Request) :
    Recorded d s (.request r) (d.dispatch s (.request r)) := by
  have hregistry : (d.dispatch s (.request r)).state.registry =
      (d.follow s r (d.route s.lifecycle r.method)).state.registry := rfl
  have hcontrol : (d.dispatch s (.request r)).control =
      (d.follow s r (d.route s.lifecycle r.method)).control := rfl
  have hrouted := routed d s.lifecycle r.method
  have hentered : d.entered? s.lifecycle (.request r) =
      match d.route s.lifecycle r.method with
      | .handler _ => some r.id
      | _ => none := rfl
  generalize d.route s.lifecycle r.method = route at hregistry hcontrol hrouted hentered
  -- a request that is not a control message leaves the registry, unless a handler is found
  have kept : Wire.ofName? ControlMethod r.method = none →
      (d.dispatch s (.request r)).state.registry = s.registry →
      d.entered? s.lifecycle (.request r) = none →
      Recorded d s (.request r) (d.dispatch s (.request r)) :=
    fun hc hx he => .kept (target?_control r.params hc) he hx
  generalize hl : s.lifecycle = l at hrouted
  cases hrouted with
  | control hc => exact recorded_control hc rfl hentered hregistry
  | exit hx => exact kept (not_control_of_isExit hx) hregistry hentered
  | tooEarly ho hs => exact kept ho.not_control hregistry hentered
  | startedBefore hs => exact kept (not_control_of_isStart hs) hregistry hentered
  | unknown ho ha hh => exact kept ho.not_control hregistry hentered
  | @handler l method h ho ha hh =>
    rcases registry_run d s r h with hrun | ⟨hstall, hrun⟩
    · exact .entered hentered (hregistry.trans hrun)
    · exact .waiting hentered (hcontrol.trans hstall) (hregistry.trans hrun)

theorem registry_notify (s : ServerState σ) (n : Notification) (h : NotificationHandler σ) :
    (notify s n h).state.registry = s.registry := by
  rw [notify_frame]

theorem recorded_notification (d : Dispatcher σ) (s : ServerState σ) (n : Notification) :
    Recorded d s (.notification n) (d.dispatch s (.notification n)) := by
  have hregistry : (d.dispatch s (.notification n)).state.registry =
      (d.notification s n).state.registry := rfl
  cases noticed d s n with
  | control hc =>
    rw [notification_control hc] at hregistry
    exact recorded_control hc rfl rfl hregistry
  | exit hx =>
    rw [notification_exit hx] at hregistry
    exact .kept (target?_control n.params (not_control_of_isExit hx)) rfl hregistry
  | early ho hl =>
    rw [notification_early ho hl] at hregistry
    exact .kept (target?_control n.params ho.not_control) rfl hregistry
  | unhandled ho hl hh =>
    rw [notification_open ho hl, hh] at hregistry
    exact .kept (target?_control n.params ho.not_control) rfl hregistry
  | @handled h ho hl hh =>
    rw [notification_open ho hl, hh] at hregistry
    exact .kept (target?_control n.params ho.not_control) rfl
      (hregistry.trans (registry_notify s n h))

/-- **What a message does to the registry.** -/
theorem recorded (d : Dispatcher σ) (s : ServerState σ) (m : Message) :
    Recorded d s m (d.dispatch s m) := by
  cases m with
  | request r => exact recorded_request d s r
  | notification n => exact recorded_notification d s n
  | response r => exact .kept rfl rfl rfl

theorem mem_early_dispatch (hk : k ∈ (d.dispatch s m).state.registry.early) :
    k ∈ s.registry.early ∨ cancels? m = some k := by
  cases recorded d s m with
  | cancelled hc _ hx =>
    rw [hx] at hk
    rcases Registry.mem_early_of_cancel hk with hk | rfl
    · exact Or.inl hk
    · exact Or.inr hc
  | entered _ hx =>
    rw [hx] at hk
    exact Or.inl (List.mem_of_mem_erase hk)
  | waiting _ _ hx =>
    rw [hx] at hk
    exact Or.inl (List.mem_of_mem_erase hk)
  | kept _ _ hx =>
    rw [hx] at hk
    exact Or.inl hk

/-! ### A cancelled request -/

/-- A request that finds its cancellation waiting is answered with that, and uses it up. -/
theorem run_cancelled (hk : r.id ∈ s.registry.early) (h : RequestHandler σ) :
    d.run s r h =
      ⟨{ s with registry := s.registry.turn r.id () }, some (.ofCode r.id .requestCancelled),
        .proceed, [Log.dispatch .debug "Request cancelled before dispatch"
          [Log.idField r.id, Log.methodField r.method]]⟩ :=
  if_pos ((s.registry.enter_eq_true_iff r.id ()).2 hk)

theorem run_invoked (hk : r.id ∉ s.registry.early) (h : RequestHandler σ) :
    d.run s r h = d.invoke { s with registry := (s.registry.enter r.id ()).2 } r h :=
  if_neg (mt (s.registry.enter_eq_true_iff r.id ()).1 hk)

theorem dispatch_run {h : RequestHandler σ} {x : Step σ}
    (hr : d.route s.lifecycle r.method = .handler h) (hx : d.run s r h = x) :
    (d.dispatch s (.request r)).response = x.response ∧
      (d.dispatch s (.request r)).notifications = x.state.outbox ∧
      (d.dispatch s (.request r)).control = x.control ∧
      (d.dispatch s (.request r)).state = { x.state with outbox := [] } := by
  unfold dispatch handle request
  dsimp only
  rw [hr]
  unfold follow
  dsimp only
  rw [hx]
  exact ⟨rfl, rfl, rfl, rfl⟩

theorem dispatch_cancelled {h : RequestHandler σ} (hr : d.route s.lifecycle r.method = .handler h)
    (hk : r.id ∈ s.registry.early) :
    (d.dispatch s (.request r)).response = some (.ofCode r.id .requestCancelled) ∧
      (d.dispatch s (.request r)).notifications = s.outbox ∧
      (d.dispatch s (.request r)).state =
        { s with registry := s.registry.turn r.id (), outbox := [] } := by
  obtain ⟨hresponse, hnotes, -, hstate⟩ := dispatch_run hr (run_cancelled hk h)
  exact ⟨hresponse, hnotes, hstate⟩

theorem invoked_cancelled {h : RequestHandler σ} (hr : d.route s.lifecycle r.method = .handler h) :
    d.invoked s (.request r) = [] ↔ r.id ∈ s.registry.early := by
  rw [invoked_eq]
  show routeCalls s r (d.route s.lifecycle r.method) = [] ↔ _
  rw [hr]
  unfold routeCalls
  rw [← s.registry.enter_eq_true_iff r.id ()]
  cases (s.registry.enter r.id ()).1 <;> simp

/-! ### A request that runs its handler -/

theorem get?_of_route {l : Lifecycle} {method : String} {h : RequestHandler σ}
    (hroute : d.route l method = .handler h) : d.router.requests.get? method = some h := by
  have hrouted := routed d l method
  rw [hroute] at hrouted
  cases hrouted with
  | handler _ _ hh => exact hh

/-- A request that runs a handler runs that of its method, and was not cancelled before. -/
theorem handler_of_invoked (hi : d.invoked s (.request r) ≠ []) :
    ∃ h, d.route s.lifecycle r.method = .handler h ∧
      d.router.requests.get? r.method = some h ∧ r.id ∉ s.registry.early := by
  cases hroute : d.route s.lifecycle r.method with
  | handler h =>
    exact ⟨h, rfl, get?_of_route hroute, mt (invoked_cancelled hroute).2 hi⟩
  | _ =>
    rw [invoked_eq] at hi
    have hnone : routeCalls s r (d.route s.lifecycle r.method) ≠ [] := hi
    rw [hroute] at hnone
    exact absurd rfl hnone

end Dispatcher

/-! ### Histories -/

namespace Event

/-- The message did not leave the server waiting for a handler. -/
def Ended (e : Event σ) : Prop := e.outcome.control ≠ .stall

/-- The message is remembered as a cancellation of a request to come. -/
def defers (e : Event σ) : Bool :=
  match Dispatcher.cancels? e.message with
  | some id => (e.before.registry.cancel id).1 = .deferred
  | none => false

def entered? (d : Dispatcher σ) (e : Event σ) : Option RequestId :=
  d.entered? e.before.lifecycle e.message

end Event

namespace Dispatcher

variable {ms : List Message} {pre mid post : List (Event σ)} {c e : Event σ}

/-- **What holds before an event**: a property of the events so far and of the state after them
that holds at first and that every event keeps. -/
theorem before_of_history {P : List (Event σ) → ServerState σ → Prop} (first : P [] s)
    (step : ∀ es t m, P es t → P (es ++ [⟨t, m, d.dispatch t m⟩]) (d.dispatch t m).state)
    (h : d.history s ms = pre ++ e :: post) : P pre e.before := by
  induction pre generalizing s ms P with
  | nil =>
    cases ms with
    | nil => cases h
    | cons m ms =>
      obtain ⟨rfl, -⟩ := List.cons.inj h
      exact first
  | cons e₀ pre ih =>
    cases ms with
    | nil => cases h
    | cons m ms =>
      obtain ⟨rfl, htail⟩ := List.cons.inj h
      exact ih (P := fun es t => P (⟨s, m, d.dispatch s m⟩ :: es) t) (step [] s m first)
        (fun es t m' => step (_ :: es) t m') htail

theorem history_behind (h : d.history s ms = pre ++ e :: post) :
    e.outcome = d.dispatch e.before e.message ∧
      ∃ rest, d.history e.outcome.state rest = post := by
  induction pre generalizing s ms with
  | nil =>
    cases ms with
    | nil => cases h
    | cons m ms =>
      obtain ⟨rfl, rfl⟩ := List.cons.inj h
      exact ⟨rfl, ms, rfl⟩
  | cons e₀ pre ih =>
    cases ms with
    | nil => cases h
    | cons m ms => exact ih (List.cons.inj h).2

/-- The identifiers of the requests that were entered, in their order. -/
def finishedIds (d : Dispatcher σ) (es : List (Event σ)) : List RequestId :=
  es.filterMap (Event.entered? d)

theorem finishedIds_concat (d : Dispatcher σ) (es : List (Event σ)) (e : Event σ) :
    finishedIds d (es ++ [e]) = finishedIds d es ++ (e.entered? d).toList := by
  unfold finishedIds
  rw [List.filterMap_append]
  cases h : e.entered? d <;> simp [h]

/-- A registry between two messages: nothing runs, and the last requests that were entered are
finished. -/
structure Settles (d : Dispatcher σ) (es : List (Event σ)) (r : Registry Unit) : Prop where
  idle : r.active = .empty
  finished : r.finished = (d.finishedIds es).rtake historySize
  bounded : r.early.length ≤ historySize

theorem settles_cancel {es : List (Event σ)} {registry : Registry Unit}
    (h : d.Settles es registry) (id : RequestId) : d.Settles es (registry.cancel id).2 := by
  rw [Registry.cancel_idle h.idle]
  split
  · exact h
  · exact ⟨h.idle, h.finished, Registry.length_remember h.bounded id⟩

theorem settles_dispatch {es : List (Event σ)} {t : ServerState σ} (h : d.Settles es t.registry)
    (hended : (d.dispatch t m).control ≠ .stall) :
    d.Settles (es ++ [⟨t, m, d.dispatch t m⟩]) (d.dispatch t m).state.registry := by
  have hids := finishedIds_concat d es ⟨t, m, d.dispatch t m⟩
  have hsame : ∀ {registry : Registry Unit}, d.entered? t.lifecycle m = none →
      d.Settles es registry → d.Settles (es ++ [⟨t, m, d.dispatch t m⟩]) registry := by
    intro registry hnone h
    have hentered : Event.entered? d ⟨t, m, d.dispatch t m⟩ = none := hnone
    rw [hentered, Option.toList_none, List.append_nil] at hids
    exact ⟨h.idle, hids ▸ h.finished, h.bounded⟩
  cases recorded d t m with
  | cancelled _ hnone hx =>
    rw [hx]
    exact hsame hnone (settles_cancel h _)
  | @entered id hsome hx =>
    have hentered : Event.entered? d ⟨t, m, d.dispatch t m⟩ = some id := hsome
    rw [hentered, Option.toList_some] at hids
    rw [hx, Registry.turn_idle h.idle]
    refine ⟨rfl, ?_, (List.erase_sublist ..).length_le.trans h.bounded⟩
    rw [hids, ← remember_rtake, ← h.finished]
  | waiting _ hstall _ => exact absurd hstall hended
  | kept _ hnone hx =>
    rw [hx]
    exact hsame hnone h

/-- **Between two messages nothing runs**, and the registry knows the last requests that were
entered. -/
theorem registry_of_history {shared : σ} (h : d.history (.start shared) ms = pre ++ e :: post)
    (hended : ∀ e' ∈ pre, e'.Ended) : d.Settles pre e.before.registry := by
  refine before_of_history (P := fun es t => (∀ e' ∈ es, e'.Ended) → d.Settles es t.registry)
    (fun _ => ⟨rfl, rfl, Nat.zero_le _⟩) ?_ h hended
  intro es t m ih hall
  obtain ⟨hes, hlast⟩ := List.forall_mem_append.1 hall
  exact settles_dispatch (ih hes) (hlast _ (List.mem_singleton_self _))

/-! ### A cancellation that comes first -/

theorem defers_of_cancels? {t : ServerState σ} {x : Dispatched σ} (hc : cancels? m = some id) :
    Event.defers ⟨t, m, x⟩ = decide ((t.registry.cancel id).1 = .deferred) := by
  unfold Event.defers
  rw [hc]

theorem defers_of_none {t : ServerState σ} {x : Dispatched σ} (hc : cancels? m = none) :
    Event.defers ⟨t, m, x⟩ = false := by
  unfold Event.defers
  rw [hc]

/-- A cancellation that waits goes on to wait while fewer than 64 others join it, if no request of
its identifier is entered. -/
theorem recent_dispatch {t : ServerState σ} {n : Nat} (hk : Recent k n t.registry.early)
    (hne : d.entered? t.lifecycle m ≠ some k)
    (hn : n + [Event.mk t m (d.dispatch t m)].countP Event.defers < historySize) :
    Recent k (n + [Event.mk t m (d.dispatch t m)].countP Event.defers)
      (d.dispatch t m).state.registry.early := by
  have hother : ∀ {id}, d.entered? t.lifecycle m = some id → Recent k
      (n + [Event.mk t m (d.dispatch t m)].countP Event.defers) (t.registry.early.erase id) := by
    intro id hid
    rw [List.countP_singleton, defers_of_none (cancels?_of_entered? hid)]
    exact recent_erase hk fun h => hne (h ▸ hid)
  cases recorded d t m with
  | @cancelled id hc _ hx =>
    rw [List.countP_singleton, defers_of_cancels? hc] at hn ⊢
    rw [hx]
    rcases t.registry.cancel_or id with hcancel | ⟨hcancel, hsame⟩
    · rw [hcancel] at hn ⊢
      exact recent_remember hk hn id
    · rw [hsame, decide_eq_false hcancel]
      exact hk
  | entered hid hx =>
    rw [hx]
    exact hother hid
  | waiting hid _ hx =>
    rw [hx]
    exact hother hid
  | kept hc _ hx =>
    rw [List.countP_singleton, defers_of_none hc, hx]
    exact hk

theorem recent_of_history (h : d.history s ms = pre ++ e :: post)
    (hk : Recent k 0 s.registry.early) (hpre : ∀ e' ∈ pre, e'.entered? d ≠ some k)
    (hfew : pre.countP Event.defers < historySize) :
    Recent k (pre.countP Event.defers) e.before.registry.early := by
  refine before_of_history (P := fun es t => (∀ e' ∈ es, e'.entered? d ≠ some k) →
    es.countP Event.defers < historySize → Recent k (es.countP Event.defers) t.registry.early)
    (fun _ _ => hk) ?_ h hpre hfew
  intro es t m ih hall hcount
  obtain ⟨hes, hlast⟩ := List.forall_mem_append.1 hall
  rw [List.countP_append] at hcount ⊢
  exact recent_dispatch (ih hes (by omega)) (hlast _ (List.mem_singleton_self _)) hcount

/-- **A cancellation that comes first is honoured.** If it names none of the last 64 requests that
were entered, the next request that is entered under its identifier is answered as cancelled: its
handler does not run, nothing is queued, and the state stays but for the registry. At most 63 other
cancellations of requests to come may lie in between. -/
theorem cancelled_of_history {shared : σ}
    (h : d.history (.start shared) ms = pre ++ c :: (mid ++ e :: post))
    (hended : ∀ e' ∈ pre, e'.Ended) (hc : cancels? c.message = some k)
    (hnew : k ∉ (d.finishedIds pre).rtake historySize)
    (hmid : ∀ e' ∈ mid, e'.entered? d ≠ some k) (hfew : mid.countP Event.defers < historySize)
    (he : e.entered? d = some k) :
    e.outcome.response = some (.ofCode k .requestCancelled) ∧
      d.invoked e.before e.message = [] ∧ e.outcome.notifications = [] ∧
      e.outcome.state = { e.before with registry := e.before.registry.turn k () } := by
  have hsettled := registry_of_history h hended
  obtain ⟨hcout, rest, hrest⟩ := history_behind h
  obtain ⟨heout, -⟩ := history_behind hrest
  have hwaits : Recent k 0 c.outcome.state.registry.early := by
    rw [hcout]
    cases recorded d c.before c.message with
    | @cancelled id hid _ hx =>
      cases hc.symm.trans hid
      rw [hx, Registry.cancel_idle hsettled.idle, if_neg (hsettled.finished ▸ hnew)]
      exact recent_remember_self ..
    | entered hid _ => cases hc.symm.trans (cancels?_of_entered? hid)
    | waiting hid _ _ => cases hc.symm.trans (cancels?_of_entered? hid)
    | kept hnone _ _ => cases hc.symm.trans hnone
  have hk := mem_of_recent (recent_of_history hrest hwaits hmid hfew)
  have hall : d.history (.start shared) ms = (pre ++ c :: mid) ++ e :: post := by
    rw [h, List.append_assoc]
    rfl
  have hbox : e.before.outbox = [] := (event_of_start hall).2.1
  obtain ⟨before, m, outcome⟩ := e
  dsimp only at heout hk hbox ⊢
  subst heout
  cases m with
  | request r =>
    obtain ⟨rfl, handler, hroute⟩ := entered?_eq_some_iff.1 he
    obtain ⟨hresponse, hnotes, hstate⟩ := dispatch_cancelled hroute hk
    refine ⟨hresponse, (invoked_cancelled hroute).2 hk, hnotes.trans hbox, hstate.trans ?_⟩
    rw [← hbox]
  | _ => cases he

/-- A cancellation before its request, which is sent too early and then again, with two other
cancellations and the start in between. -/
def cancelFirst : List Message :=
  [.notification (.cancel (.number 5)), .request ⟨.number 5, "shutdown", none⟩,
    .request ⟨.number 1, "initialize", none⟩, .notification (.cancel (.text "a")),
    .request ⟨.number 5, "$/cancelRequest", (Notification.cancel (.number 6)).params⟩,
    .request ⟨.number 5, "shutdown", none⟩]

theorem cancelled_of_cancelFirst :
    ∃ c mid e, history ⟨Scripted.router, none⟩ (.start []) cancelFirst = c :: (mid ++ [e]) ∧
      cancels? c.message = some (.number 5) ∧ mid.length = 4 ∧
      mid.countP Event.defers = 2 ∧ e.entered? ⟨Scripted.router, none⟩ = some (.number 5) ∧
      e.outcome.response = some (.ofCode (.number 5) .requestCancelled) ∧
      invoked ⟨Scripted.router, none⟩ e.before e.message = [] := by
  have h : history ⟨Scripted.router, none⟩ (.start []) cancelFirst =
      [] ++ _ :: ([_, _, _, _] ++ _ :: []) := rfl
  have hcancelled := cancelled_of_history h (by simp) (k := .number 5) rfl (by simp [finishedIds])
    (by decide) (by decide) rfl
  exact ⟨_, _, _, h, rfl, rfl, by decide, rfl, hcancelled.1, hcancelled.2.1⟩

end Dispatcher

end SyntaxServer

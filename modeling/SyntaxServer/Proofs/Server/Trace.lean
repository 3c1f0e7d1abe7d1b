import SyntaxServer.Proofs.Server.Dispatch

/-!
Which handlers run. The handlers of a router are replaced by ones that note each call in the shared
state and do the same otherwise; what a message notes are the handlers it runs (`invoked`). Nothing
else changes (`handle_traced`), so a message runs the handler of its route, if it has one and was
not cancelled, and no other (`invoked_eq`).
-/

namespace SyntaxServer

namespace Table

variable {κ ν μ : Type} [DecidableEq κ]

/-- Changes the values of a table, with their keys. -/
def map (f : κ → ν → μ) (t : Table κ ν) : Table κ μ := ⟨t.rows.map fun r => (r.1, f r.1 r.2)⟩

theorem get?_map (f : κ → ν → μ) (t : Table κ ν) (k : κ) :
    (t.map f).get? k = (t.get? k).map (f k) := by
  obtain ⟨rows⟩ := t
  show List.lookup k (rows.map fun r => (r.1, f r.1 r.2)) = (List.lookup k rows).map (f k)
  induction rows with
  | nil => rfl
  | cons r rows ih =>
    rw [List.map_cons, List.lookup_cons, List.lookup_cons]
    by_cases h : k = r.1
    · subst h
      simp
    · rw [beq_false_of_ne h]
      exact ih

end Table

/-- A call of the handler of a method. -/
inductive Invocation where
  | request (method : String)
  | notification (method : String)
  deriving DecidableEq, Repr

variable {σ : Type}

/-! ### Handlers that note their calls -/

/-- A handler of requests that notes its calls. -/
def RequestHandler.traced (method : String) (h : RequestHandler σ) :
    RequestHandler (σ × List Invocation) := fun call params shared =>
  let run := h call params shared.1
  ⟨⟨(run.state, shared.2 ++ [.request method]), run.ending, run.log⟩, run.effects⟩

def NotificationHandler.traced (method : String) (h : NotificationHandler σ) :
    NotificationHandler (σ × List Invocation) := fun params shared =>
  let run := h params shared.1
  ⟨(run.state, shared.2 ++ [.notification method]), run.ending, run.log⟩

/-- A router whose handlers note their calls. -/
def Router.traced (r : Router σ) : Router (σ × List Invocation) :=
  ⟨r.requests.map RequestHandler.traced, r.notifications.map NotificationHandler.traced⟩

def ServerState.traced (s : ServerState σ) (calls : List Invocation) :
    ServerState (σ × List Invocation) :=
  ⟨s.lifecycle, s.registry, s.outbox, (s.shared, calls)⟩

def Step.traced (x : Step σ) (calls : List Invocation) : Step (σ × List Invocation) :=
  ⟨x.state.traced calls, x.response, x.control, x.log⟩

namespace Dispatcher

variable {d : Dispatcher σ} {s : ServerState σ} {t : List Invocation}

/-- A dispatcher whose handlers note their calls. -/
def traced (d : Dispatcher σ) : Dispatcher (σ × List Invocation) := ⟨d.router.traced, d.limit⟩

/-- The handlers that a message runs. -/
def invoked (d : Dispatcher σ) (s : ServerState σ) (m : Message) : List Invocation :=
  (d.traced.handle (s.traced []) m).state.shared.2

/-! ### The calls of a message -/

/-- The calls of a request on its route. -/
def routeCalls (s : ServerState σ) (r : Request) : Route σ → List Invocation
  | .handler _ => if (s.registry.enter r.id ()).1 then [] else [.request r.method]
  | _ => []

def noticeCalls (d : Dispatcher σ) (s : ServerState σ) (n : Notification) : List Invocation :=
  if Wire.ofName? ControlMethod n.method = none ∧ isExit n.method = false ∧
      s.lifecycle = .initialized then
    ((d.router.notifications.get? n.method).map fun _ => .notification n.method).toList
  else []

/-- The calls of a message. -/
def calls (d : Dispatcher σ) (s : ServerState σ) : Message → List Invocation
  | .request r => routeCalls s r (d.route s.lifecycle r.method)
  | .notification n => noticeCalls d s n
  | .response _ => []

/-- A route to a handler that notes its calls. -/
def Route.traced (method : String) : Route σ → Route (σ × List Invocation)
  | .control m => .control m
  | .exit => .exit
  | .tooEarly => .tooEarly
  | .startedBefore => .startedBefore
  | .unknown => .unknown
  | .handler h => .handler (h.traced method)

theorem route_traced (d : Dispatcher σ) (l : Lifecycle) (method : String) :
    d.traced.route l method = (d.route l method).traced method := by
  have hget : d.traced.router.requests.get? method =
      (d.router.requests.get? method).map (RequestHandler.traced method) := Table.get?_map ..
  unfold route
  cases Wire.ofName? ControlMethod method with
  | some m => rfl
  | none =>
    dsimp only
    rw [hget]
    cases isExit method with
    | true => rfl
    | false =>
      unfold gate
      cases isStart method <;> cases l <;> cases d.router.requests.get? method <;> rfl

theorem handleControl_traced (s : ServerState σ) (m : ControlMethod) (params : Option Json) :
    handleControl (s.traced t) m params =
      ((handleControl s m params).1.traced t, (handleControl s m params).2) := by
  cases m with
  | progress => rfl
  | cancelRequest =>
    unfold handleControl cancel
    dsimp only
    cases readParams CancelParams.read params <;> rfl

theorem invoke_traced (d : Dispatcher σ) (s : ServerState σ) (r : Request) (h : RequestHandler σ) :
    d.traced.invoke (s.traced t) r (h.traced r.method) =
      (d.invoke s r h).traced (t ++ [.request r.method]) := by
  have hconclude : conclude d.traced.limit r.id r.method
      (h.traced r.method ⟨r.id, false⟩ r.params (s.traced t).shared).ending =
        conclude d.limit r.id r.method (h ⟨r.id, false⟩ r.params s.shared).ending := rfl
  unfold invoke
  dsimp only
  rw [hconclude]
  cases conclude d.limit r.id r.method (h ⟨r.id, false⟩ r.params s.shared).ending <;> rfl

theorem run_traced (d : Dispatcher σ) (s : ServerState σ) (r : Request) (h : RequestHandler σ) :
    d.traced.run (s.traced t) r (h.traced r.method) =
      (d.run s r h).traced (t ++ routeCalls s r (.handler h)) := by
  have hregistry : (s.traced t).registry = s.registry := rfl
  unfold run routeCalls
  dsimp only
  rw [hregistry]
  by_cases he : (s.registry.enter r.id ()).1 = true
  · rw [if_pos he, if_pos he, if_pos he, List.append_nil]
    rfl
  · rw [if_neg he, if_neg he, if_neg he]
    exact invoke_traced d { s with registry := (s.registry.enter r.id ()).2 } r h

theorem request_traced (d : Dispatcher σ) (s : ServerState σ) (r : Request) :
    d.traced.request (s.traced t) r = (d.request s r).traced (t ++ calls d s (.request r)) := by
  have hfollow : d.traced.follow (s.traced t) r (d.traced.route s.lifecycle r.method) =
      (d.follow s r (d.route s.lifecycle r.method)).traced
        (t ++ routeCalls s r (d.route s.lifecycle r.method)) := by
    rw [route_traced]
    cases d.route s.lifecycle r.method with
    | handler h => exact run_traced d s r h
    | control m =>
      unfold routeCalls follow Route.traced
      dsimp only
      rw [handleControl_traced, List.append_nil]
      rfl
    | _ =>
      unfold routeCalls
      rw [List.append_nil]
      rfl
  have hlifecycle : (s.traced t).lifecycle = s.lifecycle := rfl
  unfold request
  dsimp only
  rw [hlifecycle, hfollow]
  rfl

theorem notify_traced (s : ServerState σ) (n : Notification) (h : NotificationHandler σ) :
    notify (s.traced t) n (h.traced n.method) =
      (notify s n h).traced (t ++ [.notification n.method]) := by
  have hending : (h.traced n.method n.params (s.traced t).shared).ending =
      (h n.params s.shared).ending := rfl
  unfold notify
  dsimp only
  rw [hending]
  cases (h n.params s.shared).ending <;> rfl

theorem notification_traced (d : Dispatcher σ) (s : ServerState σ) (n : Notification) :
    d.traced.notification (s.traced t) n =
      (d.notification s n).traced (t ++ noticeCalls d s n) := by
  have hget : d.traced.router.notifications.get? n.method =
      (d.router.notifications.get? n.method).map (NotificationHandler.traced n.method) :=
    Table.get?_map ..
  unfold noticeCalls
  cases noticed d s n with
  | control hc =>
    rw [notification_control hc, notification_control hc, handleControl_traced,
      if_neg (by simp [hc]), List.append_nil]
    rfl
  | exit hx =>
    rw [notification_exit hx, notification_exit hx, if_neg (by simp [hx]), List.append_nil]
    rfl
  | early ho hl =>
    rw [notification_early ho hl, notification_early (s := s.traced t) ho hl,
      if_neg (by simp [hl]), List.append_nil]
    rfl
  | unhandled ho hl hh =>
    rw [notification_open ho hl, notification_open (s := s.traced t) ho hl, hget, hh,
      if_pos ⟨ho.not_control, ho.not_exit, hl⟩]
    show _ = Step.traced _ (t ++ [])
    rw [List.append_nil]
    rfl
  | handled ho hl hh =>
    rw [notification_open ho hl, notification_open (s := s.traced t) ho hl, hget, hh,
      if_pos ⟨ho.not_control, ho.not_exit, hl⟩]
    exact notify_traced s n _

/-- **Handlers that note their calls change nothing else**, and note what the route says. -/
theorem handle_traced (d : Dispatcher σ) (s : ServerState σ) (m : Message) :
    d.traced.handle (s.traced t) m = (d.handle s m).traced (t ++ calls d s m) := by
  cases m with
  | request r => exact request_traced d s r
  | notification n => exact notification_traced d s n
  | response r =>
    unfold calls
    rw [List.append_nil]
    rfl

theorem invoked_eq (d : Dispatcher σ) (s : ServerState σ) (m : Message) :
    d.invoked s m = calls d s m := by
  unfold invoked
  rw [handle_traced]
  rfl

end Dispatcher

end SyntaxServer

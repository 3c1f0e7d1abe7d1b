import SyntaxServer.Json.Dump
import SyntaxServer.Server.Cancellation
import SyntaxServer.Server.Router

/-!
Dispatch: what becomes of one message. The protocol's own methods come first, then the exit, then
the gate that lets nothing but the start pass before a session has started, and then the handlers.
Every request is answered; what its handler queued goes out before the answer.
-/

namespace SyntaxServer

/-! ### The state of a server -/

/-- Whether a session has started. -/
inductive Lifecycle where
  | uninitialized
  | initialized
  deriving DecidableEq, Repr

/-- What a server keeps between messages: its lifecycle, the requests that run, the notifications
that wait, and the state that handlers share. -/
structure ServerState (σ : Type) where
  lifecycle : Lifecycle
  registry : Registry Unit
  outbox : List Notification
  shared : σ

namespace ServerState

variable {σ : Type}

def start (shared : σ) : ServerState σ := ⟨.uninitialized, .empty, [], shared⟩

def queue (s : ServerState σ) (ns : List Notification) : ServerState σ :=
  { s with outbox := s.outbox ++ ns }

end ServerState

/-- What the server does after a message: it goes on, it ends, or it waits for a handler that never
ends. -/
inductive Control where
  | proceed
  | exit
  | stall
  deriving DecidableEq, Repr

/-- What becomes of a message: the state after it, the answer, what to do next, and the log. -/
structure Step (σ : Type) where
  state : ServerState σ
  response : Option Response
  control : Control
  log : List Log.Entry

/-- What becomes of a message, with the notifications to write before the answer. -/
structure Dispatched (σ : Type) extends Step σ where
  notifications : List Notification

/-- A router, and the time in milliseconds that its handlers have. -/
structure Dispatcher (σ : Type) where
  router : Router σ
  limit : Option Nat

/-! ### Log lines -/

namespace Log

def dispatch (level : Level) (message : String) (fields : Members) : Entry :=
  ⟨level, .dispatcher, message, fields⟩

def idField (id : RequestId) : String × Json := ("id", .string id.display)

def methodField (m : String) : String × Json := ("method", .string m)

end Log

open Log (dispatch idField methodField)

namespace Dispatcher

variable {σ : Type}

/-! ### The protocol's own methods -/

def cancel (s : ServerState σ) (params : Option Json) : ServerState σ × List Log.Entry :=
  match readParams CancelParams.read params with
  | .error e => (s, [dispatch .warn "Malformed $/cancelRequest" [("error", .string e.display)]])
  | .ok p =>
    let r := s.registry.cancel p.id
    let text := match r.1 with
      | .signalled _ => "Cancellation signalled"
      | .deferred => "Cancellation recorded for pending request"
      | .alreadyFinished => "Cancellation for finished request ignored"
    ({ s with registry := r.2 }, [dispatch .debug text [idField p.id]])

/-- Handles a method of the protocol itself. -/
def handleControl (s : ServerState σ) (m : ControlMethod) (params : Option Json) :
    ServerState σ × List Log.Entry :=
  match m with
  | .cancelRequest => cancel s params
  | .progress =>
    (s, [dispatch .debug "Dropping client $/progress" [("params", .string (Json.dumpOption params))]])

/-! ### The gate -/

/-- Where a request goes: to the protocol itself, to the end of the session, back because of the
lifecycle or because nobody handles it, or to a handler. -/
inductive Route (σ : Type) where
  | control (m : ControlMethod)
  | exit
  | tooEarly
  | startedBefore
  | unknown
  | handler (h : RequestHandler σ)

/-- A method starts a session. -/
def isStart (method : String) : Bool := Wire.ofName? Method method = some .start

/-- A method ends a session. -/
def isExit (method : String) : Bool := Wire.ofName? Method method = some .exit

/-- The gate: before the start nothing but the start passes, after it everything else. -/
def gate (l : Lifecycle) (method : String) (otherwise : Route σ) : Route σ :=
  match l with
  | .uninitialized => if isStart method then otherwise else .tooEarly
  | .initialized => if isStart method then .startedBefore else otherwise

def route (d : Dispatcher σ) (l : Lifecycle) (method : String) : Route σ :=
  match Wire.ofName? ControlMethod method with
  | some m => .control m
  | none =>
    if isExit method then .exit
    else
      gate l method
        (match d.router.requests.get? method with
        | some h => .handler h
        | none => .unknown)

/-! ### Requests -/

/-- The outcome of a call that ends, with the log before and after the request is finished; none
of a call that never ends. -/
def conclude (limit : Option Nat) (id : RequestId) (method : String) :
    CallEnd Json → Option (Except ResponseError Json × List Log.Entry × List Log.Entry)
  | .returned v => some (.ok v, [], [])
  | .failed e => some (.error e.toResponseError, [],
      [dispatch .warn "Request handler failed"
        [("error", .string e.display), idField id, methodField method]])
  | .panicked text => some
      (.error (.withText .internalError ("Handler panicked: " ++ panicText text)), [],
        [dispatch .warn "Request handler panicked"
          [idField id, methodField method, ("panic", .string (panicText text))]])
  | .stuck => limit.map fun ms =>
      let e := HandlerError.withText .requestFailed
        ("Request timed out after " ++ toString ms ++ "ms")
      (.error e.toResponseError,
        [dispatch .warn "Request timed out"
          [idField id, methodField method, ("timeout_ms", .ofNat ms)]],
        [dispatch .warn "Request handler failed"
          [("error", .string e.display), idField id, methodField method]])

/-- The lifecycle after a request: a start that is answered with a result starts the session. -/
def lifecycleAfter (l : Lifecycle) (method : String) (outcome : Except ResponseError Json) :
    Lifecycle :=
  match outcome with
  | .ok _ => if isStart method then .initialized else l
  | .error _ => l

/-- Runs the handler of a request that has been entered. -/
def invoke (d : Dispatcher σ) (s : ServerState σ) (r : Request) (h : RequestHandler σ) : Step σ :=
  let run := h ⟨r.id, false⟩ r.params s.shared
  let s := { s with shared := run.state }
  match conclude d.limit r.id r.method run.ending with
  | none => ⟨s, none, .stall, run.log⟩
  | some (outcome, before, after) =>
    let s := s.queue (Effect.queue run.effects)
    let registry := s.registry.finish r.id
    let lifecycle := lifecycleAfter s.lifecycle r.method outcome
    let started := if lifecycle = s.lifecycle then [] else [dispatch .info "Server initialized" []]
    ⟨{ s with registry := registry, lifecycle := lifecycle }, some ⟨r.id, outcome⟩, .proceed,
      run.log ++ before ++
        [dispatch .debug "Request finished" [idField r.id, ("in_flight", .ofNat registry.inFlight)]]
        ++ after ++ started⟩

/-- Enters a request and runs its handler, unless it was cancelled before it came. -/
def run (d : Dispatcher σ) (s : ServerState σ) (r : Request) (h : RequestHandler σ) : Step σ :=
  let e := s.registry.enter r.id ()
  if e.1 then
    ⟨{ s with registry := e.2.finish r.id }, some (.ofCode r.id .requestCancelled), .proceed,
      [dispatch .debug "Request cancelled before dispatch" [idField r.id, methodField r.method]]⟩
  else invoke d { s with registry := e.2 } r h

/-- Sends a request along its route. -/
def follow (d : Dispatcher σ) (s : ServerState σ) (r : Request) : Route σ → Step σ
  | .control m =>
    let c := handleControl s m r.params
    ⟨c.1, some (.success r.id .null), .proceed, c.2⟩
  | .exit =>
    ⟨s, some (.success r.id .null), .exit,
      [dispatch .info "Exit received as a request" [idField r.id]]⟩
  | .tooEarly =>
    ⟨s, some (.ofCode r.id .serverNotInitialized), .proceed,
      [dispatch .warn "Request before initialize" [idField r.id, methodField r.method]]⟩
  | .startedBefore =>
    ⟨s, some (.failure r.id (.withText .invalidRequest "Server is already initialized")), .proceed,
      [dispatch .warn "Duplicate initialize request" [idField r.id]]⟩
  | .unknown =>
    ⟨s, some (.failure r.id (.withText .methodNotFound ("Method not found: " ++ r.method))),
      .proceed, [dispatch .info "Method not found" [idField r.id, methodField r.method]]⟩
  | .handler h => run d s r h

def request (d : Dispatcher σ) (s : ServerState σ) (r : Request) : Step σ :=
  let step := follow d s r (d.route s.lifecycle r.method)
  { step with
    log := dispatch .debug "Dispatching request" [idField r.id, methodField r.method] :: step.log }

/-! ### Notifications and responses -/

/-- Handles a notification that reached its handler. One that never ends is waited for. -/
def notify (s : ServerState σ) (n : Notification) (h : NotificationHandler σ) : Step σ :=
  let run := h n.params s.shared
  let s := { s with shared := run.state }
  match run.ending with
  | .returned _ => ⟨s, none, .proceed, run.log⟩
  | .failed e => ⟨s, none, .proceed, run.log ++
      [dispatch .warn "Notification handler failed"
        [("error", .string e.display), methodField n.method]]⟩
  | .panicked text => ⟨s, none, .proceed, run.log ++
      [dispatch .warn "Notification handler panicked"
        [methodField n.method, ("panic", .string (panicText text))]]⟩
  | .stuck => ⟨s, none, .stall, run.log⟩

def notification (d : Dispatcher σ) (s : ServerState σ) (n : Notification) : Step σ :=
  match Wire.ofName? ControlMethod n.method with
  | some m =>
    let c := handleControl s m n.params
    ⟨c.1, none, .proceed, c.2⟩
  | none =>
    if isExit n.method then
      ⟨s, none, .exit, [dispatch .info "Exit notification received" []]⟩
    else if s.lifecycle = .uninitialized then
      ⟨s, none, .proceed,
        [dispatch .debug "Dropping notification before initialize" [methodField n.method]]⟩
    else
      match d.router.notifications.get? n.method with
      | some h => notify s n h
      | none => ⟨s, none, .proceed,
          [dispatch .info "Unhandled notification" [methodField n.method]]⟩

/-- Handles a message, without writing what waits. -/
def handle (d : Dispatcher σ) (s : ServerState σ) : Message → Step σ
  | .request r => d.request s r
  | .notification n => d.notification s n
  | .response r => ⟨s, none, .proceed, [dispatch .debug "Ignoring client response"
      [idField r.id, ("is_error", .bool r.isError)]]⟩

/-- Handles a message, and takes out the notifications that wait. -/
def dispatch (d : Dispatcher σ) (s : ServerState σ) (m : Message) : Dispatched σ :=
  let step := d.handle s m
  { step with
    state := { step.state with outbox := [] }
    notifications := step.state.outbox }

/-- What is logged about a dispatcher when it is made. -/
def registered (d : Dispatcher σ) : List Log.Entry :=
  [Log.dispatch .info "Registered handlers" [("methods",
    .string ("[" ++ ", ".intercalate (d.router.methods.map Text.quoted) ++ "]"))]]

end Dispatcher

end SyntaxServer

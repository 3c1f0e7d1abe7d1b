import SyntaxServer.Log.Entry
import SyntaxServer.Rpc.Message
import SyntaxServer.Syntax.Tree

/-!
Handlers: what a call of one comes to. A handler queues notifications, opens progresses and lets go
of them, changes the state that handlers share, and then returns, fails, panics or never ends.
-/

namespace SyntaxServer

/-! ### Failures -/

/-- Why a handler failed. -/
inductive HandlerError where
  | response (e : ResponseError)
  | cancelled
  | internal (message : String)
  deriving Repr

namespace HandlerError

def withText (c : ErrorCode) (text : String) : HandlerError := .response (.withText c text)

def ofAnalysis : AnalysisError → HandlerError
  | .cancelled => .cancelled
  | e => withText .requestFailed e.message

def display : HandlerError → String
  | .response e => e.display
  | .cancelled => "Request cancelled"
  | .internal message => message

/-- The error object that answers the request. -/
def toResponseError : HandlerError → ResponseError
  | .response e => e
  | .cancelled => .ofCode .requestCancelled
  | .internal message => .withText .internalError message

end HandlerError

/-- How a call ends. A panic has a text or none. -/
inductive CallEnd (α : Type) where
  | returned (a : α)
  | failed (e : HandlerError)
  | panicked (text : Option String)
  | stuck

def panicText (text : Option String) : String := text.getD "unknown panic payload"

/-! ### What a call does -/

/-- What a progress shows when it begins. -/
structure Opening where
  title : String
  cancellable : Option Bool
  message : Option String
  percentage : Option Nat
  deriving Repr

namespace Opening

def titled (title : String) : Opening := ⟨title, none, none, none⟩

def toJson (o : Opening) : Json :=
  .object (Members.optional "cancellable" (o.cancellable.map .bool) ++
    [("kind", .string "begin")] ++ Members.optional "message" (o.message.map .string) ++
    Members.optional "percentage" (o.percentage.map .ofNat) ++ [("title", .string o.title)])

end Opening

/-- What a handler does with the outbox: it queues a notification, opens a progress, or lets go of
one that it holds. -/
inductive Effect where
  | notify (n : Notification)
  | progress (token : RequestId) (opening : Opening)
  | release (token : RequestId)
  deriving Repr

namespace Effect

/-- The value that ends a progress. -/
def closing : Json := .object [("kind", .string "end")]

def ended (token : RequestId) : Notification := .progress token (some closing)

/-- What some effects queue while progresses are held, the one opened last first. A progress ends
when it is let go of. Those that are held when the handler ends, or is cut off, are let go of in
that order; a handler that drops them in another order does so itself, by its last effects. -/
def queueFrom : List RequestId → List Effect → List Notification
  | held, [] => held.map ended
  | held, .notify n :: es => n :: queueFrom held es
  | held, .progress token opening :: es =>
    .progress token (some opening.toJson) :: queueFrom (token :: held) es
  | held, .release token :: es =>
    if token ∈ held then ended token :: queueFrom (held.erase token) es else queueFrom held es

/-- Everything that a handler queues. -/
def queue (es : List Effect) : List Notification := queueFrom [] es

end Effect

/-- What a call leaves: the shared state, how it ended, and the log. -/
structure Run (σ α : Type) where
  state : σ
  ending : CallEnd α
  log : List Log.Entry

/-- What the call of a request leaves: also its effects. -/
structure RequestRun (σ : Type) extends Run σ Json where
  effects : List Effect

namespace RequestRun

variable {σ : Type}

def returns (s : σ) (v : Json) : RequestRun σ := ⟨⟨s, .returned v, []⟩, []⟩

def fails (s : σ) (e : HandlerError) : RequestRun σ := ⟨⟨s, .failed e, []⟩, []⟩

end RequestRun

/-- What a handler knows of its request. -/
structure Call where
  id : RequestId
  cancelled : Bool
  deriving Repr

/-- The handler of a request, on the shared state. -/
abbrev RequestHandler (σ : Type) := Call → Option Json → σ → RequestRun σ

/-- The handler of a notification, on the shared state. -/
abbrev NotificationHandler (σ : Type) := Option Json → σ → Run σ Unit

end SyntaxServer

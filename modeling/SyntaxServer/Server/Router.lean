import SyntaxServer.Server.Handler
import SyntaxServer.Table

/-!
Routers: the handlers of the methods, each with the payload it takes. Parameters that are not that
payload are answered as invalid, and the handler does not run.
-/

namespace SyntaxServer

/-- Handlers under the names of their methods. -/
structure Router (σ : Type) where
  requests : Table String (RequestHandler σ)
  notifications : Table String (NotificationHandler σ)

namespace Router

variable {σ α : Type}

def empty : Router σ := ⟨.empty, .empty⟩

/-- A handler of requests that takes a payload. -/
def requestHandler (read : Payload.Reader α) (h : Call → α → σ → RequestRun σ) :
    RequestHandler σ := fun call params s =>
  match readParams read params with
  | .ok a => h call a s
  | .error e => .fails s (.response e)

/-- A handler of notifications that takes a payload. -/
def notificationHandler (read : Payload.Reader α) (h : α → σ → Run σ Unit) :
    NotificationHandler σ := fun params s =>
  match readParams read params with
  | .ok a => h a s
  | .error e => ⟨s, .failed (.response e), []⟩

def onRequest (r : Router σ) (m : Method) (read : Payload.Reader α)
    (h : Call → α → σ → RequestRun σ) : Router σ :=
  { r with requests := r.requests.insert (wireName m) (requestHandler read h) }

def onNotification (r : Router σ) (m : Method) (read : Payload.Reader α)
    (h : α → σ → Run σ Unit) : Router σ :=
  { r with notifications := r.notifications.insert (wireName m) (notificationHandler read h) }

def methods (r : Router σ) : List String :=
  (r.requests.keys ++ r.notifications.keys).mergeSort fun a b => decide (a ≤ b)

end Router

end SyntaxServer

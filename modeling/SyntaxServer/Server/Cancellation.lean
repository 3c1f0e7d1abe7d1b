import SyntaxServer.Rpc.Message
import SyntaxServer.Table

/-!
Cancellation of requests. A registry knows the requests that run, each with a token, and two short
histories: of identifiers that were cancelled before their request came, and of identifiers whose
request is finished.
-/

namespace SyntaxServer

/-- How many identifiers a history holds. -/
def historySize : Nat := 64

/-- Adds an identifier to a history; the oldest one gives way if it is full. -/
def remember (history : List RequestId) (id : RequestId) : List RequestId :=
  (if history.length = historySize then history.drop 1 else history) ++ [id]

/-- What a cancellation came to: the request runs and its token is to be cancelled, it has not
come yet, or it is finished. -/
inductive CancelOutcome (τ : Type) where
  | signalled (token : τ)
  | deferred
  | alreadyFinished
  deriving DecidableEq, Repr

/-- The requests that run, with their tokens, and the two histories. -/
structure Registry (τ : Type) where
  active : Table RequestId τ
  early : List RequestId
  finished : List RequestId
  deriving Repr

namespace Registry

variable {τ : Type}

def empty : Registry τ := ⟨.empty, [], []⟩

/-- Enters a request with its token. The answer says whether the request was cancelled before it
came; that cancellation is used up. -/
def enter (r : Registry τ) (id : RequestId) (token : τ) : Bool × Registry τ :=
  (r.early.contains id, { r with active := r.active.insert id token, early := r.early.erase id })

/-- Takes a request out, and remembers it as finished. -/
def finish (r : Registry τ) (id : RequestId) : Registry τ :=
  { r with active := r.active.erase id, finished := remember r.finished id }

def cancel (r : Registry τ) (id : RequestId) : CancelOutcome τ × Registry τ :=
  match r.active.get? id with
  | some token => (.signalled token, r)
  | none =>
    if r.finished.contains id then (.alreadyFinished, r)
    else (.deferred, { r with early := remember r.early id })

def inFlight (r : Registry τ) : Nat := r.active.size

theorem length_remember {h : List RequestId} (hh : h.length ≤ historySize) (id : RequestId) :
    (remember h id).length ≤ historySize := by
  unfold remember historySize at *
  split <;> simp <;> omega

end Registry

/-! ### Tokens -/

/-- A registry with the tokens it gave out: the request with the token `k` was cancelled if the
`k`-th flag is set. -/
structure TokenBoard where
  registry : Registry Nat
  cancelled : List Bool
  deriving Repr

namespace TokenBoard

def empty : TokenBoard := ⟨.empty, []⟩

/-- Enters a request under the next token. -/
def enter (b : TokenBoard) (id : RequestId) : TokenBoard :=
  let r := b.registry.enter id b.cancelled.length
  ⟨r.2, b.cancelled ++ [r.1]⟩

def finish (b : TokenBoard) (id : RequestId) : TokenBoard :=
  { b with registry := b.registry.finish id }

/-- Cancels a request, and its token if it runs. -/
def cancel (b : TokenBoard) (id : RequestId) : CancelOutcome Nat × TokenBoard :=
  let r := b.registry.cancel id
  match r.1 with
  | .signalled k => (r.1, ⟨r.2, b.cancelled.set k true⟩)
  | _ => (r.1, { b with registry := r.2 })

end TokenBoard

end SyntaxServer

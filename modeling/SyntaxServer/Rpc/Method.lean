/-!
Names on the wire: the methods of the protocol itself and those that have handlers.
-/

namespace SyntaxServer

/-- A type whose values have names on the wire. -/
class Wire (α : Type) where
  /-- Every value, in order. -/
  all : List α
  /-- The name of a value. -/
  wireName : α → String

export Wire (wireName)

def Wire.ofName? (α : Type) [Wire α] (name : String) : Option α :=
  (Wire.all : List α).find? (wireName · = name)

/-- Methods that the protocol itself handles, before every handler. -/
inductive ControlMethod where
  | cancelRequest
  | progress
  deriving DecidableEq, Repr

instance : Wire ControlMethod where
  all := [.cancelRequest, .progress]
  wireName
    | .cancelRequest => "$/cancelRequest"
    | .progress => "$/progress"

/-- Methods that may have handlers. -/
inductive Method where
  | start
  | started
  | shutdown
  | exit
  | didOpen
  | didChange
  | didClose
  | hover
  deriving DecidableEq, Repr

instance : Wire Method where
  all := [.start, .started, .shutdown, .exit, .didOpen, .didChange, .didClose, .hover]
  wireName
    | .start => "initialize"
    | .started => "initialized"
    | .shutdown => "shutdown"
    | .exit => "exit"
    | .didOpen => "textDocument/didOpen"
    | .didChange => "textDocument/didChange"
    | .didClose => "textDocument/didClose"
    | .hover => "textDocument/hover"

end SyntaxServer

import SyntaxServer.Json.Value

/-!
Log lines: how grave they are, which part of the server writes them, and what they say.
-/

namespace SyntaxServer.Log

/-- How grave a line is. -/
inductive Level where
  | error
  | warn
  | info
  | debug
  | trace
  deriving DecidableEq, Repr

namespace Level

def all : List Level := [.error, .warn, .info, .debug, .trace]

def name : Level → String
  | .error => "ERROR"
  | .warn => "WARN"
  | .info => "INFO"
  | .debug => "DEBUG"
  | .trace => "TRACE"

/-- The rank of a level: one for the gravest. -/
def rank : Level → Nat
  | .error => 1
  | .warn => 2
  | .info => 3
  | .debug => 4
  | .trace => 5

end Level

/-- The parts of the server that write lines. -/
inductive Component where
  | server
  | dispatcher
  | backend
  | documents
  | transport
  deriving DecidableEq, Repr

/-- The path under which filters know a part. -/
def Component.path : Component → String
  | .server => "dedukt_lsp::lsp::server"
  | .dispatcher => "dedukt_lsp::lsp::dispatcher"
  | .backend => "dedukt_lsp::lsp::backend"
  | .documents => "dedukt_lsp::analysis::document"
  | .transport => "dedukt_lsp::rpc::transport"

structure Entry where
  level : Level
  component : Component
  message : String
  fields : Members
  deriving Repr

/-- The names of the fields of a line; its message is one of them. -/
def Entry.fieldNames (e : Entry) : List String := "message" :: e.fields.map (·.1)

def Entry.toJson (e : Entry) : Json :=
  .object [("level", .string e.level.name),
    ("fields", .object (("message", .string e.message) :: e.fields)),
    ("target", .string e.component.path)]

end SyntaxServer.Log

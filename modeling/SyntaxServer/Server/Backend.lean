import SyntaxServer.Document
import SyntaxServer.Payload.Documents
import SyntaxServer.Payload.Lifecycle
import SyntaxServer.Server.Dispatch
import SyntaxServer.Syntax.Hover

/-!
The server's own handlers: the start and the end of a session, the open documents, and hovers. The
state that they share is the store of documents.
-/

namespace SyntaxServer.Backend

/-! ### What is given -/

/-- How the task of an analysis fares: it comes to its end, it is lost, or nothing comes of it for
as long as the server waits. -/
inductive Analysis where
  | done
  | lost (cause : String)
  | pending

/-- What the handlers do not decide: the grammars, which records of a client's capabilities are
well formed, and how the analysis for a hover on a document fares. -/
structure Outside where
  grammars : Grammars
  capabilities : String → Payload.Reader Unit
  analysis : HoverParams → Document → Analysis

/-- Grammars alone: all records are well formed, and all analyses come to their ends. -/
def Outside.ofGrammars (grammars : Grammars) : Outside :=
  ⟨grammars, ClientCapabilities.anyRecord, fun _ _ => .done⟩

def line (level : Log.Level) (message : String) (fields : Members) : Log.Entry :=
  ⟨level, .backend, message, fields⟩

def uriField (u : Url) : String × Json := ("uri", .string u.text)

/-! ### The session -/

/-- What the server can do: hovers, and documents that are sent whole. -/
def capabilities : Json := .object [("hoverProvider", .bool true), ("textDocumentSync", .ofNat 1)]

def serverName : String := "dedukt-lsp"

def serverVersion : String := "0.1.0"

/-- What the start is answered. -/
def greeting : Json :=
  .object [("capabilities", capabilities),
    ("serverInfo", .object [("name", .string serverName), ("version", .string serverVersion)])]

def start (_ : Call) (p : StartParams) (s : Documents) : RequestRun Documents :=
  let client := (p.client.map (·.name)).getD "unknown"
  { RequestRun.returns s greeting with
    log := [line .info "LSP server initializing" [("client", .string client)]] }

/-- Notes that the client is ready. -/
def started (_ : Unit) (s : Documents) : Run Documents Unit :=
  ⟨s, .returned (), [line .info "Client finished initialization" []]⟩

def shutdown (_ : Call) (_ : Unit) (s : Documents) : RequestRun Documents :=
  { RequestRun.returns s .null with log := [line .info "Shutdown requested" []] }

/-! ### Documents -/

def opened (d : Document) (s : Documents) : Run Documents Unit :=
  ⟨s.put d, .returned (), [⟨.debug, .documents, "Document opened",
    [uriField d.uri, ("version", .ofInt d.version)]⟩]⟩

/-- Changes a document: the last text counts. -/
def changed (p : ChangeParams) (s : Documents) : Run Documents Unit :=
  match p.texts.getLast? with
  | none => ⟨s, .returned (),
      [line .debug "didChange without content changes" [uriField p.document.uri]]⟩
  | some text =>
    match s.replace? p.document.uri p.document.version text with
    | some s => ⟨s, .returned (), []⟩
    | none => ⟨s, .returned (),
        [line .warn "didChange for a document that is not open" [uriField p.document.uri]]⟩

def closed (u : Url) (s : Documents) : Run Documents Unit :=
  match s.close? u with
  | some (_, s) => ⟨s, .returned (), []⟩
  | none =>
    ⟨s, .returned (), [line .warn "didClose for a document that is not open" [uriField u]]⟩

/-! ### Hovers -/

def progressTitle : String := "Analyzing syntax"

/-- The value of a hover, null for none. -/
def hoverValue (h : Option Hover) : Json := Json.ofOption (h.map Hover.toJson)

def hoverEnd : Except AnalysisError (Option Hover) → CallEnd Json
  | .ok h => .returned (hoverValue h)
  | .error e => .failed (.ofAnalysis e)

def found : Except AnalysisError (Option Hover) → Bool
  | .ok (some _) => true
  | _ => false

/-- Answers a hover request, under a progress if the client asks for one. -/
def hover (o : Outside) (call : Call) (p : HoverParams) (s : Documents) : RequestRun Documents :=
  match s.get? p.uri with
  | none =>
    { RequestRun.returns s .null with
      log := [line .debug "Hover on a document that is not open" [uriField p.uri]] }
  | some d =>
    let effects := (p.token.map fun t => Effect.progress t (.titled progressTitle)).toList
    match o.analysis p d with
    | .done =>
      let r := Hover.at? o.grammars d.languageId d.uri.text d.text p.position call.cancelled
      { state := s
        ending := hoverEnd r
        log := [line .debug "Hover analysed"
          [("found", .bool (found r)), ("id", .string call.id.display), uriField p.uri]]
        effects := effects }
    | .lost cause => { RequestRun.fails s (.internal cause) with effects := effects }
    | .pending => ⟨⟨s, .stuck, []⟩, effects⟩

/-! ### All of them -/

/-- The handlers of the server. -/
def routerOf (o : Outside) : Router Documents :=
  Router.empty
    |>.onRequest .start (StartParams.read o.capabilities) start
    |>.onNotification .started readStarted started
    |>.onRequest .shutdown Payload.unit shutdown
    |>.onNotification .didOpen readOpening opened
    |>.onNotification .didChange ChangeParams.read changed
    |>.onNotification .didClose readClosing closed
    |>.onRequest .hover HoverParams.read (hover o)

def server (o : Outside) (limit : Option Nat) : Dispatcher Documents := ⟨routerOf o, limit⟩

/-- The handlers of the server, with nothing but grammars given. -/
abbrev router (grammars : Grammars) : Router Documents := routerOf (.ofGrammars grammars)

/-- The server's dispatcher, with nothing but grammars given. -/
abbrev dispatcher (grammars : Grammars) (limit : Option Nat) : Dispatcher Documents :=
  server (.ofGrammars grammars) limit

end SyntaxServer.Backend

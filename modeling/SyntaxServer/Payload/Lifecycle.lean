import SyntaxServer.Payload.Basic

/-!
Payloads of the methods that start a session. Of the start request only the client's name is kept.
Its other fields are checked; which records of the client's capabilities are well formed is not
said here, but given.
-/

namespace SyntaxServer

open Payload (Field Shape)

/-! ### The client -/

/-- The client's name and version. -/
structure ClientInfo where
  name : String
  version : Option String
  deriving DecidableEq, Repr

namespace ClientInfo

def shape : Shape := ⟨"ClientInfo", [.plain "name", .plain "version"]⟩

/-- A record of which some fields are read. -/
structure Partial where
  name : Option String
  version : Option String

def visit (name : String) (v : Json) (p : Partial) : Except PayloadError Partial :=
  match name with
  | "name" => (Payload.string v).map fun s => { p with name := some s }
  | "version" => (Payload.optional Payload.string v).map fun s => { p with version := s }
  | _ => .ok p

def read : Payload.Reader ClientInfo :=
  Payload.record visit shape .counted ⟨none, none⟩ fun p => do
    return ⟨← Payload.required "name" p.name, p.version⟩

end ClientInfo

namespace ClientCapabilities

def shape : Shape :=
  ⟨"ClientCapabilities", [.plain "workspace", .plain "textDocument", .plain "window",
    .plain "general", .plain "experimental"]⟩

/-- The record in a field, as messages call it. -/
def partTitle? (name : String) : Option String :=
  match name with
  | "workspace" => some "struct WorkspaceClientCapabilities"
  | "textDocument" => some "struct TextDocumentClientCapabilities"
  | "window" => some "struct WindowClientCapabilities"
  | "general" => some "struct GeneralClientCapabilities"
  | _ => none

/-- Accepts any record. -/
def anyRecord (title : String) : Payload.Reader Unit
  | .object _ => .ok ()
  | .array _ => .ok ()
  | v => .error (.kind v title)

section Records

-- the readers of the records, by their titles
variable (records : String → Payload.Reader Unit)

/-- Checks one field: a record or null. -/
def visit (name : String) (v : Json) (_ : Unit) : Except PayloadError Unit :=
  match partTitle? name with
  | none => .ok ()
  | some title => (Payload.optional (records title) v).map fun _ => ()

/-- Checks the capabilities; the server needs none of them. -/
def read : Payload.Reader Unit := Payload.record (visit records) shape .counted () .ok

end Records

end ClientCapabilities

namespace WorkspaceFolder

def shape : Shape := ⟨"WorkspaceFolder", [.plain "uri", .plain "name"]⟩

/-- Checks one field, and notes that it is there. -/
def visit (name : String) (v : Json) (p : Bool × Bool) : Except PayloadError (Bool × Bool) :=
  match name with
  | "uri" => (Payload.url v).map fun _ => (true, p.2)
  | "name" => (Payload.string v).map fun _ => (p.1, true)
  | _ => .ok p

def read : Payload.Reader Unit :=
  Payload.record visit shape .counted (false, false) fun p =>
    if ¬ p.1 then .error (.missing "uri")
    else if ¬ p.2 then .error (.missing "name")
    else .ok ()

end WorkspaceFolder

/-! ### The start request -/

/-- The payload of the start request. -/
structure StartParams where
  client : Option ClientInfo
  deriving DecidableEq, Repr

namespace StartParams

def shape : Shape :=
  ⟨"InitializeParams", [.plain "processId", .plain "rootPath", .trailing "rootUri",
    .plain "initializationOptions", .plain "capabilities", .trailing "trace",
    .plain "workspaceFolders", .plain "clientInfo", .plain "locale"]⟩

/-- The levels at which a client may trace. -/
def traceLevels : List String := ["off", "messages", "verbose"]

structure Partial where
  hasCapabilities : Bool
  client : Option ClientInfo

section Records

variable (records : String → Payload.Reader Unit)

def visit (name : String) (v : Json) (p : Partial) : Except PayloadError Partial :=
  match name with
  | "processId" => (Payload.optional Payload.nat32 v).map fun _ => p
  | "rootPath" => (Payload.optional Payload.string v).map fun _ => p
  | "rootUri" => (Payload.optional Payload.url v).map fun _ => p
  | "capabilities" =>
    (ClientCapabilities.read records v).map fun _ => { p with hasCapabilities := true }
  | "trace" => (Payload.optional (Payload.nameOf traceLevels) v).map fun _ => p
  | "workspaceFolders" =>
    (Payload.optional (Payload.list WorkspaceFolder.read) v).map fun _ => p
  | "clientInfo" => (Payload.optional ClientInfo.read v).map fun c => { p with client := c }
  | "locale" => (Payload.optional Payload.string v).map fun _ => p
  | _ => .ok p

def read : Payload.Reader StartParams :=
  Payload.record (visit records) shape .counted ⟨false, none⟩ fun p =>
    if p.hasCapabilities then .ok ⟨p.client⟩ else .error (.missing "capabilities")

end Records

end StartParams

/-- Checks the payload of the notification after the start: a record without fields, or null. -/
def readStarted : Payload.Reader Unit := fun v =>
  (Payload.optional (Payload.record (fun _ _ _ => .ok ()) ⟨"InitializedParams", []⟩ .counted ()
    Except.ok) v).map fun _ => ()

end SyntaxServer

import SyntaxServer.Document
import SyntaxServer.Payload.Basic
import SyntaxServer.Rpc.Message
import SyntaxServer.Syntax.Position

/-!
Payloads of the methods about documents.
-/

namespace SyntaxServer

open Payload (Shape)

/-! ### Opening -/

namespace Document

def shape : Shape :=
  ⟨"TextDocumentItem", [.plain "uri", .plain "languageId", .plain "version", .plain "text"]⟩

/-- A document of which some fields are read. -/
structure Partial where
  uri : Option Url
  languageId : Option String
  version : Option Int
  text : Option String

def visit (name : String) (v : Json) (p : Partial) : Except PayloadError Partial :=
  match name with
  | "uri" => (Payload.url v).map fun u => { p with uri := some u }
  | "languageId" => (Payload.string v).map fun s => { p with languageId := some s }
  | "version" => (Payload.int32 v).map fun n => { p with version := some n }
  | "text" => (Payload.string v).map fun s => { p with text := some s }
  | _ => .ok p

def read : Payload.Reader Document :=
  Payload.record visit shape .counted ⟨none, none, none, none⟩ fun p => do
    let uri ← Payload.required "uri" p.uri
    let languageId ← Payload.required "languageId" p.languageId
    let version ← Payload.required "version" p.version
    let text ← Payload.required "text" p.text
    return ⟨uri, languageId, version, text⟩

end Document

/-- A record with one field, `textDocument`. -/
def readTextDocument {α : Type} (title : String) (read : Payload.Reader α) : Payload.Reader α :=
  Payload.record
    (fun name v p => match name with
      | "textDocument" => (read v).map some
      | _ => .ok p)
    ⟨title, [.plain "textDocument"]⟩ .counted none (Payload.required "textDocument")

def readOpening : Payload.Reader Document :=
  readTextDocument "DidOpenTextDocumentParams" Document.read

/-! ### Addresses -/

/-- Reads a record with an address. -/
def readAddress (u : Payload.Surplus) : Payload.Reader Url :=
  Payload.record
    (fun name v p => match name with
      | "uri" => (Payload.url v).map some
      | _ => .ok p)
    ⟨"TextDocumentIdentifier", [.plain "uri"]⟩ u none (Payload.required "uri")

def readClosing : Payload.Reader Url :=
  readTextDocument "DidCloseTextDocumentParams" (readAddress .counted)

/-! ### Positions -/

namespace Position

def shape : Shape := ⟨"Position", [.plain "line", .plain "character"]⟩

def visit (name : String) (v : Json) (p : Option Nat × Option Nat) :
    Except PayloadError (Option Nat × Option Nat) :=
  match name with
  | "line" => (Payload.nat32 v).map fun n => (some n, p.2)
  | "character" => (Payload.nat32 v).map fun n => (p.1, some n)
  | _ => .ok p

def read (u : Payload.Surplus) : Payload.Reader Position :=
  Payload.record visit shape u (none, none) fun p => do
    return ⟨← Payload.required "line" p.1, ← Payload.required "character" p.2⟩

end Position

namespace Range

def shape : Shape := ⟨"Range", [.plain "start", .plain "end"]⟩

def visit (name : String) (v : Json) (p : Option Position × Option Position) :
    Except PayloadError (Option Position × Option Position) :=
  match name with
  | "start" => (Position.read .counted v).map fun q => (some q, p.2)
  | "end" => (Position.read .counted v).map fun q => (p.1, some q)
  | _ => .ok p

def read : Payload.Reader Range :=
  Payload.record visit shape .counted (none, none) fun p => do
    return ⟨← Payload.required "start" p.1, ← Payload.required "end" p.2⟩

end Range

/-! ### Changes -/

/-- A document and its new version. -/
structure VersionedAddress where
  uri : Url
  version : Int
  deriving DecidableEq, Repr

namespace VersionedAddress

def shape : Shape := ⟨"VersionedTextDocumentIdentifier", [.plain "uri", .plain "version"]⟩

def visit (name : String) (v : Json) (p : Option Url × Option Int) :
    Except PayloadError (Option Url × Option Int) :=
  match name with
  | "uri" => (Payload.url v).map fun u => (some u, p.2)
  | "version" => (Payload.int32 v).map fun n => (p.1, some n)
  | _ => .ok p

def read : Payload.Reader VersionedAddress :=
  Payload.record visit shape .counted (none, none) fun p => do
    return ⟨← Payload.required "uri" p.1, ← Payload.required "version" p.2⟩

end VersionedAddress

namespace Change

def shape : Shape :=
  ⟨"TextDocumentContentChangeEvent", [.plain "range", .plain "rangeLength", .plain "text"]⟩

/-- Reads one field; only the text is kept. -/
def visit (name : String) (v : Json) (p : Option String) : Except PayloadError (Option String) :=
  match name with
  | "range" => (Payload.optional Range.read v).map fun _ => p
  | "rangeLength" => (Payload.optional Payload.nat32 v).map fun _ => p
  | "text" => (Payload.string v).map some
  | _ => .ok p

def read : Payload.Reader String :=
  Payload.record visit shape .counted none (Payload.required "text")

end Change

/-- The payload of a change: a document, its new version, and texts, of which the last one
counts. -/
structure ChangeParams where
  document : VersionedAddress
  texts : List String
  deriving DecidableEq, Repr

namespace ChangeParams

def shape : Shape :=
  ⟨"DidChangeTextDocumentParams", [.plain "textDocument", .plain "contentChanges"]⟩

def visit (name : String) (v : Json) (p : Option VersionedAddress × Option (List String)) :
    Except PayloadError (Option VersionedAddress × Option (List String)) :=
  match name with
  | "textDocument" => (VersionedAddress.read v).map fun d => (some d, p.2)
  | "contentChanges" => (Payload.list Change.read v).map fun ts => (p.1, some ts)
  | _ => .ok p

def read : Payload.Reader ChangeParams :=
  Payload.record visit shape .counted (none, none) fun p => do
    return ⟨← Payload.required "textDocument" p.1, ← Payload.required "contentChanges" p.2⟩

end ChangeParams

/-! ### Hovers -/

/-- Reads a progress token: an integer of 32 bits, or a string. -/
def readToken : Payload.Reader RequestId
  | .number (.integer n) =>
    if Width.int32.holds n then .ok (.number n) else .error (.noVariant "NumberOrString")
  | .string s => .ok (.text s)
  | _ => .error (.noVariant "NumberOrString")

/-- The payload of a hover request. -/
structure HoverParams where
  uri : Url
  position : Position
  token : Option RequestId
  deriving DecidableEq, Repr

namespace HoverParams

/-- Reads a member that is there. -/
def member? {α : Type} (ms : Members) (name : String) (read : Payload.Reader α) :
    Except PayloadError (Option α) :=
  match ms.get? name with
  | some v => (read v).map some
  | none => .ok none

/-- Reads the payload: an object only. The position and the document come first, in the order of
their names, then those of them that are missing, in their declared order, then the token. -/
def read : Payload.Reader HoverParams
  | .object ms => do
    let position ← member? ms "position" (Position.read .taken)
    let uri ← member? ms "textDocument" (readAddress .taken)
    let uri ← Payload.required "textDocument" uri
    let position ← Payload.required "position" position
    let token ← member? ms "workDoneToken" (Payload.optional readToken)
    return ⟨uri, position, token.join⟩
  | v => .error (.kind v "struct HoverParams")

end HoverParams

end SyntaxServer

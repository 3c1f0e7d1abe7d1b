import SyntaxServer.Number.Width
import SyntaxServer.Rpc.ErrorCode
import SyntaxServer.Rpc.Method

/-!
Messages: requests, notifications and responses, and the values in which they are written.
-/

namespace SyntaxServer

def protocolVersion : String := "2.0"

/-! ### Identifiers -/

/-- What identifies a request; progress tokens have the same two forms. -/
inductive RequestId where
  | number (n : Int)
  | text (s : String)
  deriving DecidableEq, Repr

namespace RequestId

def display : RequestId → String
  | .number n => toString n
  | .text s => s

def toJson : RequestId → Json
  | .number n => .ofInt n
  | .text s => .string s

/-- The identifier of a value: an integer of 64 bits with a sign, or a string. -/
def ofJson? : Json → Option RequestId
  | .number (.integer n) => if Width.int64.holds n then some (.number n) else none
  | .string s => some (.text s)
  | _ => none

def read : Payload.Reader RequestId := fun v =>
  match ofJson? v with
  | some id => .ok id
  | none => .error (.noVariant "RequestId")

end RequestId

/-! ### Messages -/

/-- A call that is answered. Absent parameters differ from null. -/
structure Request where
  id : RequestId
  method : String
  params : Option Json
  deriving Repr

/-- A call that is not answered. -/
structure Notification where
  method : String
  params : Option Json
  deriving Repr

/-- An answer: a result or an error, never both. -/
structure Response where
  id : RequestId
  outcome : Except ResponseError Json

inductive Message where
  | request (r : Request)
  | notification (n : Notification)
  | response (r : Response)

namespace Request

def toJson (r : Request) : Json :=
  .object ([("jsonrpc", .string protocolVersion), ("id", r.id.toJson),
    ("method", .string r.method)] ++ Members.optional "params" r.params)

end Request

namespace Notification

def toJson (n : Notification) : Json :=
  .object ([("jsonrpc", .string protocolVersion), ("method", .string n.method)] ++
    Members.optional "params" n.params)

def cancel (id : RequestId) : Notification :=
  ⟨wireName ControlMethod.cancelRequest, some (.object [("id", id.toJson)])⟩

def progress (token : RequestId) (value : Option Json) : Notification :=
  ⟨wireName ControlMethod.progress,
    some (.object ([("token", token.toJson)] ++ Members.optional "value" value))⟩

end Notification

namespace Response

def success (id : RequestId) (result : Json) : Response := ⟨id, .ok result⟩

def failure (id : RequestId) (e : ResponseError) : Response := ⟨id, .error e⟩

def ofCode (id : RequestId) (c : ErrorCode) : Response := failure id (.ofCode c)

def isError (r : Response) : Bool :=
  match r.outcome with
  | .ok _ => false
  | .error _ => true

/-- The answer as a value. The member that it does not use is null. -/
def toJson (r : Response) : Json :=
  let (result, error) := match r.outcome with
    | .ok v => (v, Json.null)
    | .error e => (Json.null, e.toJson)
  .object [("jsonrpc", .string protocolVersion), ("id", r.id.toJson), ("result", result),
    ("error", error)]

end Response

def Message.toJson : Message → Json
  | .request r => r.toJson
  | .notification n => n.toJson
  | .response r => r.toJson

/-- The body of a value: the bytes of its text. -/
def Json.body (v : Json) : List UInt8 := Utf8.ofString v.text

/-! ### Payloads of the protocol's own methods -/

structure CancelParams where
  id : RequestId
  deriving DecidableEq, Repr

namespace CancelParams

def shape : Payload.Shape := ⟨"CancelParams", [.plain "id"]⟩

def visit (name : String) (v : Json) (p : Option RequestId) :
    Except PayloadError (Option RequestId) :=
  match name with
  | "id" => (RequestId.read v).map some
  | _ => .ok p

def read : Payload.Reader CancelParams :=
  Payload.record visit shape .counted none fun p => do return ⟨← Payload.required "id" p⟩

def toJson (p : CancelParams) : Json := .object [("id", p.id.toJson)]

end CancelParams

structure ProgressParams where
  token : RequestId
  value : Option Json
  deriving Repr

namespace ProgressParams

def shape : Payload.Shape := ⟨"ProgressParams", [.plain "token", .trailing "value"]⟩

/-- A payload of which some fields are read. -/
structure Partial where
  token : Option RequestId
  value : Option Json

def visit (name : String) (v : Json) (p : Partial) : Except PayloadError Partial :=
  match name with
  | "token" => (RequestId.read v).map fun t => { p with token := some t }
  | "value" => .ok { p with value := v.nonNull? }
  | _ => .ok p

/-- Reads the payload. A null value is an absent one. -/
def read : Payload.Reader ProgressParams :=
  Payload.record visit shape .counted ⟨none, none⟩ fun p => do
    return ⟨← Payload.required "token" p.token, p.value⟩

def toJson (p : ProgressParams) : Json :=
  .object ([("token", p.token.toJson)] ++ Members.optional "value" p.value)

end ProgressParams

/-- Reads the payload of parameters; absent parameters are null. A payload that does not fit is an
error of invalid parameters. -/
def readParams {α : Type} (read : Payload.Reader α) (params : Option Json) :
    Except ResponseError α :=
  (read (Json.ofOption params)).mapError fun e =>
    .withText .invalidParams ("Invalid params: " ++ e.message)

end SyntaxServer

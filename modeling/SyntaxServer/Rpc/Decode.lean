import SyntaxServer.Json.Parser
import SyntaxServer.Rpc.Message

/-!
Reading messages. The members of an object decide its kind: an identifier and a method make
a request, a method alone a notification, an identifier with a result or an error a response.
A body that is no message keeps its identifier, if that is a valid one, so that it can be answered.
-/

namespace SyntaxServer

/-- Why a JSON value is no message. -/
inductive MessageFault where
  | notObject
  | badId
  | badVersion (found : Json)
  | noVersion
  | badMethod
  | noMethod
  | noId
  | badError (cause : PayloadError)
  | resultAndError
  deriving Repr

def MessageFault.message : MessageFault → String
  | .notObject => "message must be a JSON object"
  | .badId => "id must be an integer or a string"
  | .badVersion v => "unsupported jsonrpc version " ++ v.text
  | .noVersion => "missing jsonrpc version tag"
  | .badMethod => "method must be a string"
  | .noMethod => "missing method"
  | .noId => "response without id"
  | .badError cause => "malformed error object: " ++ cause.message
  | .resultAndError => "response carries both result and error"

/-- Why a body is no message, with the identifier that could be read. -/
inductive DecodeError where
  | notJson
  | invalid (id : Option RequestId) (fault : MessageFault)
  deriving Repr

namespace DecodeError

def message : DecodeError → String
  | .notJson => "Body is not valid JSON: "
  | .invalid _ fault => "Invalid message: " ++ fault.message

def code : DecodeError → ErrorCode
  | .notJson => .parseError
  | .invalid .. => .invalidRequest

def id? : DecodeError → Option RequestId
  | .notJson => none
  | .invalid id _ => id

/-- The answer that the sender is owed. -/
def response? (e : DecodeError) : Option Response :=
  e.id?.map fun id => .failure id (.withText e.code e.message)

end DecodeError

namespace Message

def readId (ms : Members) : Except DecodeError (Option RequestId) :=
  match ms.get? "id" with
  | none => .ok none
  | some v =>
    match RequestId.ofJson? v with
    | some id => .ok (some id)
    | none => .error (.invalid none .badId)

def checkVersion (ms : Members) : Except MessageFault Unit :=
  match ms.get? "jsonrpc" with
  | some (.string s) => if s = protocolVersion then .ok () else .error (.badVersion (.string s))
  | some v => .error (.badVersion v)
  | none => .error .noVersion

/-- The outcome of a response; a member that is null counts as the unused one. -/
def outcomeOf (result error : Json) : Except MessageFault (Except ResponseError Json) :=
  match result, error with
  | result, .null => .ok (.ok result)
  | .null, error =>
    match ResponseError.read error with
    | .ok e => .ok (.error e)
    | .error cause => .error (.badError cause)
  | _, _ => .error .resultAndError

def responseOf (id : Option RequestId) (ms : Members) : Except MessageFault Message :=
  match ms.get? "result", ms.get? "error", id with
  | none, none, _ => .error .noMethod
  | _, _, none => .error .noId
  | result, error, some id =>
    (outcomeOf (Json.ofOption result) (Json.ofOption error)).map fun o => .response ⟨id, o⟩

/-- Reads a message of its members, the identifier apart. -/
def bodyOf (id : Option RequestId) (ms : Members) : Except MessageFault Message :=
  match ms.get? "method", id with
  | some (.string method), some id => .ok (.request ⟨id, method, ms.get? "params"⟩)
  | some (.string method), none => .ok (.notification ⟨method, ms.get? "params"⟩)
  | some _, _ => .error .badMethod
  | none, id => responseOf id ms

def ofMembers (ms : Members) : Except DecodeError Message := do
  let id ← readId ms
  ((checkVersion ms).bind fun _ => bodyOf id ms).mapError (.invalid id)

def ofJson : Json → Except DecodeError Message
  | .object ms => ofMembers ms
  | _ => .error (.invalid none .notObject)

def decode (body : List UInt8) : Except DecodeError Message :=
  match Json.ofBytes? body with
  | none => .error .notJson
  | some v => ofJson v

end Message

end SyntaxServer

import SyntaxServer.Payload.Basic

/-!
Error codes: the table of the reserved ranges, the codes an application may use, and the error
object of a response.
-/

namespace SyntaxServer

/-! ### Reserved ranges -/

/-- A code in a range of the protocols: of calls in general, or of language servers. -/
def isReservedCode (code : Int) : Bool :=
  (-32768 ≤ code && code ≤ -32000) || (-32899 ≤ code && code ≤ -32800)

/-- A code outside every reserved range. -/
structure ApplicationCode where
  code : Int
  free : isReservedCode code = false
  deriving DecidableEq, Repr

namespace ApplicationCode

def ofInt? (code : Int) : Option ApplicationCode :=
  if h : isReservedCode code = false then some ⟨code, h⟩ else none

/-- What is said of a reserved number where an application code must be. -/
def refusal : String := "error code lies inside a reserved JSON-RPC or LSP range"

/-- The application code of a number where one must be; a reserved number is refused. -/
def ofInt (code : Int) : Except String ApplicationCode :=
  match ofInt? code with
  | some c => .ok c
  | none => .error refusal

end ApplicationCode

/-! ### The table -/

/-- An error code: one of the table, or an application's own. -/
inductive ErrorCode where
  | parseError
  | invalidRequest
  | methodNotFound
  | invalidParams
  | internalError
  | serverNotInitialized
  | unknownErrorCode
  | requestFailed
  | serverCancelled
  | contentModified
  | requestCancelled
  | application (code : ApplicationCode)
  deriving DecidableEq, Repr

namespace ErrorCode

def reserved : List ErrorCode :=
  [.parseError, .invalidRequest, .methodNotFound, .invalidParams, .internalError,
    .serverNotInitialized, .unknownErrorCode, .requestFailed, .serverCancelled, .contentModified,
    .requestCancelled]

def code : ErrorCode → Int
  | .parseError => -32700
  | .invalidRequest => -32600
  | .methodNotFound => -32601
  | .invalidParams => -32602
  | .internalError => -32603
  | .serverNotInitialized => -32002
  | .unknownErrorCode => -32001
  | .requestFailed => -32803
  | .serverCancelled => -32802
  | .contentModified => -32801
  | .requestCancelled => -32800
  | .application c => c.code

def message : ErrorCode → String
  | .parseError => "Parse error"
  | .invalidRequest => "Invalid request"
  | .methodNotFound => "Method not found"
  | .invalidParams => "Invalid params"
  | .internalError => "Internal error"
  | .serverNotInitialized => "Server not initialized"
  | .unknownErrorCode => "Unknown error"
  | .requestFailed => "Request failed"
  | .serverCancelled => "Server cancelled"
  | .contentModified => "Content modified"
  | .requestCancelled => "Request cancelled"
  | .application _ => "Application error"

/-- The code of a number: from the table, or an application's. -/
def ofInt? (n : Int) : Option ErrorCode :=
  (reserved.find? (·.code = n)).or ((ApplicationCode.ofInt? n).map .application)

def display (c : ErrorCode) : String := toString c.code ++ ": " ++ c.message

end ErrorCode

/-! ### Error objects -/

structure ResponseError where
  code : Int
  message : String
  data : Option Json
  deriving Repr

namespace ResponseError

def ofCode (c : ErrorCode) : ResponseError := ⟨c.code, c.message, none⟩

def withText (c : ErrorCode) (text : String) : ResponseError := ⟨c.code, text, none⟩

def errorCode? (e : ResponseError) : Option ErrorCode := ErrorCode.ofInt? e.code

def display (e : ResponseError) : String := toString e.code ++ ": " ++ e.message

def toJson (e : ResponseError) : Json :=
  .object ([("code", .ofInt e.code), ("message", .string e.message)] ++
    Members.optional "data" e.data)

def shape : Payload.Shape :=
  ⟨"ResponseError", [.plain "code", .plain "message", .trailing "data"]⟩

/-- An error object of which some fields are read. -/
structure Partial where
  code : Option Int
  message : Option String
  data : Option Json

def visit (name : String) (v : Json) (p : Partial) : Except PayloadError Partial :=
  match name with
  | "code" => (Payload.int64 v).map fun n => { p with code := some n }
  | "message" => (Payload.string v).map fun s => { p with message := some s }
  | "data" => .ok { p with data := v.nonNull? }
  | _ => .ok p

/-- Reads an error object. Null data are absent data. -/
def read : Payload.Reader ResponseError :=
  Payload.record visit shape .counted ⟨none, none, none⟩ fun p => do
    let code ← Payload.required "code" p.code
    let message ← Payload.required "message" p.message
    return ⟨code, message, p.data⟩

end ResponseError

end SyntaxServer

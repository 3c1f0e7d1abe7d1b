import SyntaxServer.Server.Dispatch

/-!
Handlers that act out their parameters: they return, fail, panic or never end as the parameters
say, and queue the notifications that those list. They reach every branch of dispatch. The state
that they share is a list of the notifications they got.
-/

namespace SyntaxServer.Scripted

/-! ### Reading the script -/

/-- A member of the parameters, null if it is not there. -/
def member (p : Json) (name : String) : Json := Json.ofOption (p.get? name)

/-- A text of the parameters, empty if it is none. -/
def text (p : Json) (name : String) : String :=
  match member p name with
  | .string s => s
  | _ => ""

def failure (p : Json) : HandlerError :=
  let code := match Payload.int64 (member p "code") with
    | .ok n => n
    | .error _ => 0
  .response ⟨code, text p "message", p.get? "data"⟩

/-- The panic of an action. -/
def panic? (action : String) (p : Json) : Option (Option String) :=
  if action = "panic_str" then some (some "static panic")
  else if action = "panic_string" then some (some ("panic: " ++ text p "message"))
  else if action = "panic_other" then some none
  else none

/-- A notification that the parameters list. -/
def listed : Json → Option Notification
  | .array [.string m] => some ⟨m, none⟩
  | .array (.string m :: params :: _) => some ⟨m, some params⟩
  | _ => none

def listedAll (p : Json) : List Notification :=
  match member p "notify" with
  | .array vs => vs.filterMap listed
  | _ => []

/-! ### Handlers -/

/-- The shared state: what was recorded, in order. -/
abbrev Recorded := List String

/-- The start: a result, or the failure of the parameters. -/
def start (_ : Call) (p : Json) (s : Recorded) : RequestRun Recorded :=
  if text p "do" = "fail" then .fails s (failure p) else .returns s p

def shutdown (_ : Call) (_ : Unit) (s : Recorded) : RequestRun Recorded := .returns s .null

/-- A request that tells what was recorded. -/
def seen (call : Call) (p : CancelParams) (s : Recorded) : RequestRun Recorded :=
  .returns s (.object [("arg", p.id.toJson), ("id", call.id.toJson),
    ("seen", .array (s.map .string))])

/-- How the request ends after its effects. -/
def ending (call : Call) (p : Json) : CallEnd Json :=
  let action := text p "do"
  if call.cancelled ∨ member p "cancel" matches .bool true then .failed .cancelled
  else
    match panic? action p with
    | some t => .panicked t
    | none =>
      if action = "internal" then .failed (.internal (text p "message"))
      else if action = "response" then .failed (failure p)
      else if action = "parse_failed" then .failed (.ofAnalysis .noTree)
      else if action = "hang" then .stuck
      else .returned (member p "value")

/-- A request that opens a progress, queues notifications, and ends as its parameters say. -/
def act (call : Call) (p : Json) (s : Recorded) : RequestRun Recorded :=
  let notes := (listedAll p).map Effect.notify
  match p.get? "token" with
  | none => ⟨⟨s, ending call p, []⟩, notes⟩
  | some t =>
    match RequestId.read t with
    | .error e => .fails s (.internal e.message)
    | .ok token =>
      ⟨⟨s, ending call p, []⟩, .progress token (.titled (text p "title")) :: notes⟩

/-- A notification that is recorded before it panics, and again if it does not. -/
def record (p : Json) (s : Recorded) : Run Recorded Unit :=
  let s := s ++ ["didOpen " ++ p.text]
  match panic? (text p "do") p with
  | some t => ⟨s, .panicked t, []⟩
  | none =>
    ⟨s ++ ["didOpen ok"],
      if text p "do" = "fail" then .failed (failure p) else .returned (), []⟩

def recordClosing (p : Option CancelParams) (s : Recorded) : Run Recorded Unit :=
  ⟨s ++ ["didClose " ++ (Json.ofOption (p.map CancelParams.toJson)).text], .returned (), []⟩

def router : Router Recorded :=
  Router.empty
    |>.onRequest .start Payload.any start
    |>.onRequest .shutdown Payload.unit shutdown
    |>.onRequest .didClose CancelParams.read seen
    |>.onRequest .hover Payload.any act
    |>.onNotification .didOpen Payload.any record
    |>.onNotification .didClose (Payload.optional CancelParams.read) recordClosing

end SyntaxServer.Scripted

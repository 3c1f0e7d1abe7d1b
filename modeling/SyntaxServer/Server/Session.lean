import SyntaxServer.Frame.Reader
import SyntaxServer.Rpc.Decode
import SyntaxServer.Server.Dispatch

/-!
Sessions: what a server writes for what it reads. Each reading is answered before the next one;
frames that are no messages are dropped, or answered with an error if their identifier is known.
Only an exit, the end of the input, or a stream that fails ends a session.
-/

namespace SyntaxServer

/-- Why a session ended: the input did, a message asked for it, a stream failed, or it did not and
waits for a handler that never ends. -/
inductive SessionEnd where
  | closed
  | exited
  | failed (cause : String)
  | waiting
  deriving DecidableEq, Repr

def transportMessage (cause : String) : String := "Transport failure: " ++ cause

namespace Session

variable {σ : Type}

def line (level : Log.Level) (message : String) (fields : Members) : Log.Entry :=
  ⟨level, .server, message, fields⟩

/-! ### One reading -/

/-- A message to write. -/
inductive Outgoing where
  | notification (n : Notification)
  | response (r : Response)

namespace Outgoing

def toJson : Outgoing → Json
  | .notification n => n.toJson
  | .response r => r.toJson

def bytes (o : Outgoing) : List UInt8 := frame o.toJson.body

/-- The identifier that a response answers. -/
def answered? : Outgoing → Option RequestId
  | .notification _ => none
  | .response r => some r.id

/-- The line that is logged before the message is written. -/
def log : Outgoing → Log.Entry
  | .notification n => line .debug "Writing notification" [("method", .string n.method)]
  | .response r =>
    line .debug "Writing response" [("id", .string r.id.display), ("is_error", .bool r.isError)]

end Outgoing

/-- What a server does about a reading: the state after it, the log, what it writes then, and
why it ends, if it does, with a last line. -/
structure Reaction (σ : Type) where
  state : ServerState σ
  log : List Log.Entry
  outgoing : List Outgoing
  ending : Option (SessionEnd × List Log.Entry)

/-- What a control means for the session. -/
def endingOf : Control → Option (SessionEnd × List Log.Entry)
  | .proceed => none
  | .exit => some (.exited, [line .info "Exit requested, stopping server loop" []])
  | .stall => some (.waiting, [])

def onFrame (d : Dispatcher σ) (s : ServerState σ) (f : Frame) : Reaction σ :=
  match Message.decode f.body with
  | .error e =>
    ⟨s, [line .warn ("Failed to decode message: " ++ e.message)
      [("content_length", .ofNat f.contentLength)]],
      (e.response?.map .response).toList, none⟩
  | .ok m =>
    let r := d.dispatch s m
    ⟨r.state, r.log,
      r.notifications.map .notification ++ (r.response.map .response).toList,
      endingOf r.control⟩

/-- What a server does about a frame that was not read. -/
def onError (s : ServerState σ) : FrameError → Reaction σ
  | .endOfStream => ⟨s, [line .info "Input stream closed" []], [], some (.closed, [])⟩
  | .io cause =>
    ⟨s, [line .error ("Failed to read from input stream: " ++ cause) []], [],
      some (.failed cause, [])⟩
  | e => ⟨s, [line .warn ("Dropping frame: " ++ e.message) []], [], none⟩

def react (d : Dispatcher σ) (s : ServerState σ) (r : Reading) : Reaction σ :=
  let x := match r.result with
    | .ok f => onFrame d s f
    | .error e => onError s e
  { x with log := r.log ++ x.log }

/-! ### The output -/

/-- A stream that is written to: how many frames it takes before it fails, if it does. -/
structure Sink where
  room : Option Nat
  cause : String
  deriving DecidableEq, Repr

def Sink.unbounded : Sink := ⟨none, ""⟩

/-- Writes a frame; none if the stream fails. -/
def Sink.write? (k : Sink) : Option Sink :=
  match k.room with
  | none => some k
  | some 0 => none
  | some (n + 1) => some { k with room := some n }

/-- What was written and logged. -/
structure Written where
  messages : List Outgoing
  log : List Log.Entry

/-- Writes messages in turn, up to a failure. The stream after them is none if it failed. -/
def writeAll : Sink → List Outgoing → Written × Option Sink
  | k, [] => (⟨[], []⟩, some k)
  | k, o :: os =>
    match k.write? with
    | none => (⟨[], [o.log]⟩, none)
    | some k =>
      let r := writeAll k os
      (⟨o :: r.1.messages, o.log :: r.1.log⟩, r.2)

/-! ### All readings -/

/-- A session: the messages written, why it ended, and its log. -/
structure Transcript where
  messages : List Outgoing
  ending : SessionEnd
  log : List Log.Entry

namespace Transcript

def frames (t : Transcript) : List (List UInt8) := t.messages.map Outgoing.bytes

/-- Puts what came before in front of a session. -/
def after (t : Transcript) (log : List Log.Entry) (w : Written) : Transcript :=
  ⟨w.messages ++ t.messages, t.ending, log ++ w.log ++ t.log⟩

end Transcript

/-- Serves readings in turn. -/
def serve (d : Dispatcher σ) : ServerState σ → Sink → List Reading → Transcript
  | _, _, [] => ⟨[], .waiting, []⟩
  | s, k, r :: rs =>
    let x := react d s r
    let w := writeAll k x.outgoing
    match w.2, x.ending with
    | none, _ => (Transcript.mk [] (.failed k.cause) []).after x.log w.1
    | some _, some (e, last) => (Transcript.mk [] e last).after x.log w.1
    | some k, none => (serve d x.state k rs).after x.log w.1

/-- The session of a byte stream. -/
def run (d : Dispatcher σ) (shared : σ) (limits : Limits) (input : Source) (output : Sink) :
    Transcript :=
  serve d (.start shared) output (allReadings limits input)

end Session

end SyntaxServer

import SyntaxServer.Program.Run

/-!
The command line. Frames are answered as they arrive; log lines go to a file. Grammars come from
outside the library, so here the documents of every language are without one.
-/

namespace SyntaxServer.Main

open SyntaxServer

def noGrammars : Grammars := fun l _ => .error (.grammar ("no grammar for " ++ wireName l))

/-- Where the program reads, writes and logs. -/
structure Streams where
  input : IO.FS.Stream
  output : IO.FS.Stream
  log : IO.FS.Handle
  filter : Log.Filter

def writeLog (s : Streams) (es : List Log.Entry) : IO Unit := do
  for e in es.filter s.filter.passes do
    s.log.putStrLn e.toJson.text

def writeMessage (s : Streams) (o : Session.Outgoing) : IO Unit := do
  writeLog s [o.log]
  s.output.write (ByteArray.mk o.bytes.toArray)
  s.output.flush

/-- Does what a reaction says. -/
def perform (s : Streams) (x : Session.Reaction Documents) : IO (Option SessionEnd) := do
  writeLog s x.log
  for o in x.outgoing do
    writeMessage s o
  match x.ending with
  | none => return none
  | some (e, last) =>
    writeLog s last
    return some e

/-- Serves the input: `pending` are the bytes that no frame has taken yet. -/
partial def loop (s : Streams) (d : Dispatcher Documents) (limits : Limits)
    (state : ServerState Documents) (pending : List UInt8) (ended : Bool) : IO SessionEnd := do
  let reading? := if ended then some (nextFrame limits (.ofBytes pending .closed))
    else nextFrame? limits pending
  match reading? with
  | none =>
    let chunk ← s.input.read 65536
    loop s d limits state (pending ++ chunk.toList) chunk.isEmpty
  | some r =>
    let x := Session.react d state r
    match ← perform s x with
    | some e => return e
    | none => loop s d limits x.state r.rest.bytes ended

/-- Opens the log file for appending, in a directory that it makes if need be. -/
def openLog (path : String) : IO IO.FS.Handle := do
  let dir := Program.directory path
  unless dir = "" do IO.FS.createDirAll dir
  IO.FS.Handle.mk path .append

def serve (o : Program.Options) : IO UInt32 := do
  let dir := Program.dataDir (← IO.getEnv "XDG_DATA_HOME") (← IO.getEnv "HOME")
  let log ← openLog (o.logFile.getD (Program.logPath dir))
  match Log.Filter.choose? (← IO.getEnv "RUST_LOG") o.logLevel with
  | none =>
    IO.eprintln "Error: invalid filter directive"
    return 1
  | some filter =>
    let s : Streams := ⟨← IO.getStdin, ← IO.getStdout, log, filter⟩
    let d := Backend.dispatcher noGrammars o.timeout
    writeLog s (Program.opening d)
    let e ← loop s d o.limits (.start .empty) [] false
    writeLog s (Program.closing e)
    return UInt32.ofNat (Program.exitCode e)

def runWith (args : List String) : IO UInt32 := do
  match Program.Options.read args with
  | .error .version =>
    IO.print Program.versionText
    return 0
  | .error .help =>
    IO.println Program.UsageError.help.message
    return 0
  | .error e =>
    IO.eprintln ("error: " ++ e.message)
    return UInt32.ofNat e.exitCode
  | .ok o =>
    try serve o
    catch e =>
      IO.eprintln ("Error: " ++ toString e)
      return 1

end SyntaxServer.Main

def main (args : List String) : IO UInt32 := SyntaxServer.Main.runWith args

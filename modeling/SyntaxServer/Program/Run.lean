import SyntaxServer.Log.Filter
import SyntaxServer.Program.Options
import SyntaxServer.Program.Paths
import SyntaxServer.Server.Backend
import SyntaxServer.Server.Session

/-!
The program: it reads its command line, makes its log, and serves its input.
-/

namespace SyntaxServer.Program

/-- What the program leaves: its exit code, what it wrote, and the lines of its log. -/
structure Outcome where
  code : Nat
  output : List UInt8
  log : List Log.Entry
  deriving Repr

def UsageError.exitCode : UsageError → Nat
  | .help => 0
  | .version => 0
  | _ => 2

def versionText : String := Backend.serverName ++ " " ++ Backend.serverVersion ++ "\n"

def exitCode : SessionEnd → Nat
  | .failed _ => 1
  | _ => 0

def line (message : String) : Log.Entry := ⟨.info, .server, message, []⟩

/-- The lines before a session. -/
def opening {σ : Type} (d : Dispatcher σ) : List Log.Entry :=
  line "Starting dedukt-lsp server" :: d.registered

/-- The lines after a session. -/
def closing : SessionEnd → List Log.Entry
  | .failed _ => []
  | _ => [line "dedukt-lsp server stopped"]

/-- Serves an input to its end. -/
def serve (grammars : Grammars) (o : Options) (input : Source) : Outcome :=
  let d := Backend.dispatcher grammars o.timeout
  let t := Session.run d .empty o.limits input .unbounded
  ⟨exitCode t.ending, t.frames.flatten, opening d ++ t.log ++ closing t.ending⟩

/-- Runs the program. `canLog` says whether the log file can be written. -/
def run (grammars : Grammars) (args : List String) (environment : Option String) (canLog : Bool)
    (input : Source) : Outcome :=
  match Options.read args with
  | .error .version => ⟨0, Utf8.ofString versionText, []⟩
  | .error e => ⟨e.exitCode, [], []⟩
  | .ok o =>
    match Log.Filter.choose? environment o.logLevel with
    | some f =>
      if canLog then
        let r := serve grammars o input
        { r with log := r.log.filter f.passes }
      else ⟨1, [], []⟩
    | none => ⟨1, [], []⟩

end SyntaxServer.Program

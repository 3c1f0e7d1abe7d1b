import SyntaxServer.Frame.Basic

/-!
The command line. Options have long names; a value stands after an equals sign or in the next
argument. The value of the next argument is taken up when the next option comes, so a fault in it
shows then.
-/

namespace SyntaxServer.Program

/-- What a command line asks for. -/
structure Options where
  stdio : Bool
  logFile : Option String
  logLevel : String
  limits : Limits
  timeout : Option Nat
  deriving DecidableEq, Repr

/-- Why a command line is not run. -/
inductive UsageError where
  | unknownArgument
  | argumentConflict
  | missingValue
  | badValue
  | tooManyValues
  | help
  | version
  deriving DecidableEq, Repr

def UsageError.message : UsageError → String
  | .unknownArgument => "unexpected argument found"
  | .argumentConflict => "an argument cannot be used multiple times"
  | .missingValue => "a value is required but none was supplied"
  | .badValue => "invalid value for a number"
  | .tooManyValues => "unexpected value for a flag"
  | .help => "Language server for JSON, TOML and YAML syntax trees"
  | .version => ""

/-- An option with a value. -/
inductive Setting where
  | logFile
  | logLevel
  | headerLines
  | lineLength
  | contentLength
  | timeout
  deriving DecidableEq, Repr

def Setting.ofName? (name : List Char) : Option Setting :=
  let s := String.ofList name
  if s = "log-file" then some .logFile
  else if s = "log-level" then some .logLevel
  else if s = "max-header-lines" then some .headerLines
  else if s = "max-header-line-length" then some .lineLength
  else if s = "max-content-length" then some .contentLength
  else if s = "request-timeout-ms" then some .timeout
  else none

def Options.usual : Options := ⟨false, none, "info", .usual, none⟩

/-- A command line that is being read: the options so far, those that were given, and one that
waits for its value or has it. -/
structure CommandLine where
  options : Options
  given : List Setting
  pending : Option (Setting × Option String)

namespace CommandLine

def start : CommandLine := ⟨.usual, [], none⟩

/-- A number among the values. -/
def number (v : String) : Except UsageError Nat :=
  match Natural.word? v.toList with
  | some n => .ok n
  | none => .error .badValue

/-- Puts a value into the options. -/
def assign (o : Options) (v : String) : Setting → Except UsageError Options
  | .logFile => if v = "" then .error .missingValue else .ok { o with logFile := some v }
  | .logLevel => .ok { o with logLevel := v }
  | .headerLines => do
    let n ← number v
    return { o with limits := { o.limits with headerLines := n } }
  | .lineLength => do
    let n ← number v
    return { o with limits := { o.limits with lineLength := n } }
  | .contentLength => do
    let n ← number v
    return { o with limits := { o.limits with contentLength := n } }
  | .timeout => do
    let n ← number v
    return { o with timeout := some n }

/-- Takes an option with its value. -/
def take (r : CommandLine) (k : Setting) (v : String) : Except UsageError CommandLine :=
  if r.given.contains k then .error .argumentConflict
  else (assign r.options v k).map fun o => { r with options := o, given := k :: r.given }

/-- Takes up the option that waits. -/
def settle (r : CommandLine) : Except UsageError CommandLine :=
  match r.pending with
  | none => .ok r
  | some (_, none) => .error .missingValue
  | some (k, some v) => take { r with pending := none } k v

/-- An option of two dashes, with the text after an equals sign. -/
def long (r : CommandLine) (name : List Char) (value : Option String) : Except UsageError CommandLine :=
  match Setting.ofName? name, value with
  | some k, some v => r.settle.bind fun r => r.take k v
  | some k, none => r.settle.map fun r => { r with pending := some (k, none) }
  | none, value =>
    let s := String.ofList name
    if s = "stdio" ∨ s = "help" ∨ s = "version" then
      if value.isSome then .error .tooManyValues
      else do
        let r ← r.settle
        if s = "help" then throw .help
        if s = "version" then throw .version
        if r.options.stdio then throw .argumentConflict
        return { r with options := { r.options with stdio := true } }
    else .error .unknownArgument

/-- An argument of one dash: help, the version, or nothing known. -/
def short (r : CommandLine) (flag : Char) : Except UsageError CommandLine :=
  if flag = 'h' then r.settle.bind fun _ => .error .help
  else if flag = 'V' then r.settle.bind fun _ => .error .version
  else .error .unknownArgument

/-- An argument that is no option: a value that is waited for. -/
def plain (r : CommandLine) (arg : String) : Except UsageError CommandLine :=
  match r.pending with
  | some (k, none) => .ok { r with pending := some (k, some arg) }
  | _ => .error .unknownArgument

/-- The name and the value of a long option. -/
def splitEquals (cs : List Char) : List Char × Option String :=
  let rest := cs.dropWhile (· ≠ '=')
  (cs.takeWhile (· ≠ '='), if rest = [] then none else some (String.ofList (rest.drop 1)))

/-- Reads the arguments. After two dashes alone no argument is known. -/
def arguments : CommandLine → List String → Except UsageError CommandLine
  | r, [] => r.settle
  | r, arg :: args =>
    match arg.toList with
    | ['-', '-'] => if args = [] then r.settle else .error .unknownArgument
    | '-' :: '-' :: cs =>
      (r.long (splitEquals cs).1 (splitEquals cs).2).bind fun r => arguments r args
    | '-' :: c :: _ => (r.short c).bind fun r => arguments r args
    | _ => (r.plain arg).bind fun r => arguments r args

end CommandLine

def Options.read (args : List String) : Except UsageError Options :=
  (CommandLine.arguments .start args).map (·.options)

end SyntaxServer.Program

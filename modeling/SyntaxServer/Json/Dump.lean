import SyntaxServer.Json.Printer
import SyntaxServer.Text.Quoted

/-!
The form of a JSON value in log lines: every value under the name of its kind, strings quoted as
in messages.
-/

namespace SyntaxServer.Json

mutual

/-- The form of a value in log lines. -/
def dump : Json → String
  | .null => "Null"
  | .bool b => "Bool(" ++ (if b then "true" else "false") ++ ")"
  | .number n => "Number(" ++ n.text ++ ")"
  | .string s => "String(" ++ Text.quoted s ++ ")"
  | .array vs => "Array [" ++ dumpElements vs ++ "]"
  | .object ms => "Object \x7b" ++ dumpMembers ms ++ "\x7d"

def dumpElements : List Json → String
  | [] => ""
  | [v] => dump v
  | v :: w :: vs => dump v ++ ", " ++ dumpElements (w :: vs)

def dumpMembers : List (String × Json) → String
  | [] => ""
  | [(n, v)] => Text.quoted n ++ ": " ++ dump v
  | (n, v) :: m :: ms => Text.quoted n ++ ": " ++ dump v ++ ", " ++ dumpMembers (m :: ms)

end

def dumpOption : Option Json → String
  | none => "None"
  | some v => "Some(" ++ dump v ++ ")"

end SyntaxServer.Json

import SyntaxServer.Json.Value
import SyntaxServer.Number.Shortest

/-!
The compact text of a JSON value: no blanks, the members of an object in their order, integers
without a point and other numbers with a point or an exponent.
-/

namespace SyntaxServer

def Number.text : Number → String
  | .integer n => toString n
  | .float negative x => String.ofList ((if negative then ['-'] else []) ++ x.text)

namespace Json

/-! ### Strings -/

/-- The escape of a control character without a short one. -/
def controlEscape (c : Char) : List Char :=
  ['\\', 'u', '0', '0', Nat.digitChar (c.toNat / 16), Nat.digitChar (c.toNat % 16)]

/-- One character within quotes. -/
def escaped (c : Char) : List Char :=
  if c = '"' then ['\\', '"']
  else if c = '\\' then ['\\', '\\']
  else if c = '\x08' then ['\\', 'b']
  else if c = '\t' then ['\\', 't']
  else if c = '\n' then ['\\', 'n']
  else if c = '\x0c' then ['\\', 'f']
  else if c = '\r' then ['\\', 'r']
  else if c.toNat < 0x20 then controlEscape c
  else [c]

def stringChars (s : String) : List Char := '"' :: s.toList.flatMap escaped ++ ['"']

/-! ### Values -/

mutual

def chars : Json → List Char
  | .null => ['n', 'u', 'l', 'l']
  | .bool true => ['t', 'r', 'u', 'e']
  | .bool false => ['f', 'a', 'l', 's', 'e']
  | .number n => n.text.toList
  | .string s => stringChars s
  | .array vs => '[' :: elementsChars vs ++ [']']
  | .object ms => '\x7b' :: membersChars ms ++ ['\x7d']

/-- The characters of the elements, with commas between them. -/
def elementsChars : List Json → List Char
  | [] => []
  | [v] => chars v
  | v :: w :: vs => chars v ++ ',' :: elementsChars (w :: vs)

/-- The characters of the members, with commas between them. -/
def membersChars : List (String × Json) → List Char
  | [] => []
  | [(n, v)] => stringChars n ++ ':' :: chars v
  | (n, v) :: m :: ms => stringChars n ++ ':' :: (chars v ++ ',' :: membersChars (m :: ms))

end

def text (v : Json) : String := String.ofList (chars v)

end Json

end SyntaxServer

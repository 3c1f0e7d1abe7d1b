import SyntaxServer.Text.Combining
import SyntaxServer.Text.Unprintable

/-!
Quoted text for messages: quotes around it, a backslash before a quote or a backslash, short
escapes, and the number of every character that has no printed form or would change the one
before it.
-/

namespace SyntaxServer.Text

/-- The digits of a number to the base sixteen. -/
def hexDigits (n : Nat) : List Char := Nat.toDigits 16 n

/-- The escape that writes the number of a character. -/
def numberEscape (c : Char) : List Char := '\\' :: 'u' :: '\x7b' :: hexDigits c.toNat ++ ['\x7d']

/-- One character within quotes. -/
def quotedChar (c : Char) : List Char :=
  if c = '\x00' then ['\\', '0']
  else if c = '\t' then ['\\', 't']
  else if c = '\r' then ['\\', 'r']
  else if c = '\n' then ['\\', 'n']
  else if c = '\\' ∨ c = '"' then ['\\', c]
  else if isCombining c || isUnprintable c then numberEscape c
  else [c]

def quoted (s : String) : String := String.ofList ('"' :: s.toList.flatMap quotedChar ++ ['"'])

end SyntaxServer.Text

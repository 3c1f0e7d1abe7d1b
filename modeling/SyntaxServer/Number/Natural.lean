/-!
Natural numbers in decimal: the digits of a number, the number of a run of digits, and the form
in which a byte count is written, an optional plus sign and digits that fit 64 bits.
-/

namespace SyntaxServer.Natural

/-- The digits of a number, the first one first. -/
def digits (n : Nat) : List Char := Nat.toDigits 10 n

/-- The value of a decimal digit. -/
def digit? (c : Char) : Option Nat :=
  if '0' ≤ c ∧ c ≤ '9' then some (c.toNat - '0'.toNat) else none

/-- Appends the digits of a text to a number. -/
def extend? : Nat → List Char → Option Nat
  | n, [] => some n
  | n, c :: cs => (digit? c).bind fun d => extend? (n * 10 + d) cs

/-- Reads a text of digits, at least one. -/
def read? (cs : List Char) : Option Nat := if cs = [] then none else extend? 0 cs

/-- The numbers a machine word holds. -/
def wordLimit : Nat := 18446744073709551616

/-- Reads a word: digits, with a plus sign before them or without. -/
def word? (cs : List Char) : Option Nat :=
  let ds := match cs with
    | '+' :: ds => ds
    | ds => ds
  (read? ds).filter (· < wordLimit)

end SyntaxServer.Natural

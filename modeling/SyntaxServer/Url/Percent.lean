import SyntaxServer.Text.Utf8

/-!
Percent-encoding: the classes of characters that each part of a URL encodes, and the reading of
encoded bytes. Characters beyond ASCII are encoded in every part.
-/

namespace SyntaxServer.Url

/-! ### Classes -/

/-- Encoded in an opaque path or host. -/
def inControls (c : Char) : Bool := c.toNat < 0x20 || c.toNat == 0x7F

def inFragment (c : Char) : Bool := inControls c || " \"<>`".toList.contains c

def inPath (c : Char) : Bool := inFragment c || "#?\x7b\x7d".toList.contains c

def inUser (c : Char) : Bool := inPath c || "/:;=@[\\]^|".toList.contains c

def inQuery (c : Char) : Bool := inControls c || " \"#<>".toList.contains c

def inSpecialQuery (c : Char) : Bool := inQuery c || c == '\''

/-! ### Writing and reading -/

/-- The hexadecimal digits of a byte, letters in upper case. -/
def hexByte (b : UInt8) : List Char :=
  [(Nat.digitChar (b.toNat / 16)).toUpper, (Nat.digitChar (b.toNat % 16)).toUpper]

/-- One character of a part that encodes a class. -/
def percentChar (p : Char → Bool) (c : Char) : List Char :=
  if p c || 0x80 ≤ c.toNat then (Utf8.encode [c]).flatMap fun b => '%' :: hexByte b else [c]

def percent (p : Char → Bool) (cs : List Char) : List Char := cs.flatMap (percentChar p)

/-- The value of a hexadecimal digit among bytes. -/
def hexValue? (b : UInt8) : Option Nat :=
  let n := b.toNat
  if 0x30 ≤ n ∧ n ≤ 0x39 then some (n - 0x30)
  else if 0x41 ≤ n ∧ n ≤ 0x46 then some (n - 0x37)
  else if 0x61 ≤ n ∧ n ≤ 0x66 then some (n - 0x57)
  else none

/-- The bytes with every encoded one read; a percent sign without two digits stays. -/
def unpercent : List UInt8 → List UInt8
  | 0x25 :: a :: b :: bs =>
    match hexValue? a, hexValue? b with
    | some x, some y => UInt8.ofNat (x * 16 + y) :: unpercent bs
    | _, _ => 0x25 :: unpercent (a :: b :: bs)
  | b :: bs => b :: unpercent bs
  | [] => []

end SyntaxServer.Url

import SyntaxServer.Json.Value
import SyntaxServer.Number.Width

/-!
Positions in a text. A client counts columns in units of 16 bits, a syntax tree in bytes; both
count lines from zero, between line feeds.
-/

namespace SyntaxServer

/-- A place in a syntax tree: a row, and a column in bytes. -/
structure Point where
  row : Nat
  column : Nat
  deriving DecidableEq, Repr

namespace Point

def before (p q : Point) : Bool := p.row < q.row || (p.row == q.row && p.column < q.column)

end Point

/-- A client's place: a line, and a column in units of 16 bits. -/
structure Position where
  line : Nat
  character : Nat
  deriving DecidableEq, Repr

/-- A client's range, without its end. -/
structure Range where
  start : Position
  stop : Position
  deriving DecidableEq, Repr

namespace Position

def toJson (p : Position) : Json :=
  .object [("character", .ofNat p.character), ("line", .ofNat p.line)]

end Position

def Range.toJson (r : Range) : Json :=
  .object [("end", r.stop.toJson), ("start", r.start.toJson)]

namespace Text

/-- The units of 16 bits of a character. -/
def units (c : Char) : Nat := if c.toNat < 0x10000 then 1 else 2

def unitCount : List Char → Nat
  | [] => 0
  | c :: cs => units c + unitCount cs

/-- The lines of a text, between its line feeds. -/
def lines (cs : List Char) : List (List Char) := cs.splitOn '\n'

/-- A line without the carriage return at its end. -/
def dropReturn (cs : List Char) : List Char := if cs.getLast? = some '\r' then cs.dropLast else cs

/-- The column in bytes of the first character that starts at a column in units or after it, or of
the end of the line. -/
def byteColumn : Nat → List Char → Nat
  | _, [] => 0
  | 0, _ => 0
  | n, c :: cs => c.utf8Size + byteColumn (n - units c) cs

/-- Splits a text after a number of bytes; none within a character or beyond the end. -/
def splitBytes? : Nat → List Char → Option (List Char × List Char)
  | 0, cs => some ([], cs)
  | _, [] => none
  | n, c :: cs =>
    if c.utf8Size ≤ n then (splitBytes? (n - c.utf8Size) cs).map fun p => (c :: p.1, p.2) else none

/-- The text between two places in bytes; none unless both are between characters. -/
def slice? (start stop : Nat) (cs : List Char) : Option (List Char) :=
  if start ≤ stop then
    ((splitBytes? start cs).bind fun p => splitBytes? (stop - start) p.2).map (·.1)
  else none

/-- The place in a tree of a client's place; none on a line that is not there. Columns beyond the
line count as its end, which is before a carriage return. -/
def pointAt (text : List Char) (p : Position) : Option Point :=
  (lines text)[p.line]?.map fun l => ⟨p.line, byteColumn p.character (dropReturn l)⟩

/-- The client's place of a place in a tree. A column that is not between characters counts as
the end of the line. A client's numbers have 32 bits, and of larger ones the lowest. -/
def positionOf (text : List Char) (p : Point) : Position :=
  let line := (lines text)[p.row]?.getD []
  let before := ((splitBytes? p.column line).map (·.1)).getD line
  ⟨Width.low32 p.row, Width.low32 (unitCount before)⟩

end Text

end SyntaxServer

import SyntaxServer.Text.Unprintable
import SyntaxServer.Url.Name.Letter
import SyntaxServer.Url.Name.Spelling

/-!
The form of one character in a name: what stands for it, nothing if it is not seen, or a refusal.
-/

namespace SyntaxServer.Url.Name

open Text (Runs)

/-- The characters that leave no trace in a name. -/
def unseenRuns : Runs := [
  (0xAD, 0xAD), (0x34F, 0x34F), (0x115F, 0x1160), (0x17B4, 0x17B5), (0x180B, 0x180F),
  (0x200B, 0x200B), (0x2060, 0x2064), (0x206A, 0x206F), (0x3164, 0x3164), (0xFE00, 0xFE0F),
  (0xFEFF, 0xFEFF), (0xFFA0, 0xFFA0), (0x1BCA0, 0x1BCA3), (0x1D173, 0x1D17A), (0xE0100, 0xE01EF)]

/-- The printed characters that no name holds: those with a point in them, and the signs that
describe or replace others. -/
def refusedRuns : Runs := [
  (0x2024, 0x2026), (0x2488, 0x249B), (0x2FF0, 0x2FFF), (0x31EF, 0x31EF), (0x33C2, 0x33C2),
  (0x33C7, 0x33C7), (0x33D8, 0x33D8), (0xFE12, 0xFE12), (0xFE19, 0xFE19), (0xFE30, 0xFE30),
  (0xFE52, 0xFE52), (0xFFFC, 0xFFFD), (0x1F100, 0x1F100)]

/-- The joiners: they are not seen, and a name holds them where they change the letters beside
them. -/
def isJoiner (c : Char) : Bool := c.toNat = 0x200C || c.toNat = 0x200D

def isRefused (c : Char) : Bool :=
  (Text.isUnprintable c && !isJoiner c) || refusedRuns.holds c

/-- The letter at an equal distance from the start of another run. -/
def shifted? (c : Char) : Option Char :=
  (shiftedRuns.find? fun r => r.1 ≤ c.toNat && c.toNat ≤ r.2.1).map fun r =>
    Char.ofNat (c.toNat - r.1 + r.2.2)

/-- The small letter after a capital. -/
def alternate? (c : Char) : Option Char :=
  (alternatingRuns.find? fun r =>
    r.1 ≤ c.toNat && c.toNat ≤ r.2 && (c.toNat - r.1) % 2 == 0).map fun _ => Char.ofNat (c.toNat + 1)

/-- The letter of a row. -/
def lettered? (c : Char) : Option Char :=
  letterRows.findSome? fun r => if r.1 ≤ c.toNat then r.2.toList[c.toNat - r.1]? else none

/-- The text of a row. -/
def spelled? (c : Char) : Option String :=
  spelledRows.findSome? fun r => if r.1 ≤ c.toNat then r.2[c.toNat - r.1]? else none

/-- What stands for a character, none if it stands for itself. -/
def replacement? (c : Char) : Option (List Char) :=
  (((shifted? c <|> alternate? c) <|> lettered? c).map ([·])) <|> (spelled? c).map String.toList

/-- The form of a character in a name, none if names do not hold it. -/
def form? (c : Char) : Option (List Char) :=
  if c.toNat < 0x80 then some [c.toLower]
  else if unseenRuns.holds c then some []
  else
    match replacement? c with
    | some cs => some cs
    | none => if isRefused c then none else some [c]

end SyntaxServer.Url.Name

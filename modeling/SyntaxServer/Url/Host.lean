import SyntaxServer.Number.Natural
import SyntaxServer.Text.Utf8
import SyntaxServer.Url.Basic
import SyntaxServer.Url.Name.Label
import SyntaxServer.Url.Percent

/-!
Hosts: names in ASCII, addresses of four bytes and of eight pieces in their
normal forms, and, in other schemes, opaque texts.
-/

namespace SyntaxServer.Url

/-! ### Addresses of four bytes -/

/-- The digits of a base. -/
def digitOf? (base : Nat) (c : Char) : Option Nat :=
  (hexValue? (UInt8.ofNat (min c.toNat 0xFF))).filter (· < base)

/-- The number of a run of digits, none if one is no digit of the base. -/
def ofBase? (base : Nat) (cs : List Char) : Option Nat :=
  cs.foldl (fun n c => do return (← n) * base + (← digitOf? base c)) (some 0)

/-- One part of an address: decimal, octal after a zero, hexadecimal after `0x`. -/
def addressPart? : List Char → Option Nat
  | [] => none
  | '0' :: 'x' :: cs => ofBase? 16 cs
  | '0' :: 'X' :: cs => ofBase? 16 cs
  | '0' :: c :: cs => ofBase? 8 (c :: cs)
  | cs => ofBase? 10 cs

/-- The parts between points, without an empty one at the end. -/
def addressParts (cs : List Char) : List (List Char) :=
  let parts := cs.splitOn '.'
  if parts.getLast? = some [] then parts.dropLast else parts

/-- A name is meant as an address if its last part is a number. -/
def endsInNumber (cs : List Char) : Bool :=
  match (addressParts cs).getLast? with
  | none => false
  | some [] => false
  | some last => last.all Char.isDigit || (addressPart? last).isSome

/-- Joins the parts of an address: the last one fills the bytes that the others leave. -/
def joinParts (ns : List Nat) : Option Nat :=
  match ns.reverse with
  | [] => none
  | last :: firsts =>
    let room := Nat.pow 256 (4 - firsts.length)
    if 3 < firsts.length ∨ firsts.any (255 < ·) ∨ room ≤ last then none
    else some (firsts.foldr (fun n m => m * 256 + n) 0 * room + last)

def ipv4? (cs : List Char) : Option Nat := ((addressParts cs).mapM addressPart?).bind joinParts

def ipv4Text (n : Nat) : List Char :=
  let byte (k : Nat) := Natural.digits (n / Nat.pow 256 k % 256)
  byte 3 ++ '.' :: byte 2 ++ '.' :: byte 1 ++ '.' :: byte 0

/-! ### Addresses of eight pieces -/

/-- A byte in an address of pieces: decimal, without a zero before it. -/
def dottedByte? (cs : List Char) : Option Nat :=
  if cs.length = 0 ∨ 3 < cs.length ∨ (1 < cs.length ∧ cs.head? = some '0') then none
  else (Natural.read? cs).filter (· < 256)

/-- Four bytes as two pieces. -/
def dotted? (cs : List Char) : Option (List Nat) :=
  match (cs.splitOn '.').mapM dottedByte? with
  | some [a, b, c, d] => some [a * 256 + b, c * 256 + d]
  | _ => none

def piece? (cs : List Char) : Option Nat :=
  if cs.length = 0 ∨ 4 < cs.length then none else ofBase? 16 cs

/-- Pieces between colons; the last may be four bytes if `tail` allows it. -/
def pieces? (tail : Bool) : List (List Char) → Option (List Nat)
  | [] => some []
  | [p] => if tail && p.contains '.' then dotted? p else (piece? p).map ([·])
  | p :: ps => do return (← piece? p) :: (← pieces? tail ps)

/-- The texts between colons; an empty text has none. -/
def colonParts (cs : List Char) : List (List Char) := if cs = [] then [] else cs.splitOn ':'

/-- The texts before and after the first two colons in a row. -/
def splitGap : List Char → Option (List Char × List Char)
  | ':' :: ':' :: cs => some ([], cs)
  | c :: cs => (splitGap cs).map fun p => (c :: p.1, p.2)
  | [] => none

/-- The eight pieces of a text. A gap stands for zeros, at least one. -/
def ipv6? (cs : List Char) : Option (List Nat) :=
  match splitGap cs with
  | none => (pieces? true (colonParts cs)).filter (·.length = 8)
  | some (before, after) => do
    let xs ← pieces? false (colonParts before)
    let ys ← pieces? true (colonParts after)
    let n := xs.length + ys.length
    if n ≤ 7 then some (xs ++ List.replicate (8 - n) 0 ++ ys) else none

/-- The length of the run of zeros at the head. -/
def zeroRun (ns : List Nat) : Nat := (ns.takeWhile (· = 0)).length

/-- The place and the length of the first of the longest runs of at least two zeros. -/
def longestZeros (ns : List Nat) : Option (Nat × Nat) :=
  (List.range ns.length).foldl (fun best i =>
    let n := zeroRun (ns.drop i)
    if 1 < n ∧ (best.map (·.2)).getD 0 < n then some (i, n) else best) none

/-- Pieces in hexadecimal, with colons between them. -/
def hexPieces (ns : List Nat) : List Char :=
  (":".intercalate (ns.map fun n => String.ofList (Nat.toDigits 16 n))).toList

/-- The text of an address of eight pieces: two colons stand for the longest run of zeros. -/
def ipv6Text (ns : List Nat) : List Char :=
  match longestZeros ns with
  | none => '[' :: hexPieces ns ++ [']']
  | some (i, n) => '[' :: hexPieces (ns.take i) ++ ':' :: ':' :: hexPieces (ns.drop (i + n)) ++ [']']

/-! ### Hosts -/

/-- A character that no opaque host holds. -/
def isForbiddenInOpaque (c : Char) : Bool := "\x00\t\n\r #/:<>?@[\\]^|".toList.contains c

/-- The inside of brackets at the two ends of a text. -/
def unbracket? (cs : List Char) : Option (List Char) :=
  if cs.getLast? = some ']' then some (cs.drop 1).dropLast else none

/-- An address in brackets. -/
def bracketHost (cs : List Char) : Except UrlError (List Char) :=
  match (unbracket? cs).bind ipv6? with
  | some ns => .ok (ipv6Text ns)
  | none => .error .ipv6

/-- The host of a special scheme, in normal form. -/
def specialHost (cs : List Char) : Except UrlError (List Char) :=
  if cs.head? = some '[' then bracketHost cs
  else
    match (Utf8.decode? (unpercent (Utf8.encode cs))).bind Name.ascii? with
    | none => .error .hostName
    | some [] => .error .emptyHost
    | some name =>
      if endsInNumber name then
        match ipv4? name with
        | some n => .ok (ipv4Text n)
        | none => .error .ipv4
      else .ok name

/-- The host of any other scheme. -/
def opaqueHost (cs : List Char) : Except UrlError (List Char) :=
  if cs.head? = some '[' then bracketHost cs
  else if cs.any isForbiddenInOpaque then .error .hostCharacter
  else .ok (percent inControls cs)

end SyntaxServer.Url

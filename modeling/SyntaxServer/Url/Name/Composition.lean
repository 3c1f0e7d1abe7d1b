import SyntaxServer.Url.Name.Composite
import SyntaxServer.Url.Name.MarkClass

/-!
Composed text: marks in the order of their classes, and each letter with its marks as one character
where there is one. Syllables of Hangul are composed by arithmetic, all others by the table.
-/

namespace SyntaxServer.Url.Name

/-! ### Hangul -/

/-- A syllable is one of 19 leading consonants, one of 21 vowels, and one of 27 trailing consonants
or none. -/
def hangulParts? (c : Char) : Option (List Char) :=
  let n := c.toNat
  if 0xAC00 ≤ n ∧ n < 0xAC00 + 19 * 21 * 28 then
    let s := n - 0xAC00
    let syllable := [Char.ofNat (0x1100 + s / 588), Char.ofNat (0x1161 + s % 588 / 28)]
    some (if s % 28 = 0 then syllable else syllable ++ [Char.ofNat (0x11A7 + s % 28)])
  else none

/-- A leading consonant and a vowel, or a syllable without a trailing consonant and one. -/
def hangulJoin? (a b : Char) : Option Char :=
  let m := a.toNat
  let n := b.toNat
  if 0x1100 ≤ m ∧ m < 0x1113 ∧ 0x1161 ≤ n ∧ n < 0x1176 then
    some (Char.ofNat (0xAC00 + (m - 0x1100) * 588 + (n - 0x1161) * 28))
  else if 0xAC00 ≤ m ∧ m < 0xAC00 + 19 * 588 ∧ (m - 0xAC00) % 28 = 0 ∧ 0x11A7 < n ∧ n < 0x11C3 then
    some (Char.ofNat (m + (n - 0x11A7)))
  else none

/-! ### Taking apart -/

/-- The nesting of marks in the characters of the table. -/
def nesting : Nat := 3

/-- The letter and the marks of a character, the marks of its letter first. -/
def partsOf : Nat → Char → List Char
  | 0, c => [c]
  | n + 1, c =>
    match composites.find? (·.2.2 = c.toNat) with
    | some (a, m, _) => partsOf n (Char.ofNat a) ++ [Char.ofNat m]
    | none => (hangulParts? c).getD [c]

/-- Adds a character to a text that is held backwards: a mark goes before the marks of higher
classes. -/
def place (c : Char) : List Char → List Char
  | [] => [c]
  | d :: ds => if 0 < markClass c ∧ markClass c < markClass d then d :: place c ds else c :: d :: ds

/-- The text in parts, with the marks in the order of their classes. -/
def apart (cs : List Char) : List Char :=
  ((cs.flatMap (partsOf nesting)).foldl (fun ds c => place c ds) []).reverse

/-! ### Putting together -/

/-- The character that is a letter with a mark. -/
def join? (a b : Char) : Option Char :=
  match hangulJoin? a b with
  | some c => some c
  | none =>
    (composites.find? fun r => r.1 == a.toNat && r.2.1 == b.toNat).map fun r => Char.ofNat r.2.2

/-- A text being composed: what is done, backwards, the letter that marks may join, and the marks
since that did not join it, backwards. -/
structure Composing where
  done : List Char
  letter : Option Char
  marks : List Char

def Composing.text (p : Composing) : List Char := p.marks ++ p.letter.toList ++ p.done

/-- Nothing between the letter and a character keeps them apart. -/
def Composing.isOpenTo (p : Composing) (c : Char) : Bool :=
  match p.marks with
  | [] => true
  | m :: _ => markClass m < markClass c

/-- Reads one character. -/
def Composing.add (p : Composing) (c : Char) : Composing :=
  let joined := if p.isOpenTo c then p.letter.bind (join? · c) else none
  match joined with
  | some d => { p with letter := some d }
  | none =>
    if markClass c = 0 then ⟨p.text, some c, []⟩ else { p with marks := c :: p.marks }

/-- The composed text of a text in parts. -/
def together (cs : List Char) : List Char := (cs.foldl Composing.add ⟨[], none, []⟩).text.reverse

def composed (cs : List Char) : List Char := together (apart cs)

end SyntaxServer.Url.Name

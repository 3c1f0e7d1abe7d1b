import SyntaxServer.Json.Value
import SyntaxServer.Number.Decimal
import SyntaxServer.Number.Width
import SyntaxServer.Text.Utf8

/-!
Reading JSON. A reader takes a value from the head of a text and returns what follows, which is
shorter; so lists of values end. Values nest at most 127 deep, and the recursion follows the depth.
-/

namespace SyntaxServer.JsonText

/-- What a reader leaves of a text: something shorter. -/
abbrev Rest (cs : List Char) := { r : List Char // r.length < cs.length }

/-- A reader of a value at the head of a text. -/
abbrev Reader (α : Type) := (cs : List Char) → Option (α × Rest cs)

/-- A rest of a shorter text is a rest. -/
def Rest.widen {cs ds : List Char} (h : ds.length ≤ cs.length) (r : Rest ds) : Rest cs :=
  ⟨r.1, Nat.lt_of_lt_of_le r.2 h⟩

/-! ### Blanks and words -/

/-- A character that may stand between two parts of a text. -/
def isSpace (c : Char) : Bool := c = ' ' || c = '\t' || c = '\n' || c = '\r'

def skip (cs : List Char) : List Char := cs.dropWhile isSpace

theorem length_skip (cs : List Char) : (skip cs).length ≤ cs.length :=
  (List.dropWhile_sublist _).length_le

def word (w : List Char) (hw : w ≠ []) (v : Json) : Reader Json := fun cs =>
  if h : w.isPrefixOf cs then
    some (v, ⟨cs.drop w.length, by
      have := List.length_pos_iff.2 hw
      have := (List.isPrefixOf_iff_prefix.1 h).length_le
      simp only [List.length_drop]
      omega⟩)
  else none

/-! ### Strings -/

def hexDigit? (c : Char) : Option Nat :=
  if '0' ≤ c ∧ c ≤ '9' then some (c.toNat - '0'.toNat)
  else if 'a' ≤ c ∧ c ≤ 'f' then some (c.toNat - 'a'.toNat + 10)
  else if 'A' ≤ c ∧ c ≤ 'F' then some (c.toNat - 'A'.toNat + 10)
  else none

def hex4? (a b c d : Char) : Option Nat := do
  return (((← hexDigit? a) * 16 + (← hexDigit? b)) * 16 + (← hexDigit? c)) * 16 + (← hexDigit? d)

/-- The character of a short escape. -/
def shortEscape? (c : Char) : Option Char :=
  if c = '"' ∨ c = '\\' ∨ c = '/' then some c
  else if c = 'b' then some '\x08'
  else if c = 'f' then some '\x0c'
  else if c = 'n' then some '\n'
  else if c = 'r' then some '\r'
  else if c = 't' then some '\t'
  else none

/-- The first half of a pair that writes one character. -/
def isHighHalf (n : Nat) : Bool := 0xD800 ≤ n && n < 0xDC00

/-- The second half of a pair. -/
def isLowHalf (n : Nat) : Bool := 0xDC00 ≤ n && n < 0xE000

/-- The character at the head of a string's inside, none at an escape that means no character or
at a bare control. -/
def character : Reader Char
  | '\\' :: 'u' :: a :: b :: c :: d :: cs =>
    match hex4? a b c d with
    | none => none
    | some n =>
      if isHighHalf n then
        match cs with
        | '\\' :: 'u' :: e :: f :: g :: h :: cs =>
          match hex4? e f g h with
          | none => none
          | some m =>
            if isLowHalf m then
              some (Char.ofNat (0x10000 + (n - 0xD800) * 0x400 + (m - 0xDC00)), ⟨cs, by
                simp only [List.length_cons]; omega⟩)
            else none
        | _ => none
      else if isLowHalf n then none
      else some (Char.ofNat n, ⟨cs, by simp only [List.length_cons]; omega⟩)
  | '\\' :: e :: cs => (shortEscape? e).map (·, ⟨cs, by simp only [List.length_cons]; omega⟩)
  | c :: cs => if c.toNat < 0x20 then none else some (c, ⟨cs, by simp⟩)
  | [] => none

/-- Reads the inside of a string and the quote after it. The characters before it are in `acc`,
the last one first. -/
def stringBody (acc : List Char) (cs : List Char) : Option (List Char × Rest cs) :=
  match cs with
  | '"' :: ds => some (acc.reverse, ⟨ds, by simp⟩)
  | cs =>
    match character cs with
    | none => none
    | some (c, r) => (stringBody (c :: acc) r.1).map fun p => (p.1, p.2.widen (Nat.le_of_lt r.2))
termination_by cs.length
decreasing_by exact r.2

def string : Reader String
  | '"' :: cs => (stringBody [] cs).map fun p => (String.ofList p.1, p.2.widen (by simp))
  | _ => none

/-! ### Numbers -/

def digitRun : List Char → List Nat × List Char
  | [] => ([], [])
  | c :: cs =>
    match Natural.digit? c with
    | none => ([], c :: cs)
    | some d =>
      let r := digitRun cs
      (d :: r.1, r.2)

theorem length_digitRun (cs : List Char) :
    (digitRun cs).1.length + (digitRun cs).2.length = cs.length := by
  induction cs with
  | nil => rfl
  | cons c cs ih =>
    unfold digitRun
    cases Natural.digit? c with
    | none => simp
    | some d => simp only [List.length_cons]; omega

def ofDigits (ds : List Nat) : Nat := ds.foldl (fun n d => n * 10 + d) 0

/-- The digits of a whole part: one zero, or digits that start with another one. -/
def wholePart (cs : List Char) : Option (List Nat × Rest cs) :=
  match h : digitRun cs with
  | ([], _) => none
  | (d :: ds, rest) =>
    if d = 0 ∧ ds ≠ [] then none
    else some (d :: ds, ⟨rest, by
      have := length_digitRun cs
      rw [h] at this
      simp only [List.length_cons] at this
      omega⟩)

/-- The digits after a point; none in a text without a point. -/
def fractionPart (cs : List Char) :
    Option (Option (List Nat) × { r : List Char // r.length ≤ cs.length }) :=
  match cs with
  | '.' :: ds =>
    match h : digitRun ds with
    | ([], _) => none
    | (e :: es, rest) => some (some (e :: es), ⟨rest, by
        have := length_digitRun ds
        rw [h] at this
        simp only [List.length_cons] at this ⊢
        omega⟩)
  | cs => some (none, ⟨cs, Nat.le_refl _⟩)

/-- An exponent with its sign; none in a text without an exponent. -/
def exponentPart (cs : List Char) :
    Option (Option Int × { r : List Char // r.length ≤ cs.length }) :=
  match cs with
  | c :: ds =>
    if c = 'e' ∨ c = 'E' then
      let signed : Bool × { r : List Char // r.length ≤ ds.length } := match ds with
        | '+' :: es => (false, ⟨es, by simp⟩)
        | '-' :: es => (true, ⟨es, by simp⟩)
        | es => (false, ⟨es, Nat.le_refl _⟩)
      match h : digitRun signed.2.1 with
      | ([], _) => none
      | (e :: es, rest) =>
        let n := ofDigits (e :: es)
        some (some (if signed.1 then -(n : Int) else n), ⟨rest, by
          have := length_digitRun signed.2.1
          rw [h] at this
          have := signed.2.2
          simp only [List.length_cons] at *
          omega⟩)
    else some (none, ⟨c :: ds, Nat.le_refl _⟩)
  | [] => some (none, ⟨[], Nat.le_refl _⟩)

/-- The number of digits without a point or an exponent: an integer if it fits 64 bits, unless it
is a zero with a sign. -/
def integerOf (negative : Bool) (ds : List Nat) : Option Number :=
  let n := ofDigits ds
  if negative then
    if 0 < n ∧ Width.int64.holds (-n) then some (.integer (-n))
    else (Decimal.read? ds [] 0).map (.float true)
  else if Width.nat64.holds n then some (.integer n)
  else (Decimal.read? ds [] 0).map (.float false)

def numberOf (negative : Bool) (ds : List Nat) : Option (List Nat) → Option Int → Option Number
  | none, none => integerOf negative ds
  | frac, e => (Decimal.read? ds (frac.getD []) (e.getD 0)).map (.float negative)

def unsigned (negative : Bool) : Reader Number := fun cs => do
  let (ds, r) ← wholePart cs
  let (frac, r₁) ← fractionPart r.1
  let (e, r₂) ← exponentPart r₁.1
  let n ← numberOf negative ds frac e
  return (n, ⟨r₂.1, Nat.lt_of_le_of_lt (Nat.le_trans r₂.2 r₁.2) r.2⟩)

def number : Reader Number
  | '-' :: cs => (unsigned true cs).map fun p => (p.1, p.2.widen (by simp))
  | cs => unsigned false cs

/-! ### Arrays and objects -/

section Lists

variable (value : Reader Json)

/-- Reads the elements of an array, from the first one on, and the bracket after them. -/
def elements (cs : List Char) : Option (List Json × Rest cs) :=
  match value cs with
  | none => none
  | some (v, r) =>
    match h : skip r.1 with
    | ']' :: ds => some ([v], ⟨ds, by
        have := length_skip r.1
        have := r.2
        simp only [h, List.length_cons] at *
        omega⟩)
    | ',' :: ds =>
      have hd : ds.length < cs.length := by
        have := length_skip r.1
        have := r.2
        simp only [h, List.length_cons] at *
        omega
      (elements ds).map fun p => (v :: p.1, p.2.widen (Nat.le_of_lt hd))
    | _ => none
termination_by cs.length

def memberName (cs : List Char) : Option (String × Rest cs) :=
  match string (skip cs) with
  | none => none
  | some (n, r) =>
    match h : skip r.1 with
    | ':' :: ds => some (n, ⟨ds, by
        have := length_skip r.1
        have := length_skip cs
        have := r.2
        simp only [h, List.length_cons] at *
        omega⟩)
    | _ => none

/-- Reads the members of an object, from the first one on, and the brace after them. -/
def members (cs : List Char) : Option (Members × Rest cs) :=
  match memberName cs with
  | none => none
  | some (n, r₀) =>
    match value r₀.1 with
    | none => none
    | some (v, r) =>
      match h : skip r.1 with
      | '\x7d' :: ds => some ([(n, v)], ⟨ds, by
          have := length_skip r.1
          have := r.2
          have := r₀.2
          simp only [h, List.length_cons] at *
          omega⟩)
      | ',' :: ds =>
        have hd : ds.length < cs.length := by
          have := length_skip r.1
          have := r.2
          have := r₀.2
          simp only [h, List.length_cons] at *
          omega
        (members ds).map fun p => ((n, v) :: p.1, p.2.widen (Nat.le_of_lt hd))
      | _ => none
termination_by cs.length

end Lists

/-! ### Values -/

/-- Reads a value without parts. -/
def scalar : Reader Json
  | '"' :: cs => (string ('"' :: cs)).map fun p => (.string p.1, p.2)
  | 'n' :: cs => word ['n', 'u', 'l', 'l'] (by simp) .null ('n' :: cs)
  | 't' :: cs => word ['t', 'r', 'u', 'e'] (by simp) (.bool true) ('t' :: cs)
  | 'f' :: cs => word ['f', 'a', 'l', 's', 'e'] (by simp) (.bool false) ('f' :: cs)
  | cs => (number cs).map fun p => (.number p.1, p.2)

/-- Reads an array after its bracket. -/
def arrayBody (value : Reader Json) (cs : List Char) : Option (Json × Rest cs) :=
  match h : skip cs with
  | ']' :: ds => some (.array [], ⟨ds, by
      have := length_skip cs
      simp only [h, List.length_cons] at *
      omega⟩)
  | _ => (elements value cs).map fun p => (.array p.1, p.2)

/-- Reads an object after its brace. -/
def objectBody (value : Reader Json) (cs : List Char) : Option (Json × Rest cs) :=
  match h : skip cs with
  | '\x7d' :: ds => some (.object [], ⟨ds, by
      have := length_skip cs
      simp only [h, List.length_cons] at *
      omega⟩)
  | _ => (members value cs).map fun p => (.object (Members.sorted p.1), p.2)

/-- Reads a value whose parts nest at most `depth` deep. -/
def value : Nat → Reader Json
  | 0, cs =>
    match h : skip cs with
    | '[' :: _ => none
    | '\x7b' :: _ => none
    | _ => (scalar (skip cs)).map fun p => (p.1, p.2.widen (length_skip cs))
  | depth + 1, cs =>
    match h : skip cs with
    | '[' :: ds => (arrayBody (value depth) ds).map fun p => (p.1, p.2.widen (by
        have := length_skip cs
        simp only [h, List.length_cons] at this
        omega))
    | '\x7b' :: ds => (objectBody (value depth) ds).map fun p => (p.1, p.2.widen (by
        have := length_skip cs
        simp only [h, List.length_cons] at this
        omega))
    | _ => (scalar (skip cs)).map fun p => (p.1, p.2.widen (length_skip cs))

def maxDepth : Nat := 127

end JsonText

namespace Json

/-- The value that a text writes, with nothing but blanks around it. -/
def parse? (cs : List Char) : Option Json :=
  match JsonText.value JsonText.maxDepth cs with
  | some (v, r) => if JsonText.skip r.1 = [] then some v else none
  | none => none

def ofBytes? (bs : List UInt8) : Option Json := (Utf8.decode? bs).bind parse?

def ofText? (s : String) : Option Json := parse? s.toList

end Json

end SyntaxServer

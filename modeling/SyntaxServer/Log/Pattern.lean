/-!
Patterns of values: which texts are one. A value is a number or a regular expression; nothing is
matched with it here.
-/

namespace SyntaxServer.Log.Pattern

/-! ### Escapes -/

/-- What an escape stands for within a pattern: a character, a class, or a place. -/
inductive Atom where
  | character (c : Char)
  | group
  | place
  deriving DecidableEq, Repr

def hexNumber? (cs : List Char) : Option Nat :=
  cs.foldl (fun n c => do
    let n ← n
    if c.isDigit then return n * 16 + (c.toNat - 0x30)
    else if 'a' ≤ c.toLower ∧ c.toLower ≤ 'f' then return n * 16 + (c.toLower.toNat - 0x57)
    else none) (some 0)

/-- A character by its number, in `n` digits. -/
def numbered? (n : Nat) (cs : List Char) : Option (Atom × List Char) := do
  if cs.length < n then none
  let m ← hexNumber? (cs.take n)
  if m.isValidChar then return (.character (Char.ofNat m), cs.drop n) else none

/-- An escape after its backslash. Bounds of words are refused. -/
def escape? : List Char → Option (Atom × List Char)
  | [] => none
  | c :: cs =>
    if c = 'x' then numbered? 2 cs
    else if c = 'u' then numbered? 4 cs
    else if c = 'U' then numbered? 8 cs
    else if c = 'p' ∨ c = 'P' then
      if (cs.head?.map fun d => "clmnpsz".toList.contains d.toLower).getD false then
        some (.group, cs.drop 1)
      else none
    else if "dDsSwW".toList.contains c then some (.group, cs)
    else if c = 'A' ∨ c = 'z' then some (.place, cs)
    else if "aftnrv".toList.contains c then
      some (.character (Char.ofNat (match c with
        | 'a' => 7 | 'f' => 12 | 't' => 9 | 'n' => 10 | 'r' => 13 | _ => 11)), cs)
    else if c.toNat < 0x80 ∧ ¬ c.isAlphanum ∧ c ≠ '<' ∧ c ≠ '>' then some (.character c, cs)
    else none

/-- An atom of a class, and the rest. -/
def classAtom? : List Char → Option (Atom × List Char)
  | [] => none
  | '\\' :: cs => (escape? cs).filter fun p => p.1 ≠ .place
  | c :: cs => some (.character c, cs)

/-- An atom of a class or a range of characters. -/
def classItem? (cs : List Char) : Option (List Char) := do
  let (a, ds) ← classAtom? cs
  match ds with
  | '-' :: es =>
    if es.head? = some ']' ∨ es.head? = some '-' then return ds
    let (b, fs) ← classAtom? es
    match a, b with
    | .character x, .character y => if x ≤ y then return fs else none
    | _, _ => none
  | _ => return ds

def classNames : List String :=
  ["alnum", "alpha", "ascii", "blank", "cntrl", "digit", "graph", "lower", "print", "punct",
    "space", "upper", "word", "xdigit"]

/-- A class by its name, after its bracket, and the rest. -/
def namedClass? : List Char → Option (List Char)
  | ':' :: cs =>
    let ds := if cs.head? = some '^' then cs.drop 1 else cs
    let name := ds.takeWhile (· ≠ ':')
    if classNames.contains (String.ofList name) then
      match ds.drop name.length with
      | ':' :: ']' :: rest => some rest
      | _ => none
    else none
  | _ => none

/-- The start of a class after its bracket: a caret, dashes, and a bracket that does not end it. -/
def classStart (cs : List Char) : List Char :=
  let cs := if cs.head? = some '^' then cs.drop 1 else cs
  if cs.head? = some '-' then cs.dropWhile (· = '-')
  else if cs.head? = some ']' then cs.drop 1
  else cs

/-! ### Groups -/

/-- The flags of a group: each once, with at most one dash, which is not the last. -/
def areFlags (cs : List Char) : Bool :=
  cs.all ("imsUuRx-".toList.contains ·) && cs.eraseDups.length = cs.length && cs.getLast? ≠ some '-'

def isGroupName (cs : List Char) : Bool :=
  (cs.head?.map fun c => c.isAlpha || c = '_').getD false &&
    cs.all fun c => c.isAlphanum || "_.[]".toList.contains c

/-- A name of a group, up to its other bracket, and the rest. -/
def groupName? (cs : List Char) : Option (List Char) :=
  let name := cs.takeWhile (· ≠ '>')
  if isGroupName name ∧ cs.contains '>' then some (cs.drop (name.length + 1)) else none

/-- What follows the bracket of a group: the rest, and whether the group stays open. -/
def groupStart? : List Char → Option (List Char × Bool)
  | '?' :: 'P' :: '<' :: cs => (groupName? cs).map (·, true)
  | '?' :: '<' :: cs => (groupName? cs).map (·, true)
  | '?' :: cs =>
    let fs := cs.takeWhile fun c => c ≠ ':' && c ≠ ')'
    if ¬ areFlags fs then none
    else
      match cs.drop fs.length with
      | ':' :: rest => some (rest, true)
      | ')' :: rest => if fs = [] then none else some (rest, false)
      | _ => none
  | cs => some (cs, true)

/-! ### Patterns -/

/-- A regular expression. `nested` counts the open classes, `groups` the open groups, and
`repeats` says that there is something to repeat. Every step takes a character, so `fuel` may be
any number above their count. -/
def isExpression : (fuel nested groups : Nat) → (repeats : Bool) → List Char → Bool
  | 0, _, _, _, _ => false
  | _ + 1, nested, groups, _, [] => nested = 0 && groups = 0
  | fuel + 1, 0, groups, repeats, c :: cs =>
    if c = '(' then
      match groupStart? cs with
      | none => false
      | some (rest, true) => isExpression fuel 0 (groups + 1) false rest
      | some (rest, false) => isExpression fuel 0 groups false rest
    else if c = ')' then 0 < groups && isExpression fuel 0 (groups - 1) true cs
    else if c = '|' then isExpression fuel 0 groups false cs
    else if c = '[' then isExpression fuel 1 groups false (classStart cs)
    else if c = '?' ∨ c = '*' ∨ c = '+' then repeats && isExpression fuel 0 groups true cs
    else if c = '\x7b' then false
    else if c = '\\' then
      match escape? cs with
      | none => false
      | some (_, rest) => isExpression fuel 0 groups true rest
    else isExpression fuel 0 groups true cs
  | fuel + 1, nested + 1, groups, _, c :: cs =>
    if c = '[' then
      match namedClass? cs with
      | some rest => isExpression fuel (nested + 1) groups false rest
      | none => isExpression fuel (nested + 2) groups false (classStart cs)
    else if c = ']' then isExpression fuel nested groups true cs
    else if (c = '&' ∨ c = '-' ∨ c = '~') ∧ cs.head? = some c then
      isExpression fuel (nested + 1) groups false (cs.drop 1)
    else
      match classItem? (c :: cs) with
      | none => false
      | some rest => isExpression fuel (nested + 1) groups false rest

def afterDigits (cs : List Char) : List Char := cs.dropWhile Char.isDigit

/-- A number without a sign: digits with a point, at least one, and an exponent; or a name. -/
def isUnsigned (cs : List Char) : Bool :=
  let lower := String.ofList (cs.map Char.toLower)
  let rest := afterDigits cs
  let tail := if rest.head? = some '.' then afterDigits (rest.drop 1) else rest
  let digitCount := (cs.take (cs.length - tail.length)).countP Char.isDigit
  lower = "inf" || lower = "infinity" || lower = "nan" ||
    (0 < digitCount &&
      match tail with
      | [] => true
      | e :: es =>
        let ds := if es.head? = some '+' ∨ es.head? = some '-' then es.drop 1 else es
        e.toLower = 'e' && ds ≠ [] && ds.all Char.isDigit)

/-- A number with a plus sign, which is no regular expression. -/
def isPlusNumber : List Char → Bool
  | '+' :: cs => isUnsigned cs
  | _ => false

/-- A text that is a pattern. -/
def isMeant (cs : List Char) : Bool := isPlusNumber cs || isExpression (cs.length + 1) 0 0 false cs

end SyntaxServer.Log.Pattern

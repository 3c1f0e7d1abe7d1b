import SyntaxServer.Url.Basic
import SyntaxServer.Url.Percent

/-!
Paths: the segments between slashes, with dots resolved. A segment of two dots takes back the one
before it, but never a drive letter. Tabs and line ends within a path are breaks.
-/

namespace SyntaxServer.Url

/-- A tab or a line end. -/
def isBreak (c : Char) : Bool := c = '\t' || c = '\n' || c = '\r'

/-- A text in lower case and with its encoded points read. -/
def plainDots : List Char → List Char
  | '%' :: '2' :: c :: cs =>
    if c = 'e' ∨ c = 'E' then '.' :: plainDots cs else '%' :: plainDots ('2' :: c :: cs)
  | c :: cs => c :: plainDots cs
  | [] => []

def isDot (cs : List Char) : Bool := plainDots cs = ['.']

def isDotDot (cs : List Char) : Bool := plainDots cs = ['.', '.']

/-- A drive: a letter, and a colon or a bar. -/
def isDrive : List Char → Bool
  | [a, b] => a.isAlpha && (b = ':' || b = '|')
  | _ => false

/-- A path being read: its segments, the last one first, and whether a drive drops the host. -/
structure PathState where
  segments : List (List Char)
  dropsHost : Bool

def PathState.start : PathState := ⟨[], false⟩

/-- A segment that starts with a drive, alone or before a backslash. -/
def leadsDrive (cs : List Char) : Bool :=
  isDrive (cs.take 2) && (cs.drop 2 = [] || cs[2]? = some '\\')

/-- Takes back the last segment, unless a drive starts it. -/
def shorten : List (List Char) → List (List Char)
  | [] => []
  | s :: ss => if leadsDrive s then s :: ss else ss

/-- Adds a segment; `last` says that no slash follows it. -/
def PathState.add (kind : SchemeKind) (p : PathState) (segment : List Char) (last : Bool) :
    PathState :=
  let close (ss : List (List Char)) := if last then [] :: ss else ss
  if isDotDot segment then { p with segments := close (shorten p.segments) }
  else if isDot segment then { p with segments := close p.segments }
  else if kind = .file ∧ p.segments = [] ∧ isDrive segment then
    ⟨[segment.take 1 ++ [':']], true⟩
  else { p with segments := segment :: p.segments }

/-- A drive that a break parts from the rest of its segment, and that rest. -/
def brokenDrive? (segment : List Char) : Option (List Char × List Char) :=
  match segment.dropWhile isBreak with
  | a :: cs =>
    match cs.dropWhile isBreak with
    | ':' :: ds =>
      let rest := ds.filter (!isBreak ·)
      if a.isAlpha ∧ rest ≠ [] ∧ (ds.head?.map isBreak).getD false then some ([a, ':'], rest)
      else none
    | _ => none
  | [] => none

/-- Adds a segment that may hold breaks. They leave no trace, except after a drive at the start of
a path of a file: it becomes a segment of its own, and the rest one that is taken as it is. -/
def PathState.addRaw (kind : SchemeKind) (p : PathState) (segment : List Char) (last : Bool) :
    PathState :=
  match if kind = .file ∧ p.segments = [] then brokenDrive? segment else none with
  | some (drive, rest) => { p with segments := [percent inPath rest, drive] }
  | none => p.add kind (percent inPath (segment.filter (!isBreak ·))) last

def isSeparator (kind : SchemeKind) (c : Char) : Bool := c = '/' || (kind.isSpecial && c = '\\')

/-- The texts between the separators. -/
def splitSegments (kind : SchemeKind) : List Char → List (List Char)
  | [] => [[]]
  | c :: cs =>
    if isSeparator kind c then [] :: splitSegments kind cs
    else
      match splitSegments kind cs with
      | s :: ss => (c :: s) :: ss
      | [] => [[c]]

def PathState.addAll (kind : SchemeKind) (p : PathState) : List (List Char) → PathState
  | [] => p
  | [s] => p.addRaw kind s true
  | s :: t :: ss => (p.addRaw kind s false).addAll kind (t :: ss)

/-- The path of a text after its first slash, and whether it drops the host. A path of a file
starts with one slash only. -/
def path (kind : SchemeKind) (cs : List Char) : List Char × Bool :=
  let p := PathState.start.addAll kind (splitSegments kind cs)
  let segments := p.segments.reverse
  let segments := if kind = .file then segments.dropWhile (· = []) else segments
  ('/' :: List.intercalate ['/'] segments, p.dropsHost)

end SyntaxServer.Url

import SyntaxServer.Log.Entry
import SyntaxServer.Log.Pattern
import SyntaxServer.Number.Natural
import SyntaxServer.Text.Alphanumeric
import SyntaxServer.Text.Blank

/-!
Log filters: directives between commas. A directive has a level, a target, a span in brackets, or
some of them. The most special directive about a line decides; a line passes if its level is no
finer. No line is written within a span, so a directive that asks for a span, or for the value of
one of its fields, is about no line.
-/

namespace SyntaxServer.Log

/-- A directive about lines: the start of their path or nothing, a field that they have or nothing,
and the rank of the finest level that passes. -/
structure Directive where
  target : Option (List Char)
  field : Option (List Char)
  rank : Nat
  deriving DecidableEq, Repr

/-- A filter: no two of its directives are about the same lines. -/
structure Filter where
  directives : List Directive
  deriving DecidableEq, Repr

/-! ### Levels -/

/-- A name in any case. -/
def isNamed (cs : List Char) (name : String) : Bool := cs.map Char.toLower = name.toList

/-- The rank of a level: a number up to five, a name, or nothing, which means errors. -/
def rank? (cs : List Char) : Option Nat :=
  match Natural.word? cs with
  | some n => if n ≤ 5 then some n else none
  | none =>
    if cs = [] then some 1
    else if isNamed cs "off" then some 0
    else (Level.all.find? fun l => isNamed cs (String.ofList (l.name.toList.map Char.toLower))).map
      Level.rank

def finest : Nat := 5

/-- The rank after an equals sign; nothing there means that everything passes. -/
def rankAfterSign? (cs : List Char) : Option Nat := if cs = [] then some finest else rank? cs

/-! ### Spans -/

/-- What a directive says about spans: the name of one or none, and a field with a value or
without. -/
structure SpanPart where
  isNamed : Bool
  field : Option (List Char)
  hasValue : Bool
  deriving DecidableEq, Repr

def SpanPart.none : SpanPart := ⟨false, .none, false⟩

/-- A directive that is about spans only. -/
def SpanPart.isOnlySpans (s : SpanPart) : Bool := s.isNamed || s.hasValue

/-- A field: its name, and the value after an equals sign, which is a pattern. A further equals
sign ends the value. -/
def fieldPart? (cs : List Char) : Option (List Char × Bool) :=
  if cs = [] then none
  else
    match cs.splitOn '=' with
    | name :: value :: _ => if Pattern.isMeant value then some (name, true) else none
    | _ => some (cs, false)

/-! ### Directives -/

/-- A text being read. Places are counted in the text without the blanks at its ends, but parts
are cut out of the whole text. -/
structure DirectiveText where
  whole : List Char
  deriving Repr

namespace DirectiveText

def counted (s : DirectiveText) : List Char := Text.trim s.whole

def at? (s : DirectiveText) (i : Nat) : Option Char := s.counted[i]?

def find? (s : DirectiveText) (p : Char → Bool) (i : Nat) : Option Nat :=
  ((s.counted.drop i).findIdx? p).map (i + ·)

def cut (s : DirectiveText) (i j : Nat) : List Char := (s.whole.take j).drop i

def after (s : DirectiveText) (i : Nat) : List Char := s.whole.drop i

def level? (s : DirectiveText) (i : Nat) : Option Nat :=
  match s.at? i with
  | none => some finest
  | some '=' => rankAfterSign? (s.after (i + 1))
  | some _ => none

/-- The span from the place after its bracket on, and the place after its other bracket. -/
def span? (s : DirectiveText) (i : Nat) : Option (SpanPart × Nat) := do
  let j ← s.find? (fun c => c = ']' || c = '\x7b') i
  if s.at? j = some ']' then return (⟨true, none, false⟩, j + 1)
  let k ← s.find? (· = '\x7d') (j + 1)
  let (name, hasValue) ← fieldPart? (s.cut (j + 1) k)
  if s.at? (k + 1) = some ']' then
    return (⟨s.cut i j ≠ [], some name, hasValue⟩, k + 2)
  else none

end DirectiveText

/-- A letter, a figure, or a sign that may start a target. -/
def startsDirective (c : Char) : Bool := Text.isAlphanumeric c || c = '-' || c = ':' || c = '_'

/-- A directive without a level of its own: a level, or a target at which everything passes. -/
def wordDirective (cs : List Char) : Directive :=
  match rank? cs with
  | some n => ⟨none, none, n⟩
  | none => ⟨some cs, none, finest⟩

/-- A directive whose span starts at a place: a directive about lines, or about spans only. -/
def spanDirective? (s : DirectiveText) (target : Option (List Char)) (i : Nat) :
    Option (Option Directive) := do
  let (part, j) ← s.span? i
  let rank ← s.level? j
  return if part.isOnlySpans then none else some ⟨target, part.field, rank⟩

/-- Reads a directive: none if it is malformed, nothing in it if it is about spans only. -/
def directive? (cs : List Char) : Option (Option Directive) :=
  let s : DirectiveText := ⟨cs⟩
  match s.at? 0 with
  | none => none
  | some '[' => spanDirective? s none 1
  | some c =>
    if ¬ startsDirective c then none
    else
      match s.find? (fun c => c = '=' || c = '[') 0 with
      | none => some (some (wordDirective cs))
      | some i =>
        if s.at? i = some '[' then spanDirective? s (some (s.cut 0 i)) (i + 1)
        else (s.level? i).map fun n => some ⟨some (s.cut 0 i), none, n⟩

/-! ### Filters -/

def Directive.isLike (d e : Directive) : Bool := d.target = e.target && d.field = e.field

def Filter.add (f : Filter) (d : Directive) : Filter :=
  ⟨f.directives.filter (fun e => !e.isLike d) ++ [d]⟩

/-- Reads a filter. One without directives passes errors. -/
def Filter.read? (s : String) : Option Filter := do
  let parts := (s.toList.splitOn ',').filter (· ≠ [])
  let ds ← parts.mapM directive?
  if parts = [] then return ⟨[⟨none, none, 1⟩]⟩
  return ds.reduceOption.foldl Filter.add ⟨[]⟩

/-- The filter of an environment: its own, if it is well formed, else that of the level. -/
def Filter.choose? (environment : Option String) (level : String) : Option Filter :=
  (environment.bind Filter.read?).or (Filter.read? level)

/-! ### Passing -/

def Directive.isAbout (d : Directive) (e : Entry) : Bool :=
  (d.target.getD []).isPrefixOf e.component.path.toList &&
    (d.field.map fun name => e.fieldNames.contains (String.ofList name)).getD true

/-- How special a directive is: how long its target is, and whether it asks for a field. -/
def Directive.weight (d : Directive) : Nat :=
  2 * (d.target.map (·.length + 1)).getD 0 + if d.field.isSome then 1 else 0

/-- A directive is more special than another one: by its weight, else by the order of the names of
their fields. -/
def Directive.isAbove (d e : Directive) : Bool :=
  e.weight < d.weight ||
    (e.weight = d.weight &&
      decide (String.ofList (e.field.getD []) < String.ofList (d.field.getD [])))

/-- The most special directive about a line. -/
def Filter.deciding? (f : Filter) (e : Entry) : Option Directive :=
  (f.directives.filter (·.isAbout e)).foldl (fun best d =>
    match best with
    | none => some d
    | some b => if d.isAbove b then some d else some b) none

def Filter.passes (f : Filter) (e : Entry) : Bool :=
  ((f.deciding? e).map fun d => decide (e.level.rank ≤ d.rank)).getD false

end SyntaxServer.Log

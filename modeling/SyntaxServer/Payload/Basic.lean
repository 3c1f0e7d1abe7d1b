import SyntaxServer.Number.Width
import SyntaxServer.Payload.Error
import SyntaxServer.Url.Parser

/-!
Reading payloads from JSON values: scalars, lists, optional values, and records. A record is an
object, whose members are read in the order of their names, or an array of the fields in their
declared order.
-/

namespace SyntaxServer.Payload

/-- A reader of a payload. -/
abbrev Reader (α : Type) := Json → Except PayloadError α

/-! ### Scalars -/

/-- An integer of a width. -/
def integer (w : Width) : Reader Int
  | .number (.integer n) => if w.holds n then .ok n else .error (.range n w.name)
  | v => .error (.kind v w.name)

def int64 : Reader Int := integer .int64

def int32 : Reader Int := integer .int32

def nat32 : Reader Nat := fun v => (integer .nat32 v).map Int.toNat

def string : Reader String
  | .string s => .ok s
  | v => .error (.kind v "a string")

def url : Reader Url
  | .string s => (Url.parse s).mapError (.url · s)
  | v => .error (.kind v "a string representing an URL")

def any : Reader Json := .ok

/-- Nothing: null. -/
def unit : Reader Unit
  | .null => .ok ()
  | v => .error (.kind v "unit")

/-- One of some names, as a string or as the only name of an object that holds nothing. -/
def nameOf (known : List String) : Reader String
  | .string s => if known.contains s then .ok s else .error (.variant s known)
  | .object [(s, v)] =>
    if known.contains s then (unit v).map fun _ => s else .error (.variant s known)
  | .object _ => .error .tags
  | v => .error (.kind v "string or map")

/-! ### Lists and optional values -/

def optional {α : Type} (read : Reader α) : Reader (Option α)
  | .null => .ok none
  | v => (read v).map some

def list {α : Type} (read : Reader α) : Reader (List α)
  | .array vs => vs.mapM read
  | v => .error (.kind v "a sequence")

/-! ### Records -/

/-- A field of a record; an array may end before a field with a default. -/
structure Field where
  name : String
  hasDefault : Bool

/-- A field that an array must have. -/
def Field.plain (name : String) : Field := ⟨name, false⟩

/-- A field that an array may end before. -/
def Field.trailing (name : String) : Field := ⟨name, true⟩

/-- A record: its name and its fields in their declared order. -/
structure Shape where
  name : String
  fields : List Field

def Shape.title (s : Shape) : String := "struct " ++ s.name

def elementCount (n : Nat) : String :=
  toString n ++ (if n = 1 then " element" else " elements")

/-- The record and the length of its array form. -/
def Shape.lengthTitle (s : Shape) : String := s.title ++ " with " ++ elementCount s.fields.length

/-- How an array that is too long is refused: by what it has, or by what was taken from it. -/
inductive Surplus where
  | counted
  | taken

/-- The fault of an array of `n` elements for a record of fewer. -/
def Surplus.error (u : Surplus) (s : Shape) (n : Nat) : PayloadError :=
  .length n (match u with
    | .counted => "fewer elements in array"
    | .taken => elementCount s.fields.length ++ " in sequence")

section Records

variable {σ α : Type} (visit : String → Json → σ → Except PayloadError σ)

def visitMembers : σ → Members → Except PayloadError σ
  | acc, [] => .ok acc
  | acc, m :: ms => (visit m.1 m.2 acc).bind fun acc => visitMembers acc ms

/-- Reads the elements of an array, one for each field, the first of them the field `i`. -/
def visitElements (s : Shape) (u : Surplus) (size : Nat) :
    Nat → σ → List Field → List Json → Except PayloadError σ
  | _, acc, [], [] => .ok acc
  | _, _, [], _ :: _ => .error (u.error s size)
  | i, acc, f :: fs, [] =>
    if f.hasDefault then visitElements s u size (i + 1) acc fs []
    else .error (.length i s.lengthTitle)
  | i, acc, f :: fs, v :: vs =>
    (visit f.name v acc).bind fun acc => visitElements s u size (i + 1) acc fs vs

/-- Reads a record: collects its fields, then finishes. -/
def record (s : Shape) (u : Surplus) (empty : σ) (finish : σ → Except PayloadError α) : Reader α
  | .object ms => (visitMembers visit empty ms).bind finish
  | .array vs => (visitElements visit s u vs.length 0 empty s.fields vs).bind finish
  | v => .error (.kind v s.title)

end Records

/-- The value of a field that must be there. -/
def required {α : Type} (name : String) : Option α → Except PayloadError α
  | some a => .ok a
  | none => .error (.missing name)

end SyntaxServer.Payload

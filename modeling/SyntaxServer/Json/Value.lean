import SyntaxServer.Number.Binary64

/-!
JSON values. The members of an object are a list: in ascending order of their names where the
object was read, in the order of writing where it was built.
-/

namespace SyntaxServer

/-- A number: an integer of 64 bits, with a sign or without, or a binary number with its sign. -/
inductive Number where
  | integer (n : Int)
  | float (negative : Bool) (magnitude : Binary64)
  deriving DecidableEq, Repr

inductive Json where
  | null
  | bool (b : Bool)
  | number (n : Number)
  | string (s : String)
  | array (elements : List Json)
  | object (members : List (String × Json))
  deriving Repr

/-- Named members of an object. -/
abbrev Members := List (String × Json)

namespace Members

/-- Puts a member in its place in the order of names. It replaces one of its name. -/
def insert (name : String) (v : Json) : Members → Members
  | [] => [(name, v)]
  | m :: ms =>
    if name < m.1 then (name, v) :: m :: ms
    else if name = m.1 then (name, v) :: ms
    else m :: insert name v ms

/-- The members in the order of their names, of two with one name the later one. -/
def sorted (ms : Members) : Members := ms.foldl (fun acc m => insert m.1 m.2 acc) []

def get? (ms : Members) (name : String) : Option Json := ms.lookup name

/-- A member that is written only if it has a value. -/
def optional (name : String) (v : Option Json) : Members := v.toList.map (name, ·)

end Members

namespace Json

def get? : Json → String → Option Json
  | .object ms, name => Members.get? ms name
  | _, _ => none

def ofInt (n : Int) : Json := .number (.integer n)

def ofNat (n : Nat) : Json := ofInt n

/-- Null for a value that is not there. -/
def ofOption (v : Option Json) : Json := v.getD .null

/-- The value, unless it is null. -/
def nonNull? : Json → Option Json
  | .null => none
  | v => some v

end Json

end SyntaxServer

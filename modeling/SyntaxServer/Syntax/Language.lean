import SyntaxServer.Rpc.Method

/-!
Languages with a grammar, and the language of a document: by the client's name for it, else by the
extension of its address.
-/

namespace SyntaxServer

inductive Language where
  | json
  | toml
  | yaml
  deriving DecidableEq, Repr

instance : Wire Language where
  all := [.json, .toml, .yaml]
  wireName
    | .json => "json"
    | .toml => "toml"
    | .yaml => "yaml"

namespace Language

/-- The text after the last point. -/
def extension? (cs : List Char) : Option (List Char) :=
  if cs.contains '.' then some (cs.reverse.takeWhile (· ≠ '.')).reverse else none

def ofExtension? (extension : String) : Option Language :=
  if extension = "json" ∨ extension = "jsonc" then some .json
  else if extension = "toml" then some .toml
  else if extension = "yaml" ∨ extension = "yml" then some .yaml
  else none

/-- The language of a document. -/
def detect (languageId uri : String) : Option Language :=
  match Wire.ofName? Language languageId with
  | some l => some l
  | none =>
    if languageId = "jsonc" then some .json
    else (extension? uri.toList).bind fun e => ofExtension? (String.ofList e)

end Language

end SyntaxServer

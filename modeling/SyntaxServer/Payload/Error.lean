import SyntaxServer.Json.Printer
import SyntaxServer.Text.Quoted
import SyntaxServer.Url.Basic

/-!
Why a JSON value is not the payload that was asked for.
-/

namespace SyntaxServer

/-- What a value is, as messages call it. -/
def Json.description : Json → String
  | .null => "null"
  | .bool b => "boolean `" ++ (if b then "true" else "false") ++ "`"
  | .number (.integer n) => "integer `" ++ toString n ++ "`"
  | .number n => "floating point `" ++ n.text ++ "`"
  | .string s => "string " ++ Text.quoted s
  | .array _ => "sequence"
  | .object _ => "map"

/-- A fault of a payload. -/
inductive PayloadError where
  | kind (got : Json) (expected : String)
  | range (n : Int) (expected : String)
  | tags
  | length (n : Nat) (expected : String)
  | missing (field : String)
  | variant (name : String) (known : List String)
  | noVariant (type : String)
  | url (cause : UrlError) (text : String)
  deriving Repr

def PayloadError.message : PayloadError → String
  | .kind got expected => "invalid type: " ++ got.description ++ ", expected " ++ expected
  | .range n expected => "invalid value: integer `" ++ toString n ++ "`, expected " ++ expected
  | .tags => "invalid value: map, expected map with a single key"
  | .length n expected => "invalid length " ++ toString n ++ ", expected " ++ expected
  | .missing field => "missing field `" ++ field ++ "`"
  | .variant name known =>
    "unknown variant `" ++ name ++ "`, expected one of " ++
      ", ".intercalate (known.map fun k => "`" ++ k ++ "`")
  | .noVariant type => "data did not match any variant of untagged enum " ++ type
  | .url cause text => cause.message ++ ": " ++ Text.quoted text

end SyntaxServer

import SyntaxServer.Syntax.TreeText

/-!
Hovers: what is said about a place in a document. The innermost named node at the place is drawn,
under the path of kinds that leads to it.
-/

namespace SyntaxServer

/-- What is said about a place, as marked-up text, and the range it is about. -/
structure Hover where
  markdown : String
  range : Range
  deriving DecidableEq, Repr

def Hover.toJson (h : Hover) : Json :=
  .object [("contents", .object [("kind", .string "markdown"), ("value", .string h.markdown)]),
    ("range", h.range.toJson)]

mutual

/-- The named nodes below the root on the way to a place, the outermost first. -/
def Tree.pathTo (p : Point) : Tree → List Tree
  | .node _ cs => Tree.pathAmong p cs

/-- The way to a place through the first of some trees that is named and holds it. -/
def Tree.pathAmong (p : Point) : List Tree → List Tree
  | [] => []
  | c :: cs => if c.info.named && c.holds p then c :: Tree.pathTo p c else Tree.pathAmong p cs

end

namespace Hover

/-- The kinds on a path. -/
def pathText (path : List Tree) : String :=
  " › ".intercalate (path.map fun t => "`" ++ t.kind ++ "`")

/-- The hover of a path, none of an empty one. -/
def ofPath (source : List Char) (path : List Tree) : Option Hover :=
  path.getLast?.map fun t =>
    ⟨pathText path ++ "\n\n```text\n" ++ String.ofList (t.print source) ++ "\n```", t.range source⟩

/-- The hover at a place of a document, none where nothing is to be said. A request that was
cancelled gets none. -/
def at? (grammars : Grammars) (languageId uri text : String) (p : Position) (cancelled : Bool) :
    Except AnalysisError (Option Hover) :=
  match Language.detect languageId uri, Text.pointAt text.toList p with
  | some language, some point => do
    let tree ← grammars language text
    if cancelled then throw .cancelled
    return ofPath text.toList (tree.pathTo point)
  | _, _ => return none

end Hover

end SyntaxServer

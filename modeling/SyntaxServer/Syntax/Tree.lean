import SyntaxServer.Syntax.Language
import SyntaxServer.Syntax.Position

/-!
Syntax trees, as a grammar makes them of a text.
-/

namespace SyntaxServer

/-- What a node of a tree says of itself. Punctuation and keywords have no name. -/
structure NodeInfo where
  kind : String
  named : Bool
  startByte : Nat
  endByte : Nat
  start : Point
  stop : Point
  deriving DecidableEq, Repr

inductive Tree where
  | node (info : NodeInfo) (children : List Tree)
  deriving Repr

namespace Tree

/-- What the root says of itself. -/
def info : Tree → NodeInfo
  | .node i _ => i

def children : Tree → List Tree
  | .node _ cs => cs

def kind (t : Tree) : String := t.info.kind

def isLeaf (t : Tree) : Bool := t.children.isEmpty

/-- The root holds a place: its start is not after it, and its end is. -/
def holds (t : Tree) (p : Point) : Bool := !p.before t.info.start && p.before t.info.stop

def range (text : List Char) (t : Tree) : Range :=
  ⟨Text.positionOf text t.info.start, Text.positionOf text t.info.stop⟩

mutual

def size : Tree → Nat
  | .node _ cs => sizeAll cs + 1

def sizeAll : List Tree → Nat
  | [] => 0
  | t :: ts => size t + sizeAll ts

end

theorem sizeAll_append (ts us : List Tree) : sizeAll (ts ++ us) = sizeAll ts + sizeAll us := by
  induction ts with
  | nil => simp [sizeAll]
  | cons t ts ih => simp only [List.cons_append, sizeAll, ih, Nat.add_assoc]

/-- The subtree at the end of a path of child numbers. -/
def descendant? : Tree → List Nat → Option Tree
  | t, [] => some t
  | t, i :: is => t.children[i]?.bind fun c => descendant? c is

end Tree

/-- Why no tree or no answer was made of a text. -/
inductive AnalysisError where
  | cancelled
  | grammar (cause : String)
  | noTree
  deriving DecidableEq, Repr

def AnalysisError.message : AnalysisError → String
  | .cancelled => "Analysis cancelled"
  | .grammar cause => "Failed to load grammar: " ++ cause
  | .noTree => "Failed to parse document"

/-- The grammars: a tree of every text in every language, or an error. -/
abbrev Grammars := Language → String → Except AnalysisError Tree

end SyntaxServer

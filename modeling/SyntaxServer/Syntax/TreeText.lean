import SyntaxServer.Syntax.Tree

/-!
The drawing of a syntax tree: a line for every node, with branches to its parent. It is made twice:
`render` follows the tree, and `print` keeps the trees that wait in a list, so that no depth of
nesting exhausts it.
-/

namespace SyntaxServer.Tree

/-- Levels that are drawn below the root. -/
def maxDrawnDepth : Nat := 64

section Drawing

variable (source : List Char)

/-! ### Lines -/

/-- A leaf: its kind, unless it has no name, and its text. -/
def leafText (t : Tree) : List Char :=
  let text := (Text.slice? t.info.startByte t.info.endByte source).getD []
  (if t.info.named then t.kind.toList ++ [' '] else []) ++ '\'' :: text ++ ['\'']

/-- A node whose children are not drawn. -/
def elidedText (t : Tree) : List Char := t.kind.toList ++ " …".toList

/-- A node with one leaf below it. -/
def singleText (t leaf : Tree) : List Char := t.kind.toList ++ " ── ".toList ++ leafText source leaf

def branch (last : Bool) : List Char := (if last then "└── " else "├── ").toList

/-- What stands before the lines below a child. -/
def indent (last : Bool) : List Char := (if last then "    " else "│   ").toList

/-- What a node draws in its own line, and whether its children follow. -/
def ownText (t : Tree) (depth : Nat) : List Char × Bool :=
  match t.children with
  | [] => (leafText source t, false)
  | [c] =>
    if maxDrawnDepth ≤ depth then (elidedText t, false)
    else if c.isLeaf then (singleText source t c, false)
    else (t.kind.toList, true)
  | _ => if maxDrawnDepth ≤ depth then (elidedText t, false) else (t.kind.toList, true)

/-! ### Following the tree -/

mutual

/-- The drawing of a tree below a margin. -/
def render (margin : List Char) (depth : Nat) : Tree → List Char
  | .node i cs =>
    let own := ownText source (.node i cs) depth
    own.1 ++ if own.2 then renderAll margin (depth + 1) cs else []

/-- The drawings of the children of a node. -/
def renderAll (margin : List Char) (depth : Nat) : List Tree → List Char
  | [] => []
  | c :: cs =>
    let last := cs.isEmpty
    '\n' :: margin ++ branch last ++ render (margin ++ indent last) depth c ++
      renderAll margin depth cs

end

/-! ### Keeping a list -/

/-- A tree that waits to be drawn: what stands before it in its line, the margin of the lines
below it, and its depth. -/
structure Pending where
  tree : Tree
  lead : List Char
  margin : List Char
  depth : Nat

/-- The children of a node, waiting. -/
def pendingAll (margin : List Char) (depth : Nat) : List Tree → List Pending
  | [] => []
  | c :: cs =>
    let last := cs.isEmpty
    ⟨c, '\n' :: margin ++ branch last, margin ++ indent last, depth⟩ :: pendingAll margin depth cs

def pendingSize (ps : List Pending) : Nat := sizeAll (ps.map (·.tree))

theorem tree_pendingAll (margin : List Char) (depth : Nat) (cs : List Tree) :
    (pendingAll margin depth cs).map (·.tree) = cs := by
  induction cs with
  | nil => rfl
  | cons c cs ih => simp [pendingAll, ih]

/-- Draws the trees that wait, the first one first. -/
def printAll : List Pending → List Char
  | [] => []
  | p :: ps =>
    let own := ownText source p.tree p.depth
    let below := if own.2 then pendingAll p.margin (p.depth + 1) p.tree.children else []
    p.lead ++ own.1 ++ printAll (below ++ ps)
termination_by ps => pendingSize ps
decreasing_by
  obtain ⟨⟨i, cs⟩, l, m, d⟩ := p
  simp only [pendingSize, List.map_append, List.map_cons, sizeAll_append, sizeAll, size, children]
  split
  · rw [tree_pendingAll]
    omega
  · simp only [List.map_nil, sizeAll]
    omega

def print (t : Tree) : List Char := printAll source [⟨t, [], [], 0⟩]

end Drawing

end SyntaxServer.Tree

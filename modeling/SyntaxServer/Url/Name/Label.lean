import SyntaxServer.Text.Mark
import SyntaxServer.Url.Name.Composition
import SyntaxServer.Url.Name.Direction
import SyntaxServer.Url.Name.Form
import SyntaxServer.Url.Name.Joining
import SyntaxServer.Url.Percent
import SyntaxServer.Url.Punycode

/-!
Labels of a name: the parts between points. A label beyond ASCII has one written form in ASCII, and
a label that is such a form is held to the rules of the label it stands for.
-/

namespace SyntaxServer.Url.Name

/-- A character of ASCII that no name holds. -/
def isForbidden (c : Char) : Bool := inControls c || " #/:<>?@[\\]^|%".toList.contains c

/-- The folded form of a text: every character in its form, and the whole composed. None if it
holds a character that names do not. -/
def folded? (cs : List Char) : Option (List Char) :=
  ((cs.mapM form?).map fun fs => composed fs.flatten).filter fun ds => !ds.any isForbidden

/-- The mark of a label that stands for another. -/
def encodedMark : List Char := ['x', 'n', '-', '-']

/-- The longest label that is written in ASCII. -/
def longestLabel : Nat := 1000

/-- The longest text after the mark that is read. -/
def longestEncoded : Nat := 2000

def isAscii (c : Char) : Bool := c.toNat < 0x80

/-- The label that the text after the mark stands for. It is in folded form and not in ASCII. -/
def decoded? (cs : List Char) : Option (List Char) :=
  if cs.all isAscii ∧ cs ≠ [] ∧ cs.getLast? ≠ some '-' ∧ cs.length ≤ longestEncoded then
    (Punycode.decode? cs).filter fun label => folded? label = some label
  else none

/-- The label that a label in folded form stands for. -/
def meaning? (label : List Char) : Option (List Char) :=
  if encodedMark.isPrefixOf label then decoded? (label.drop 4) else some label

/-- A label that a name may hold: it starts with no mark, and its joiners fit. -/
def isProper (label : List Char) : Bool :=
  label.all isAscii ||
    (!(label.head?.map Text.isMark).getD false && joinersFit [] label &&
      label.length ≤ longestLabel)

def asciiLabel (label : List Char) : List Char :=
  if label.all isAscii then label else encodedMark ++ Punycode.encode label

/-- A name in ASCII, none if it breaks a rule. -/
def ascii? (cs : List Char) : Option (List Char) := do
  let labels := (← folded? cs).splitOn '.'
  let meanings ← labels.mapM meaning?
  if meanings.all isProper && directionsAgree meanings then
    some (List.intercalate ['.'] (labels.map asciiLabel))
  else none

end SyntaxServer.Url.Name

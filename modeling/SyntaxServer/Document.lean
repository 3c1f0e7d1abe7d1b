import SyntaxServer.Table
import SyntaxServer.Url.Basic

/-!
Open documents, under their addresses.
-/

namespace SyntaxServer

/-- A document that a client has opened. -/
structure Document where
  uri : Url
  languageId : String
  version : Int
  text : String
  deriving DecidableEq, Repr

structure Documents where
  table : Table Url Document
  deriving Repr

namespace Documents

def empty : Documents := ⟨.empty⟩

def get? (ds : Documents) (u : Url) : Option Document := ds.table.get? u

def size (ds : Documents) : Nat := ds.table.size

/-- Opens a document, in place of one of its address. -/
def put (ds : Documents) (d : Document) : Documents := ⟨ds.table.insert d.uri d⟩

/-- Gives an open document a new version and text; none if it is not open. -/
def replace? (ds : Documents) (u : Url) (version : Int) (text : String) : Option Documents :=
  (ds.get? u).map fun d => ⟨ds.table.insert u { d with version := version, text := text }⟩

/-- Closes a document; none if it is not open. -/
def close? (ds : Documents) (u : Url) : Option (Document × Documents) :=
  (ds.get? u).map fun d => (d, ⟨ds.table.erase u⟩)

@[simp] theorem get?_put (ds : Documents) (d : Document) (u : Url) :
    (ds.put d).get? u = if u = d.uri then some d else ds.get? u :=
  Table.get?_insert ..

end Documents

end SyntaxServer

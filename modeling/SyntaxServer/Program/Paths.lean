/-!
Where the program keeps its data and its log.
-/

namespace SyntaxServer.Program

/-- A path below another one; an absolute one stands alone. -/
def joinPath (base path : String) : String :=
  if path.startsWith "/" then path
  else if base = "" ∨ base.endsWith "/" then base ++ path
  else base ++ "/" ++ path

/-- The directory of a path: what stands before its last part. -/
def directory (path : String) : String :=
  let before := (path.toList.reverse.dropWhile (· = '/')).dropWhile (· ≠ '/')
  let cut := before.dropWhile (· = '/')
  String.ofList (if cut = [] then before.take 1 else cut.reverse)

/-- The directory of the program's data: below the one for all data, else below the home. -/
def dataDir (dataHome home : Option String) : String :=
  let base := (dataHome.or (home.map (joinPath · ".local/share"))).getD "."
  joinPath base "dedukt-lsp"

/-- The log file of a directory. -/
def logPath (dir : String) : String := joinPath dir "dedukt-lsp.log"

end SyntaxServer.Program

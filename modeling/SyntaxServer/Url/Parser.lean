import SyntaxServer.Url.Host
import SyntaxServer.Url.Path

/-!
Reading a URL into its normal form. A text is a scheme and a colon, then an authority after two
slashes or none, a path, a query and a fragment.
-/

namespace SyntaxServer.Url

/-! ### Parts -/

/-- The text without blanks and controls at its ends. -/
def trimmed (cs : List Char) : List Char :=
  let low (c : Char) : Bool := c.toNat ≤ 0x20
  ((cs.dropWhile low).reverse.dropWhile low).reverse

/-- The text without breaks. -/
def unbroken (cs : List Char) : List Char := cs.filter (!isBreak ·)

/-- A character of a scheme after its first one. -/
def isSchemeChar (c : Char) : Bool := c.isAlphanum || c = '+' || c = '-' || c = '.'

/-- The scheme in lower case, and the text after its colon. -/
def scheme? (cs : List Char) : Option (List Char × List Char) :=
  let scheme := unbroken (cs.takeWhile (· ≠ ':'))
  match cs.dropWhile (· ≠ ':') with
  | [] => none
  | _ :: rest =>
    if (scheme.head?.map Char.isAlpha).getD false ∧ scheme.all isSchemeChar then
      some (scheme.map Char.toLower, rest)
    else none

/-- A character that ends a path. -/
def endsPath (c : Char) : Bool := c = '?' || c = '#'

/-- A character that ends an authority. -/
def endsAuthority (kind : SchemeKind) (c : Char) : Bool := endsPath c || isSeparator kind c

/-- The query and the fragment, with their marks. -/
def queryAndFragment (kind : SchemeKind) (cs : List Char) : List Char :=
  let queryClass := if kind.isSpecial then inSpecialQuery else inQuery
  let fragment : List Char → List Char
    | '#' :: ds => '#' :: percent inFragment ds
    | _ => []
  match cs with
  | '?' :: ds =>
    '?' :: percent queryClass (ds.takeWhile (· ≠ '#')) ++ fragment (ds.dropWhile (· ≠ '#'))
  | ds => fragment ds

/-! ### The authority -/

/-- The user name and password with their marks, and the rest of the authority. The last at sign
ends them; an empty name and an empty password leave no trace. -/
def userInfo (authority : List Char) : List Char × List Char :=
  if authority.contains '@' then
    let host := (authority.reverse.takeWhile (· ≠ '@')).reverse
    let user := authority.take (authority.length - host.length - 1)
    let name := percent inUser (user.takeWhile (· ≠ ':'))
    let word := percent inUser ((user.dropWhile (· ≠ ':')).drop 1)
    let word := if word = [] then [] else ':' :: word
    (if name = [] ∧ word = [] then [] else name ++ word ++ ['@'], host)
  else ([], authority)

/-- The host of an authority, and the port text with its colon. Colons in brackets belong to the
host. -/
def splitPort : Bool → List Char → List Char × List Char
  | _, [] => ([], [])
  | inside, c :: cs =>
    if c = ':' ∧ ¬ inside then ([], c :: cs)
    else
      let r := splitPort (if c = '[' then true else if c = ']' then false else inside) cs
      (c :: r.1, r.2)

/-- The port as it is written: not at all if it is the one of the scheme. -/
def portText (scheme : List Char) : List Char → Except UrlError (List Char)
  | ':' :: [] => .ok []
  | ':' :: ds =>
    match Natural.read? ds with
    | none => .error .port
    | some n =>
      if 65535 < n then .error .port
      else if defaultPort? scheme = some n then .ok []
      else .ok (':' :: Natural.digits n)
  | _ => .ok []

/-- The normal form of an authority, and what its port leaves to the path: a backslash ends a port,
also where it ends no authority. `isLast` says that nothing follows the authority; then a single at
sign is an empty one. -/
def authority (scheme : List Char) (isLast : Bool) (cs : List Char) :
    Except UrlError (List Char × List Char) := do
  let kind := SchemeKind.of scheme
  let (user, rest) := userInfo cs
  let (host, port) := splitPort false rest
  if host = [] ∧ (kind.isSpecial ∨ port ≠ [] ∨ user ≠ [] ∨ (cs = ['@'] ∧ ¬ isLast)) then
    throw .emptyHost
  let host ← if kind.isSpecial then specialHost host else opaqueHost host
  let portText ← portText scheme (port.takeWhile (· ≠ '\\'))
  return (user ++ host ++ portText, port.dropWhile (· ≠ '\\'))

/-! ### Whole texts -/

/-- The text without the separator at its start. -/
def withoutSlash (kind : SchemeKind) : List Char → List Char
  | [] => []
  | c :: cs => if isSeparator kind c then cs else c :: cs

/-- A URL with an authority: what follows the two slashes. -/
def afterSlashes (scheme : List Char) (cs : List Char) : Except UrlError (List Char) := do
  let kind := SchemeKind.of scheme
  let text := cs.takeWhile fun c => !endsAuthority kind c
  let after := cs.dropWhile fun c => !endsAuthority kind c
  let (auth, left) ← authority scheme (after = []) text
  let rest := left ++ after
  let pathText := rest.takeWhile fun c => !endsPath c
  let path :=
    if pathText = [] ∧ ¬ kind.isSpecial then [] else (path kind (withoutSlash kind pathText)).1
  return scheme ++ "://".toList ++ auth ++ path ++
    queryAndFragment kind (rest.dropWhile fun c => !endsPath c)

/-- The host of a file, empty for this machine. -/
def fileHost (cs : List Char) : Except UrlError (List Char) := do
  if cs = [] then return []
  let host ← specialHost cs
  return if host = "localhost".toList then [] else host

/-- A URL of a file: its host, and what follows the slash of its path. A drive drops the host. -/
def fileText (host : List Char) (cs : List Char) : List Char :=
  let p := path .file (cs.takeWhile fun c => !endsPath c)
  "file://".toList ++ (if p.2 then [] else host) ++ p.1 ++
    queryAndFragment .file (unbroken (cs.dropWhile fun c => !endsPath c))

/-- A URL of a file: what follows the two slashes. A drive is no host. After a host that is not
written, the path keeps its slash as an empty segment, and no drive is at its start. -/
def afterFileSlashes (cs : List Char) : Except UrlError (List Char) := do
  let text := unbroken (cs.takeWhile fun c => !endsAuthority .file c)
  if isDrive text then return fileText [] cs
  let host ← fileHost text
  let rest := cs.dropWhile fun c => !endsAuthority .file c
  return if host = [] then fileText [] rest else fileText host (withoutSlash .file rest)

/-- A URL of a file: what follows the colon. Only two slashes make a host. -/
def afterFile (cs : List Char) : Except UrlError (List Char) :=
  match cs.dropWhile isBreak with
  | [] => .ok (fileText [] [])
  | a :: ds =>
    if isSeparator .file a then
      match ds.dropWhile isBreak with
      | [] => .ok (fileText [] [])
      | b :: es => if isSeparator .file b then afterFileSlashes es else .ok (fileText [] ds)
    else .ok (fileText [] (a :: ds))

/-- A URL of any other scheme: what follows the colon. A path of two slashes without an authority
has a dot before it. -/
def afterOther (scheme : List Char) (cs : List Char) : Except UrlError (List Char) :=
  match cs with
  | '/' :: '/' :: ds => afterSlashes scheme ds
  | '/' :: ds =>
    let p := (path .other (ds.takeWhile fun c => !endsPath c)).1
    let p := if ['/', '/'].isPrefixOf p then '/' :: '.' :: p else p
    .ok (scheme ++ ':' :: p ++ queryAndFragment .other (ds.dropWhile fun c => !endsPath c))
  | _ =>
    .ok (scheme ++ ':' :: percent inControls (cs.takeWhile fun c => !endsPath c) ++
      queryAndFragment .other (cs.dropWhile fun c => !endsPath c))

/-- The normal form of a text. Breaks within it count in the path of a file only. -/
def normalize (cs : List Char) : Except UrlError (List Char) :=
  match scheme? (trimmed cs) with
  | none => .error .noScheme
  | some (scheme, rest) =>
    match SchemeKind.of scheme with
    | .file => afterFile rest
    | .web => afterSlashes scheme ((unbroken rest).dropWhile (isSeparator .web))
    | .other => afterOther scheme (unbroken rest)

def parse (s : String) : Except UrlError Url :=
  (normalize s.toList).map fun cs => ⟨String.ofList cs⟩

end SyntaxServer.Url

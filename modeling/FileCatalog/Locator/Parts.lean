import FileCatalog.Locator.Flaw
import FileCatalog.Text

/-!
# The parts of a locator

A locator is written `scheme:path`, with `//authority` in front of the path, `?query` and
`#fragment` behind it where they are given. `Parts.parse` cuts a text into its parts without
decoding any of them and `Parts.render` puts them together again. A part that is absent is not the
same as a part that is empty.

The cuts are made in the order of the delimiters that rule over the others: first the colon, then
the number sign, then the question mark, and last the slash that ends the authority.
-/

namespace FileCatalog.Locator

structure Parts where
  scheme : String
  authority : Option String
  path : String
  query : Option String
  fragment : Option String
  deriving DecidableEq, Repr

namespace Parts

def isSchemeChar (c : Char) : Bool :=
  c.isAlphanum || c = '+' || c = '-' || c = '.'

/-- A letter followed by letters, digits, plus signs, hyphens and dots, all of them ASCII. -/
def isScheme : List Char → Bool
  | [] => false
  | c :: cs => c.isAlpha && cs.all isSchemeChar

/-- What stands before the first `sep`, and what stands after it if there is one. -/
def cutOff (sep : Char) (cs : List Char) : List Char × Option (List Char) :=
  match Text.cut? sep cs with
  | some (before, after) => (before, some after)
  | none => (cs, none)

/-- The authority, if two slashes announce one, and the path behind it. -/
def cutAuthority : List Char → Option (List Char) × List Char
  | '/' :: '/' :: cs => (some (cs.takeWhile (· ≠ '/')), cs.dropWhile (· ≠ '/'))
  | cs => (none, cs)

/-- Cut what follows the scheme and its colon. -/
def ofRest (scheme rest : List Char) : Parts :=
  let (rest, fragment) := cutOff '#' rest
  let (rest, query) := cutOff '?' rest
  let (authority, path) := cutAuthority rest
  { scheme := .ofList scheme
    authority := authority.map .ofList
    path := .ofList path
    query := query.map .ofList
    fragment := fragment.map .ofList }

def ofChars (cs : List Char) : Except Flaw Parts :=
  match Text.cut? ':' cs with
  | none => .error .noScheme
  | some (scheme, rest) =>
    if isScheme scheme then .ok (ofRest scheme rest)
    else .error (.invalidScheme (.ofList scheme))

def parse (s : String) : Except Fault Parts :=
  (ofChars s.toList).mapError fun flaw => flaw.fault s

/-- A part behind the delimiter that announces it, or nothing when the part is absent. -/
def announced (delimiter : String) : Option String → String
  | none => ""
  | some part => delimiter ++ part

def render (p : Parts) : String :=
  p.scheme ++ ":" ++ announced "//" p.authority ++ p.path ++ announced "?" p.query ++
    announced "#" p.fragment

end Parts

end FileCatalog.Locator

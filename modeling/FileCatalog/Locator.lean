import FileCatalog.Fid
import FileCatalog.Locator.Parts

/-!
# Locators

A locator addresses a filesystem of a backend, and in it an entry by identifier or by path:

    <backend>://<filesystem>[/<path>][#<path>|#[<id>]]

The scheme names the backend and the authority, decoded, names the filesystem. A fragment that
starts with a bracket holds an identifier, written as a fid or as escaped octets; any other
fragment is a path. A path is kept as it is written and decoded only when it is looked up. The query
has no meaning.

A refused locator is reported whole, with one exception: escapes of the authority are decoded
before anything else is looked at, and a broken one is reported with the authority alone.
-/

namespace FileCatalog

structure Locator where
  backend : String
  filesystem : String
  /-- The identifier in the fragment, empty when there is none. -/
  id : EntryId
  /-- The path as it is written. -/
  path : Option String
  deriving DecidableEq, Repr

namespace Locator

/-- A fragment that starts with this character holds an identifier. -/
def idMark : Char := '['

/-- The identifier written between the brackets of a fragment. A text with a colon that starts with
`0x` is always read as a fid. -/
def idOfInner (inner : List Char) : Except Flaw EntryId :=
  if ['0', 'x'].isPrefixOf inner && inner.contains ':' then
    match Fid.read? inner with
    | some fid => .ok fid.entryId
    | none => .error (.invalidFid (.ofList inner))
  else
    match Escape.decodeBytes (.ofText (.ofList inner)) with
    | .ok octets => .ok ⟨octets⟩
    | .error flaw => .error (.escape flaw)

/-- The identifier in what follows the opening bracket of a fragment. -/
def idOfBracketed (cs : List Char) : Except Flaw EntryId :=
  if cs.getLast? = some ']' then idOfInner cs.dropLast else .error .unterminatedId

/-- A path of no step is no path. -/
def ownPath (path : String) : Option String :=
  if path = "" ∨ path = "/" then none else some path

/-- The identifier and the path that a fragment and the locator's own path amount to. -/
def target (path : Option String) (fragment : Option String) :
    Except Flaw (EntryId × Option String) :=
  match fragment with
  | none => .ok (.rootParent, path)
  | some text =>
    match text.toList with
    | [] => .ok (.rootParent, path)
    | c :: cs =>
      if c = idMark then (idOfBracketed cs).map fun id => (id, path)
      else if path.isSome then .error .twoPaths
      else .ok (.rootParent, some text)

/-- The name of the filesystem that some decoded authority spells. -/
def nameOfOctets (octets : Bytes) : Except Flaw String :=
  match octets.text? with
  | none => .error .nameNotText
  | some "" => .error .emptyName
  | some name => .ok name

def ofParts (p : Parts) : Except Fault Locator :=
  let report {α : Type} (e : Except Flaw α) : Except Fault α :=
    e.mapError fun flaw => flaw.fault p.render
  match p.authority with
  | none => .error (Flaw.noAuthority.fault p.render)
  | some authority => do
    let octets ← Escape.decode authority
    let filesystem ← report (nameOfOctets octets)
    let (id, path) ← report (target (ownPath p.path) p.fragment)
    return { backend := p.scheme, filesystem, id, path }

def parse (s : String) : Except Fault Locator := do
  ofParts (← Parts.parse s)

/-- A path as it is looked up; its flaws are reported with the path alone. -/
def decodePath (path : String) : Except Fault String := do
  let octets ← Escape.decode path
  match octets.text? with
  | some decoded => .ok decoded
  | none => .error (Flaw.pathNotText.fault path)

end Locator

end FileCatalog

import FileCatalog.EntryId

/-!
# Entries

The type of an entry is read off its mode once and for all. Three types matter to the library, and
all the others count as one. A lookup asks for some of the fields of an entry and gets what the
backend knows of them.
-/

namespace FileCatalog

inductive EntryType where
  | directory
  | regular
  | symlink
  | other
  deriving DecidableEq, Repr

/-- The types as three flags, of which a classified entry has at most one. -/
structure TypeFlags where
  isDirectory : Bool
  isRegular : Bool
  isSymlink : Bool
  deriving DecidableEq, Repr

namespace EntryType

/-- The bits of a mode that hold the type. -/
def typeBits : UInt32 := 0o170000

def ofMode (mode : UInt32) : EntryType :=
  let type := mode &&& typeBits
  if type = 0o040000 then directory
  else if type = 0o100000 then regular
  else if type = 0o120000 then symlink
  else other

def flags (t : EntryType) : TypeFlags where
  isDirectory := t = directory
  isRegular := t = regular
  isSymlink := t = symlink

end EntryType

/-- A selection of the fields of an entry, one bit for each. -/
structure FieldMask where
  bits : UInt32
  deriving DecidableEq, Repr

namespace FieldMask

def id : FieldMask := ⟨1⟩

def parentId : FieldMask := ⟨2⟩

def name : FieldMask := ⟨4⟩

def all : FieldMask := ⟨7⟩

def contains (m other : FieldMask) : Bool := m.bits &&& other.bits = other.bits

def union (m other : FieldMask) : FieldMask := ⟨m.bits ||| other.bits⟩

end FieldMask

/-- What a lookup tells about an entry; a field is absent if it was not asked for or not known. -/
structure EntryInfo where
  id : Option EntryId
  parentId : Option EntryId
  name : Option String
  deriving DecidableEq, Repr

end FileCatalog

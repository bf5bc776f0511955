import FileCatalog.Bytes

/-!
# Entry identifiers

An identifier is an opaque octet string that names an entry for the whole life of its filesystem.
Identifiers are compared octet by octet and never looked into. The empty one stands for what lies
above the root of a filesystem, so no constructor that describes an existing entry yields it.
-/

namespace FileCatalog

structure EntryId where
  bytes : Bytes
  deriving DecidableEq, Repr

/-- A handle as the kernel exports it: a number for its kind and an opaque payload. -/
structure KernelHandle where
  kind : Int32
  payload : Bytes
  deriving DecidableEq, Repr

namespace EntryId

/-- Identifiers are ordered like words in a dictionary. -/
instance : Ord EntryId := ⟨fun a b => compare a.bytes b.bytes⟩

/-- The identifier of what lies above a filesystem's root. -/
def rootParent : EntryId := ⟨[]⟩

def isEmpty (id : EntryId) : Bool := id.bytes.isEmpty

def length (id : EntryId) : Nat := id.bytes.length

/-- The octets as another party encodes them. -/
def text (encode : Bytes → String) (id : EntryId) : String := encode id.bytes

def label (encode : Bytes → String) (id : EntryId) : String := "Id(" ++ id.text encode ++ ")"

/-- The kind, least significant octet first, and then the payload. -/
def ofHandle (h : KernelHandle) : EntryId :=
  ⟨Bytes.ofNat 4 h.kind.toUInt32.toNat ++ h.payload⟩

@[simp] theorem bytes_ofHandle (h : KernelHandle) :
    (ofHandle h).bytes = Bytes.ofNat 4 h.kind.toUInt32.toNat ++ h.payload := rfl

@[simp] theorem length_ofHandle (h : KernelHandle) :
    (ofHandle h).length = 4 + h.payload.length := by
  simp [length]

@[simp] theorem isEmpty_iff {id : EntryId} : id.isEmpty = true ↔ id = rootParent := by
  cases id; simp [isEmpty, rootParent]

end EntryId

end FileCatalog

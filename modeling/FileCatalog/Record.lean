import FileCatalog.Bytes

/-!
# Records

A record is the list of the attributes collected for one entry, in the order in which they were
collected. A key may occur more than once: looking a key up finds its first attribute.
-/

namespace FileCatalog

/-- The value of an attribute. Values of different types are different, whatever they hold. -/
inductive AttrValue where
  | int32 (n : Int32)
  | uint32 (n : UInt32)
  | uint64 (n : UInt64)
  | text (s : String)
  | binary (octets : Bytes)
  | sequence (items : List AttrValue)
  deriving Inhabited, Repr

namespace AttrValue

mutual

/-- Values are compared by type and content. -/
def beq : AttrValue → AttrValue → Bool
  | int32 a, int32 b => a == b
  | uint32 a, uint32 b => a == b
  | uint64 a, uint64 b => a == b
  | text a, text b => a == b
  | binary a, binary b => a == b
  | sequence as, sequence bs => beqAll as bs
  | _, _ => false

def beqAll : List AttrValue → List AttrValue → Bool
  | [], [] => true
  | a :: as, b :: bs => beq a b && beqAll as bs
  | _, _ => false

end

mutual

theorem beq_iff : (a b : AttrValue) → (beq a b = true ↔ a = b)
  | int32 _, b => by cases b <;> simp [beq]
  | uint32 _, b => by cases b <;> simp [beq]
  | uint64 _, b => by cases b <;> simp [beq]
  | text _, b => by cases b <;> simp [beq]
  | binary _, b => by cases b <;> simp [beq]
  | sequence as, b => by cases b <;> simp [beq, beqAll_iff as]

theorem beqAll_iff : (as bs : List AttrValue) → (beqAll as bs = true ↔ as = bs)
  | [], bs => by cases bs <;> simp [beqAll]
  | a :: as, bs => by cases bs <;> simp [beqAll, beq_iff a, beqAll_iff as]

end

instance : DecidableEq AttrValue := fun a b => decidable_of_iff _ (beq_iff a b)

def asBinary? : AttrValue → Option Bytes
  | binary octets => some octets
  | _ => none

def asSequence? : AttrValue → Option (List AttrValue)
  | sequence items => some items
  | _ => none

def asUInt64? : AttrValue → Option UInt64
  | uint64 n => some n
  | _ => none

end AttrValue

structure Attribute where
  key : String
  value : AttrValue
  deriving DecidableEq, Repr

abbrev Record := List Attribute

namespace Record

def keys (r : Record) : List String := r.map Attribute.key

/-- The value of the first attribute with the given key. -/
def find? (r : Record) (key : String) : Option AttrValue :=
  (List.find? (fun a => a.key = key) r).map Attribute.value

end Record

end FileCatalog

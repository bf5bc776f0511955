import FileCatalog.Fault
import FileCatalog.Json.Entry
import FileCatalog.Record

/-!
# JSON forms of records

A value is an object with one member, whose key names the type of the value. A record is written
as one object, in which the last attribute of a key wins, or as the list of its attributes. The map
behind that object and the forms of its values are made by other parties.
-/

namespace FileCatalog

namespace AttrValue

/-- The name of a value's type. -/
def tag : AttrValue → String
  | int32 _ => "int32"
  | uint32 _ => "uint32"
  | uint64 _ => "uint64"
  | text _ => "string"
  | binary _ => "binary"
  | sequence _ => "sequence"

mutual

/-- What a value holds, without its type. -/
def contentJson : AttrValue → Json
  | int32 n => .int n.toInt
  | uint32 n => .nat n.toNat
  | uint64 n => .nat n.toNat
  | text s => .string s
  | binary octets => octets.toJson
  | sequence items => .array (allToJson items)

def toJson (v : AttrValue) : Json := .object [(v.tag, v.contentJson)]

def allToJson : List AttrValue → List Json
  | [] => []
  | v :: vs => toJson v :: allToJson vs

end

theorem allToJson_eq_map (vs : List AttrValue) : allToJson vs = vs.map toJson := by
  induction vs with
  | nil => simp [allToJson]
  | cons v vs ih => simp [allToJson, ih]

end AttrValue

def Attribute.toJson (a : Attribute) : Json :=
  .object [("key", .string a.key), ("value", a.value.toJson)]

/-- Maps from keys to JSON values. -/
structure ObjectMap (M : Type) where
  empty : M
  insert : String → Json → M → M
  get? : M → String → Option Json
  keys : M → List String

namespace Record

/-- Write an attribute. If its value is refused, the words of the refusal are passed on. -/
def writeMember {M : Type} (map : ObjectMap M) (serialize : AttrValue → Except String Json)
    (written : M) (a : Attribute) : Except Fault M := do
  let form ← (serialize a.value).mapError fun refusal => .backend ("json: " ++ refusal)
  return map.insert a.key form written

/-- The map of the object of a record. -/
def writeObject {M : Type} (map : ObjectMap M) (serialize : AttrValue → Except String Json)
    (r : Record) : Except Fault M :=
  r.foldlM (writeMember map serialize) map.empty

def toJsonList (r : Record) : Json := .array (r.map Attribute.toJson)

end Record

end FileCatalog

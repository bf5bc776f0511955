import FileCatalog.Entry
import FileCatalog.Fid
import FileCatalog.Json

/-!
# JSON forms of entries

A structure is written as an object and read from an object or an array. An octet string is an
array of numbers and an absent field is null. Readers accept no number that its type cannot hold.
-/

namespace FileCatalog

def Bytes.toJson (bs : Bytes) : Json := .array (bs.map fun b => .nat b.toNat)

def Bytes.ofJson? (j : Json) : Option Bytes := do
  (← j.asArray?).mapM Json.asUInt8?

def EntryId.toJson (id : EntryId) : Json := .object [("data", id.bytes.toJson)]

def EntryInfo.toJson (e : EntryInfo) : Json :=
  .object [
    ("id", .option EntryId.toJson e.id),
    ("parent_id", .option EntryId.toJson e.parentId),
    ("name", .option .string e.name)]

def Fid.toJson (f : Fid) : Json :=
  .object [
    ("seq", .nat f.sequence.toNat),
    ("oid", .nat f.object.toNat),
    ("ver", .nat f.version.toNat)]

def Fid.ofJson? (j : Json) : Option Fid := do
  match ← j.fields? ["seq", "oid", "ver"] with
  | [s, o, v] => return ⟨← s.asUInt64?, ← o.asUInt32?, ← v.asUInt32?⟩
  | _ => none

def KernelHandle.toJson (h : KernelHandle) : Json :=
  .object [("handle_type", .int h.kind.toInt), ("bytes", h.payload.toJson)]

def KernelHandle.ofJson? (j : Json) : Option KernelHandle := do
  match ← j.fields? ["handle_type", "bytes"] with
  | [k, p] => return ⟨← k.asInt32?, ← Bytes.ofJson? p⟩
  | _ => none

def TypeFlags.toJson (t : TypeFlags) : Json :=
  .object [
    ("is_dir", .bool t.isDirectory),
    ("is_reg", .bool t.isRegular),
    ("is_symlink", .bool t.isSymlink)]

def TypeFlags.ofJson? (j : Json) : Option TypeFlags := do
  match ← j.fields? ["is_dir", "is_reg", "is_symlink"] with
  | [d, r, s] => return ⟨← d.asBool?, ← r.asBool?, ← s.asBool?⟩
  | _ => none

/-- A mask is written as its bits alone. -/
def FieldMask.toJson (m : FieldMask) : Json := .nat m.bits.toNat

def FieldMask.ofJson? (j : Json) : Option FieldMask := j.asUInt32?.map .mk

end FileCatalog

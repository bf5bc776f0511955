import FileCatalog.Extraction

/-!
# Keys of attributes

Which keys an entry may get, and in which order, is decided by its type, by whether its layout is
composite and by whether it is a directory with a stripe. None of them is written twice, and none is
that of the expiration date.
-/

namespace FileCatalog

namespace Record

@[simp] theorem keys_append (r s : Record) : (r ++ s).keys = r.keys ++ s.keys := List.map_append

@[simp] theorem length_keys (r : Record) : r.keys.length = r.length := List.length_map _

end Record

namespace NativeEntry

variable {L : Type}

def hasComposite [LayoutAccess L] (e : NativeEntry L) : Bool :=
  match e.layout with
  | .ok layout => LayoutAccess.isComposite layout
  | .error _ => false

def isStriped (e : NativeEntry L) : Bool := e.directoryStripe.isOk

end NativeEntry

namespace Extraction

def layoutKeys (type : EntryType) (composite : Bool) : List String :=
  ["flags"] ++
  (if type = .regular then ["magic", "gen"] else []) ++
  (if composite then ["mirror_count"] else []) ++
  ["stripe_count", "stripe_size", "pattern", "comp_flags", "pool"] ++
  (if composite then ["mirror_id", "begin", "end"] else []) ++
  ["ost"]

def metadataKeys (type : EntryType) (striped : Bool) : List String :=
  match type with
  | .directory => if striped then ["mdt_idx", "mdt_hash", "mdt_count"] else []
  | .symlink => []
  | _ => ["mdt_index"]

/-- The keys of the attributes of an entry, in their order. -/
def attributeKeys (type : EntryType) (composite striped : Bool) : List String :=
  ["fid"] ++
  (if type = .regular then ["hsm_state", "hsm_archive_id"] else []) ++
  (if type = .symlink then [] else layoutKeys type composite) ++
  metadataKeys type striped

theorem nodup_attributeKeys (type : EntryType) (composite striped : Bool) :
    (attributeKeys type composite striped).Nodup := by
  cases type <;> cases composite <;> cases striped <;> decide

theorem length_attributeKeys_le (type : EntryType) (composite striped : Bool) :
    (attributeKeys type composite striped).length ≤ maxAttributes := by
  cases type <;> cases composite <;> cases striped <;> decide

theorem expiryKey_notMem_attributeKeys (type : EntryType) (composite striped : Bool) :
    Expiry.key ∉ attributeKeys type composite striped := by
  cases type <;> cases composite <;> cases striped <;> decide

def tableKeys (composite : Bool) : List String :=
  ["stripe_count", "stripe_size", "pattern", "comp_flags", "pool"] ++
  (if composite then ["mirror_id", "begin", "end"] else []) ++
  ["ost"]

theorem keys_attributes (table : StripeTable) :
    table.attributes.keys = tableKeys table.composite := by
  rw [StripeTable.attributes, StripeTable.segmentAttributes]
  cases table.composite <;> rfl

theorem tableKeys_sublist (composite : Bool) : (tableKeys composite).Sublist (tableKeys true) := by
  cases composite <;> decide

theorem layoutKeys_composite (type : EntryType) :
    layoutKeys type true = ["flags"] ++ ((if type = .regular then ["magic", "gen"] else []) ++
      ("mirror_count" :: tableKeys true)) := by
  simp [layoutKeys, tableKeys]

end Extraction

end FileCatalog

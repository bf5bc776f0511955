import FileCatalog.Record.Json
import Std.Data.ExtTreeMap.Basic

/-!
# An encoder of octets and a map of members

Octets are written with the digits of the standard library, the high half of an octet first. The
members of an object are sorted by their keys.
-/

namespace FileCatalog.Scripted

def hex (bs : Bytes) : String :=
  .ofList (bs.flatMap fun b => [(b.toNat / 16).digitChar, (b.toNat % 16).digitChar])

def objectMap : ObjectMap (Std.ExtTreeMap String Json) where
  empty := ∅
  insert key value members := members.insert key value
  get? members key := members[key]?
  keys := Std.ExtTreeMap.keys

end FileCatalog.Scripted

import FileCatalog.Fid
import FileCatalog.Layout.Access

/-!
# Native entries

An entry that is open on a Lustre client answers a handful of native queries. Each query is asked
at most once, may fail, and fails with missing data when the entry has nothing to report.
-/

namespace FileCatalog

/-- What the archive knows of a regular file. -/
structure ArchiveState where
  states : UInt32
  archive : UInt32
  deriving DecidableEq, Repr

/-- How a directory is spread over metadata targets: one target for each shard. -/
structure DirectoryStripe where
  hash : UInt32
  targets : List UInt32
  deriving DecidableEq, Repr

structure NativeEntry (L : Type) where
  fid : Except Fault Fid
  archiveState : Except Fault ArchiveState
  layout : Except Fault L
  /-- The raw value of an extended attribute. -/
  xattr : String → Except Fault Bytes
  directoryStripe : Except Fault DirectoryStripe
  /-- The metadata target that holds the entry itself. -/
  metadataTarget : Except Fault Int32

/-- The extended attribute that holds the raw layout. -/
def layoutXattr : String := "lustre.lov"

end FileCatalog

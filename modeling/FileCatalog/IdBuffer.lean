import FileCatalog.Attempt
import FileCatalog.EntryId
import FileCatalog.Span

/-!
# Packing identifiers

Many identifiers are laid one behind the other into a buffer of fixed size. The buffer is the part
already written followed by the room that is left; writing an identifier moves the border between
the two. An identifier that does not fit leaves the buffer as it is, and a shorter one may follow.
-/

namespace FileCatalog

structure IdBuffer where
  written : Bytes
  room : Bytes
  deriving DecidableEq, Repr

namespace IdBuffer

/-- Nothing is written and all of `content` is room. -/
def ofContent (content : Bytes) : IdBuffer := ⟨[], content⟩

def storage (b : IdBuffer) : Bytes := b.written ++ b.room

def remaining (b : IdBuffer) : Nat := b.room.length

/-- Write an identifier at the border and return where it stands. -/
def put (id : EntryId) : Attempt IdBuffer Span := do
  let b ← get
  if id.length ≤ b.remaining then
    set (IdBuffer.mk (b.written ++ id.bytes) (b.room.drop id.length))
    return ⟨b.written.length, id.length⟩
  else
    throw (.outOfBuffer id.length b.remaining)

theorem put_of_le {b : IdBuffer} {id : EntryId} (h : id.length ≤ b.remaining) :
    put id b =
      (.ok ⟨b.written.length, id.length⟩, ⟨b.written ++ id.bytes, b.room.drop id.length⟩) := by
  simp [put, h]

theorem put_of_lt {b : IdBuffer} {id : EntryId} (h : b.remaining < id.length) :
    put id b = (.error (.outOfBuffer id.length b.remaining), b) := by
  simp [put, Nat.not_le.mpr h]

end IdBuffer

end FileCatalog

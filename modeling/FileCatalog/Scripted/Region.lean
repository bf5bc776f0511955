import FileCatalog.Arena.Ledger
import FileCatalog.Span

/-!
# A region as an allocator

The copies lie one behind the other in a single region, so that a slice is a span of it. A slice
remembers whether octets or text were copied.
-/

namespace FileCatalog.Scripted

open Arena (Content Allocator)

inductive Slice where
  | octets (span : Span)
  | text (span : Span)
  deriving DecidableEq, Repr

def Slice.span : Slice → Span
  | octets span => span
  | text span => span

/-- Regions grow as they need to, whatever size they start with. -/
def region : Allocator (Array UInt8) Slice where
  withChunk _ := #[]
  copy
    | .octets bs, octets => (.octets ⟨octets.size, bs.length⟩, octets ++ bs)
    | .text s, octets => (.text ⟨octets.size, s.utf8ByteSize⟩, octets ++ Bytes.ofText s)
  read octets
    | .octets span => .octets (span.read octets.toList)
    | .text span => .text ((Bytes.text? (span.read octets.toList)).getD "")
  reset _ := #[]

end FileCatalog.Scripted

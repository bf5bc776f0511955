import FileCatalog.Bytes

/-!
# Spans

A span is a piece of a larger octet string, known by where it starts and how long it is. It stays
meaningful while octets are only added behind it.
-/

namespace FileCatalog

structure Span where
  start : Nat
  length : Nat
  deriving DecidableEq, Repr

namespace Span

def stop (s : Span) : Nat := s.start + s.length

/-- The octets that the span covers in `region`. -/
def read (s : Span) (region : Bytes) : Bytes := (region.drop s.start).take s.length

theorem read_append_of_stop_le {s : Span} {region : Bytes} (h : s.stop ≤ region.length)
    (more : Bytes) : s.read (region ++ more) = s.read region := by
  simp only [stop] at h
  rw [read, read, List.drop_append_of_le_length (by omega),
    List.take_append_of_le_length (by simp; omega)]

@[simp] theorem read_last (region data : Bytes) :
    (Span.mk region.length data.length).read (region ++ data) = data := by
  simp [read]

end Span

end FileCatalog

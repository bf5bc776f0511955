import FileCatalog.Arena

/-!
# Arena ledgers

A ledger is an arena with the memory in which an allocator keeps the copies that clients have got,
and with the slices that refer to these copies, in the order of the pushes. The allocator is another
party: it copies octets and texts, answers with slices, reads the copies back, and gives all of them
up at once when it is reset. What a slice reads is looked up in the memory as it is now.
-/

namespace FileCatalog.Arena

/-- What is pushed: octets or text. -/
inductive Content where
  | octets (bs : Bytes)
  | text (s : String)
  deriving DecidableEq, Repr

/-- The number of octets; a text has those of its UTF-8 form. -/
def Content.size : Content → Nat
  | octets bs => bs.length
  | text s => s.utf8ByteSize

/-- What a client asks of an arena. -/
inductive Request where
  | push (content : Content)
  | reset
  deriving DecidableEq, Repr

/-- An allocator with memory of type `M` and slices of type `S`. -/
structure Allocator (M S : Type) where
  /-- A new memory whose first chunk has the given size. -/
  withChunk : Nat → M
  copy : Content → M → S × M
  read : M → S → Content
  reset : M → M

structure Ledger (M S : Type) where
  arena : Arena
  memory : M
  /-- The slices handed out since the last reset, oldest first. -/
  slices : List S

namespace Ledger

variable {M S : Type} (allocator : Allocator M S)

def new (chunk : Nat) (limit : Option Nat) : Ledger M S :=
  ⟨.empty limit, allocator.withChunk chunk, []⟩

/-- The octets are counted before they are copied, so that a refused push does not reach the
allocator. -/
def push (c : Content) : Attempt (Ledger M S) S := fun l =>
  match claim c.size l.arena with
  | (.ok (), arena) =>
    let (slice, memory) := allocator.copy c l.memory
    (.ok slice, ⟨arena, memory, l.slices ++ [slice]⟩)
  | (.error f, arena) => (.error f, { l with arena })

def reset (l : Ledger M S) : Ledger M S := ⟨l.arena.reset, allocator.reset l.memory, []⟩

/-- Serve a request and return the slice that it yields, if it yields one. -/
def serve : Request → Attempt (Ledger M S) (Option S)
  | .push c => some <$> push allocator c
  | .reset => do
    modify (reset allocator)
    return none

/-- All slices as they read now, oldest first. -/
def contents (l : Ledger M S) : List Content := l.slices.map (allocator.read l.memory)

end Ledger

end FileCatalog.Arena

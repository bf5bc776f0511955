import FileCatalog.Attempt
import FileCatalog.Bytes
import FileCatalog.Size

/-!
# Arenas

Octets of text and binary values are pushed onto an arena while one entry is being scanned. A limit,
if there is one, bounds the octets that are pushed between two resets; a push that would go beyond it
is refused and leaves no trace. An arena keeps count of the octets only. The copies that clients get
are made by an allocator, which is another party, and hold what was pushed, so that nobody who pushes
octets needs to look at them (`Arena.Ledger` has both sides).
-/

namespace FileCatalog

structure Arena where
  limit : Option Nat
  /-- The number of octets pushed since the last reset. -/
  used : Nat
  deriving DecidableEq, Repr

namespace Arena

/-- The room that is set aside when an arena is made. -/
def defaultChunkSize : Nat := 4096

def empty (limit : Option Nat) : Arena := ⟨limit, 0⟩

/-- Whether the arena takes `n` more octets. -/
def fits (a : Arena) (n : Nat) : Bool :=
  match Size.add? a.used n with
  | some total => a.limit.all fun limit => total ≤ limit
  | none => false

/-- The arena with `n` more octets in use. -/
def spend (a : Arena) (n : Nat) : Arena := ⟨a.limit, a.used + n⟩

/-- Take up `n` octets, or nothing at all. -/
def claim (n : Nat) : Attempt Arena Unit := do
  let a ← get
  if a.fits n then set (a.spend n) else throw (.outOfMemory "arena")

def push (data : Bytes) : Attempt Arena Unit := claim data.length

/-- A text takes as many octets as its UTF-8 form. -/
def pushText (s : String) : Attempt Arena Unit := push (.ofText s)

def reset (a : Arena) : Arena := empty a.limit

@[simp] theorem used_empty (limit : Option Nat) : (empty limit).used = 0 := rfl

@[simp] theorem limit_empty (limit : Option Nat) : (empty limit).limit = limit := rfl

@[simp] theorem used_reset (a : Arena) : a.reset.used = 0 := rfl

@[simp] theorem limit_reset (a : Arena) : a.reset.limit = a.limit := rfl

@[simp] theorem used_spend (a : Arena) (n : Nat) : (a.spend n).used = a.used + n := rfl

@[simp] theorem limit_spend (a : Arena) (n : Nat) : (a.spend n).limit = a.limit := rfl

@[simp] theorem spend_zero (a : Arena) : a.spend 0 = a := rfl

@[simp] theorem spend_spend (a : Arena) (m n : Nat) : (a.spend m).spend n = a.spend (m + n) := by
  simp [spend, Nat.add_assoc]

theorem fits_iff {a : Arena} {n : Nat} :
    a.fits n = true ↔ a.used + n < Size.wordLimit ∧ ∀ limit ∈ a.limit, a.used + n ≤ limit := by
  unfold fits
  cases h : Size.add? a.used n with
  | none =>
    have hw := Size.add?_eq_none_iff.mp h
    simp [Nat.not_lt.mpr hw]
  | some total =>
    obtain ⟨rfl, hw⟩ := Size.add?_eq_some_iff.mp h
    cases a.limit <;> simp [hw]

theorem claim_of_fits {a : Arena} {n : Nat} (h : a.fits n = true) :
    claim n a = (.ok (), a.spend n) := by
  simp [claim, h]

theorem claim_of_not_fits {a : Arena} {n : Nat} (h : a.fits n = false) :
    claim n a = (.error (.outOfMemory "arena"), a) := by
  simp [claim, h]

theorem push_of_fits {a : Arena} {data : Bytes} (h : a.fits data.length = true) :
    push data a = (.ok (), a.spend data.length) := claim_of_fits h

theorem push_of_not_fits {a : Arena} {data : Bytes} (h : a.fits data.length = false) :
    push data a = (.error (.outOfMemory "arena"), a) := claim_of_not_fits h

end Arena

end FileCatalog

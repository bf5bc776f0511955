/-!
# Sizes

Sizes and slots are counted in machine words of 64 bits. A sum that does not fit into a word cannot
be served. Where memory itself gives out is assumed: it has the slots for every list of fewer than
`slotLimit` of them, and for no other.
-/

namespace FileCatalog.Size

def wordLimit : Nat := UInt64.size

def slotLimit : Nat := 0x1000000000000000

/-- The sum of two sizes, if it is a size. -/
def add? (a b : Nat) : Option Nat := if a + b < wordLimit then some (a + b) else none

@[simp] theorem add?_eq_some_iff {a b c : Nat} :
    add? a b = some c ↔ a + b = c ∧ a + b < wordLimit := by
  grind [add?]

@[simp] theorem add?_eq_none_iff {a b : Nat} : add? a b = none ↔ wordLimit ≤ a + b := by
  simp [add?]

/-- The difference of two sizes as words have it: it wraps around where `b` is the larger one. -/
def sub (a b : Nat) : Nat := (UInt64.ofNat a - UInt64.ofNat b).toNat

theorem sub_of_le {a b : Nat} (h : b ≤ a) (ha : a < wordLimit) : sub a b = a - b := by
  have hb : (UInt64.ofNat b).toNat = b := UInt64.toNat_ofNat_of_lt (Nat.lt_of_le_of_lt h ha)
  have ha' : (UInt64.ofNat a).toNat = a := UInt64.toNat_ofNat_of_lt ha
  have hle : UInt64.ofNat b ≤ UInt64.ofNat a := by
    rw [UInt64.le_iff_toNat_le, hb, ha']
    exact h
  rw [sub, UInt64.toNat_sub_of_le _ _ hle, ha', hb]

theorem add_sub_of_le {a b : Nat} (h : b ≤ a) (ha : a < wordLimit) : b + sub a b = a := by
  rw [sub_of_le h ha, Nat.add_sub_cancel' h]

end FileCatalog.Size

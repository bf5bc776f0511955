/-!
# Octet strings

Whatever a native call hands over is a list of octets, so that readers can match on it directly.
Words of fixed width are stored with the least significant octet first. Text is converted at the
edges only: `ofText` writes UTF-8 and `text?` reads it back, refusing every other octet string.
-/

namespace FileCatalog

abbrev Bytes := List UInt8

namespace Bytes

/-- The `count` low octets of `n`, least significant first. -/
def ofNat : (count n : Nat) → Bytes
  | 0, _ => []
  | count + 1, n => UInt8.ofNat n :: ofNat count (n / 256)

/-- The number whose octets are given, least significant first. -/
def toNat : Bytes → Nat
  | [] => 0
  | b :: bs => b.toNat + 256 * toNat bs

@[simp] theorem length_ofNat (count n : Nat) : (ofNat count n).length = count := by
  induction count generalizing n with
  | zero => rfl
  | succ count ih => simp [ofNat, ih]

theorem one_shiftLeft_succ (count : Nat) :
    1 <<< (8 * (count + 1)) = 256 * (1 <<< (8 * count)) := by
  rw [Nat.mul_succ, Nat.shiftLeft_add, Nat.shiftLeft_eq _ 8, Nat.mul_comm]

theorem toNat_ofNat (count n : Nat) : toNat (ofNat count n) = n % (1 <<< (8 * count)) := by
  induction count generalizing n with
  | zero => simp [ofNat, toNat, Nat.mod_one]
  | succ count ih =>
    have h : (UInt8.ofNat n).toNat = n % 256 := by simp
    rw [ofNat, toNat, h, ih, one_shiftLeft_succ, Nat.mod_mul]

theorem toNat_lt (bs : Bytes) : toNat bs < 1 <<< (8 * bs.length) := by
  induction bs with
  | nil => simp [toNat]
  | cons b bs ih =>
    have hb : b.toNat < 256 := b.toNat_lt
    rw [toNat, List.length_cons, one_shiftLeft_succ]
    omega

def ofText (s : String) : Bytes := s.toByteArray.data.toList

def text? (bs : Bytes) : Option String := String.fromUTF8? ⟨bs.toArray⟩

/-- The UTF-8 forms of the characters, one after the other. -/
theorem ofText_ofList (cs : List Char) : ofText (.ofList cs) = cs.flatMap String.utf8EncodeChar := by
  rw [ofText, String.toByteArray_ofList, List.utf8Encode]
  simp

theorem ofText_append (s t : String) : ofText (s ++ t) = ofText s ++ ofText t := by
  simp [ofText]

@[simp] theorem length_ofText (s : String) : (ofText s).length = s.utf8ByteSize := by
  rw [← String.size_toByteArray, ofText, Array.length_toList, ByteArray.size]

@[simp] theorem text?_ofText (s : String) : text? (ofText s) = some s := by
  simp [text?, ofText, String.fromUTF8?, s.isValidUTF8, String.fromUTF8]

theorem text?_eq_some_iff {bs : Bytes} {s : String} : text? bs = some s ↔ bs = ofText s := by
  refine ⟨fun h => ?_, fun h => h ▸ text?_ofText s⟩
  simp only [text?, String.fromUTF8?, Option.dite_none_right_eq_some, Option.some.injEq] at h
  obtain ⟨_, rfl⟩ := h
  simp [ofText, String.fromUTF8]

end Bytes

end FileCatalog

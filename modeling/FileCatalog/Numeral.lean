/-!
# Positional numerals

Numbers are read digit by digit from any kind of symbol, characters and octets alike, and only
a non-empty run of digits is a numeral. Reading never overflows: the caller compares the value
with the bound of its own type. Leading zeros are digits like any others.
-/

namespace FileCatalog.Numeral

/-- The value of the decimal digit with the given character code. -/
def decimalDigit? (code : Nat) : Option Nat :=
  if 48 ≤ code ∧ code ≤ 57 then some (code - 48) else none

/-- The value of the hexadecimal digit, of either case, with the given character code. -/
def hexDigit? (code : Nat) : Option Nat :=
  if 48 ≤ code ∧ code ≤ 57 then some (code - 48)
  else if 65 ≤ code ∧ code ≤ 70 then some (code - 55)
  else if 97 ≤ code ∧ code ≤ 102 then some (code - 87)
  else none

/-- The values of all digits, or nothing when some symbol is not a digit. -/
def digits? {α : Type} (digit? : α → Option Nat) : List α → Option (List Nat)
  | [] => some []
  | a :: as => do
    let d ← digit? a
    let ds ← digits? digit? as
    return d :: ds

/-- The value of a list of digits, most significant first. -/
def value (base : Nat) (ds : List Nat) : Nat :=
  ds.foldl (fun n d => base * n + d) 0

def read? {α : Type} (base : Nat) (digit? : α → Option Nat) (symbols : List α) : Option Nat :=
  if symbols.isEmpty then none else (digits? digit? symbols).map (value base)

/-- A hexadecimal numeral in lower case with no digit to spare. -/
def hexChars (n : Nat) : List Char := Nat.toDigits 16 n

/-- A hexadecimal numeral filled up with zeros to at least `width` digits. -/
def paddedHexChars (width n : Nat) : List Char :=
  List.replicate (width - (hexChars n).length) '0' ++ hexChars n

@[simp] theorem read?_nil {α : Type} (base : Nat) (digit? : α → Option Nat) :
    read? base digit? [] = none := rfl

/-- A numeral is made of nothing but digits. -/
theorem notMem_of_digits? {α : Type} {digit? : α → Option Nat} {a : α} (ha : digit? a = none)
    {symbols : List α} {ds : List Nat} (h : digits? digit? symbols = some ds) : a ∉ symbols := by
  induction symbols generalizing ds with
  | nil => exact List.not_mem_nil
  | cons b symbols ih =>
    simp only [digits?, Option.bind_eq_bind, Option.bind_eq_some_iff] at h
    obtain ⟨d, hb, ds, hrest, -⟩ := h
    rw [List.mem_cons, not_or]
    refine ⟨?_, ih hrest⟩
    rintro rfl
    exact nomatch ha.symm.trans hb

theorem notMem_of_read? {α : Type} {base n : Nat} {digit? : α → Option Nat} {symbols : List α}
    (a : α) (ha : digit? a = none) (h : read? base digit? symbols = some n) : a ∉ symbols := by
  unfold read? at h
  split at h
  · contradiction
  · obtain ⟨ds, hds, -⟩ := Option.map_eq_some_iff.mp h
    exact notMem_of_digits? ha hds

end FileCatalog.Numeral

import FileCatalog.Numeral
import FileCatalog.Record

/-!
# Expiration dates

Files are tagged with the date until which they are to be kept. The date is a decimal numeral in an
extended attribute, often closed by a zero octet, and settling a record turns it into a number so
that it can be compared. The first attribute short enough to hold a date decides: if it cannot be
read, it stays as it is and shields the ones behind it.
-/

namespace FileCatalog

namespace Expiry

/-- The attribute that holds the date. -/
def key : String := "user.ccc_expires_at"

/-- No date is this long or longer. -/
def sizeLimit : Nat := 22

/-- The number written before the first zero octet, if it fits into 64 bits. -/
def read? (raw : Bytes) : Option UInt64 :=
  let digits := raw.takeWhile fun b => b ≠ 0
  let n := Numeral.read? 10 (fun b => Numeral.decimalDigit? b.toNat) digits
  (n.filter fun n => n < UInt64.size).map .ofNat

/-- The octets of an attribute that may hold a date. -/
def candidate? (a : Attribute) : Option Bytes :=
  if a.key = key then a.value.asBinary?.filter fun raw => raw.length < sizeLimit else none

end Expiry

/-- Turn the date into a number, and tell whether there was one to turn. -/
def Record.settleExpiry : Record → Record × Bool
  | [] => ([], false)
  | a :: rest =>
    match Expiry.candidate? a with
    | none =>
      let (settled, done) := settleExpiry rest
      (a :: settled, done)
    | some raw =>
      match Expiry.read? raw with
      | some date => (⟨a.key, .uint64 date⟩ :: rest, true)
      | none => (a :: rest, false)

namespace Record

@[simp] theorem length_settleExpiry (r : Record) : r.settleExpiry.1.length = r.length := by
  induction r with
  | nil => rfl
  | cons a rest ih =>
    unfold settleExpiry
    cases Expiry.candidate? a with
    | none => simp [ih]
    | some raw => cases hd : Expiry.read? raw <;> simp [hd]

theorem settleExpiry_of_no_candidate {r : Record} (h : ∀ a ∈ r, Expiry.candidate? a = none) :
    r.settleExpiry = (r, false) := by
  induction r with
  | nil => rfl
  | cons a rest ih =>
    simp [settleExpiry, h a List.mem_cons_self, ih fun b hb => h b (List.mem_cons_of_mem a hb)]

/-- Attributes that hold no date are left alone, and leave the others alone. -/
theorem settleExpiry_append {r s : Record} (h : ∀ a ∈ s, Expiry.candidate? a = none) :
    (r ++ s).settleExpiry = (r.settleExpiry.1 ++ s, r.settleExpiry.2) := by
  induction r with
  | nil => exact settleExpiry_of_no_candidate h
  | cons a rest ih =>
    rw [List.cons_append, settleExpiry, settleExpiry]
    cases Expiry.candidate? a with
    | none => simp [ih]
    | some raw => cases hd : Expiry.read? raw <;> simp [hd]

end Record

end FileCatalog

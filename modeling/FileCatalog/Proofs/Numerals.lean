import FileCatalog.Proofs.Addressing
import Mathlib.Data.List.Forall2
import Mathlib.Data.Nat.Digits.Defs

/-!
# Hexadecimal and decimal numerals

The reader of numerals goes through the digits once and keeps a running value. Here the characters of
a numeral, or its octets, are tied to the digits they stand for, and the number to the positional value
of these digits. The reader accepts a text exactly if it is a numeral in this sense, with any number of
leading zeros, and the writer produces one.
-/

namespace FileCatalog.Numeral

open Escape (IsDigit)

/-- Hexadecimal digits of either case, at least one of them, with the positional value `n`. -/
structure Hexadecimal (cs : List Char) (n : Nat) : Prop where
  nonempty : cs ≠ []
  digits : ∃ ds, List.Forall₂ (fun d c => d < 16 ∧ IsDigit d c) ds cs ∧
    Nat.ofDigits 16 ds.reverse = n

/-- Decimal digits as octets, at least one of them, with the positional value `n`. -/
structure Decimal (octets : Bytes) (n : Nat) : Prop where
  nonempty : octets ≠ []
  digits : ∃ ds, List.Forall₂ (fun d (b : UInt8) => d < 10 ∧ b.toNat = 48 + d) ds octets ∧
    Nat.ofDigits 10 ds.reverse = n

section Reader

variable {α : Type} {base n : Nat} {digit? : α → Option Nat} {symbols : List α} {ds : List Nat}

theorem digits?_eq_some_iff :
    digits? digit? symbols = some ds ↔ List.Forall₂ (fun d a => digit? a = some d) ds symbols := by
  induction symbols generalizing ds with
  | nil => simp [digits?, List.forall₂_nil_right_iff, eq_comm]
  | cons a as ih =>
    simp only [digits?, Option.bind_eq_bind, Option.bind_eq_some_iff]
    constructor
    · rintro ⟨d, hd, rest, hrest, ⟨⟩⟩
      exact .cons hd (ih.mp hrest)
    · rintro ⟨⟩
      rename_i d rest hd hrest
      exact ⟨d, hd, rest, ih.mpr hrest, rfl⟩

theorem value_eq_ofDigits (base : Nat) (ds : List Nat) :
    value base ds = Nat.ofDigits base ds.reverse := by
  rw [value, Nat.ofDigits_eq_foldr, List.foldr_reverse]
  simp only [Nat.cast_id, add_comm]

theorem read?_eq_some_iff : read? base digit? symbols = some n ↔ symbols ≠ [] ∧
    ∃ ds, List.Forall₂ (fun d a => digit? a = some d) ds symbols ∧
      Nat.ofDigits base ds.reverse = n := by
  simp only [read?, Option.ite_none_left_eq_some, Option.map_eq_some_iff, digits?_eq_some_iff,
    value_eq_ofDigits, List.isEmpty_iff]

end Reader

theorem exists_digits_toDigits {base : Nat} (hbase : 1 < base) (n : Nat) :
    ∃ ds, List.Forall₂ (fun d c => d < base ∧ c = d.digitChar) ds (Nat.toDigits base n) ∧
      Nat.ofDigits base ds.reverse = n := by
  -- by strong induction, as the last digit is written behind the digits of the quotient
  induction n using Nat.strongRecOn with
  | _ n ih =>
    rw [Nat.toDigits_eq_if hbase]
    by_cases hn : n < base
    · rw [if_pos hn]
      exact ⟨[n], .cons ⟨hn, rfl⟩ .nil, Nat.ofDigits_singleton⟩
    · rw [if_neg hn]
      obtain ⟨ds, hds, hvalue⟩ := ih (n / base) (Nat.div_lt_self (by omega) hbase)
      have hlast : n % base < base := Nat.mod_lt n (Nat.zero_lt_of_lt hbase)
      refine ⟨ds ++ [n % base], List.rel_append hds (.cons ⟨hlast, rfl⟩ .nil), ?_⟩
      rw [List.reverse_concat, Nat.ofDigits_cons, hvalue]
      exact Nat.mod_add_div n base

section Hexadecimal

variable {c : Char} {d n : Nat} {cs : List Char}

theorem isDigit_of_hexDigit? (h : hexDigit? c.toNat = some d) : d < 16 ∧ IsDigit d c := by
  generalize hcode : c.toNat = code at h
  obtain rfl : c = Char.ofNat code := by rw [← hcode, Char.ofNat_toNat]
  unfold hexDigit? at h
  split at h
  · rename_i hrange
    obtain ⟨hlow, hhigh⟩ := hrange
    cases h
    refine ⟨by omega, .inl ?_⟩
    interval_cases code <;> rfl
  · split at h
    · rename_i hrange
      obtain ⟨hlow, hhigh⟩ := hrange
      cases h
      refine ⟨by omega, .inr ?_⟩
      interval_cases code <;> rfl
    · split at h
      · rename_i hrange
        obtain ⟨hlow, hhigh⟩ := hrange
        cases h
        refine ⟨by omega, .inl ?_⟩
        interval_cases code <;> rfl
      · contradiction

theorem hexDigit?_eq_some_iff : hexDigit? c.toNat = some d ↔ d < 16 ∧ IsDigit d c :=
  ⟨isDigit_of_hexDigit?, fun h => h.2.hexDigit? h.1⟩

theorem read?_hex_eq_some_iff :
    read? 16 (fun c : Char => hexDigit? c.toNat) cs = some n ↔ Hexadecimal cs n := by
  simp only [read?_eq_some_iff, hexDigit?_eq_some_iff]
  exact ⟨fun ⟨hne, hds⟩ => ⟨hne, hds⟩, fun ⟨hne, hds⟩ => ⟨hne, hds⟩⟩

theorem Hexadecimal.notMem (h : Hexadecimal cs n) (hc : hexDigit? c.toNat = none) : c ∉ cs :=
  notMem_of_read? c hc (read?_hex_eq_some_iff.mpr h)

theorem hexadecimal_hexChars (n : Nat) : Hexadecimal (hexChars n) n := by
  obtain ⟨ds, hds, hvalue⟩ := exists_digits_toDigits (by decide : 1 < 16) n
  exact ⟨Nat.toDigits_ne_nil, ds, hds.imp fun _ _ h => h.imp_right Or.inl, hvalue⟩

end Hexadecimal

section Decimal

variable {b : UInt8} {d n : Nat} {octets : Bytes}

theorem decimalDigit?_eq_some_iff :
    decimalDigit? b.toNat = some d ↔ d < 10 ∧ b.toNat = 48 + d := by
  simp only [decimalDigit?, Option.ite_none_right_eq_some, Option.some.injEq]
  omega

theorem read?_decimal_eq_some_iff :
    read? 10 (fun b : UInt8 => decimalDigit? b.toNat) octets = some n ↔ Decimal octets n := by
  simp only [read?_eq_some_iff, decimalDigit?_eq_some_iff]
  exact ⟨fun ⟨hne, hds⟩ => ⟨hne, hds⟩, fun ⟨hne, hds⟩ => ⟨hne, hds⟩⟩

theorem Decimal.zero_notMem (h : Decimal octets n) : 0 ∉ octets :=
  notMem_of_read? 0 rfl (read?_decimal_eq_some_iff.mpr h)

theorem flatMap_decimal {ds : List Nat} {cs : List Char}
    (h : List.Forall₂ (fun d c => d < 10 ∧ c = d.digitChar) ds cs) :
    List.Forall₂ (fun d (b : UInt8) => d < 10 ∧ b.toNat = 48 + d) ds
      (cs.flatMap String.utf8EncodeChar) := by
  induction h with
  | nil => exact .nil
  | @cons d c ds cs hd _ ih =>
    obtain ⟨hlt, rfl⟩ := hd
    have hcode : d.digitChar.toNat = 48 + d := Nat.toNat_digitChar_of_lt_ten hlt
    rw [List.flatMap_cons, Escape.utf8EncodeChar_of_lt (by omega), hcode]
    refine .cons ⟨hlt, ?_⟩ ih
    exact UInt8.toNat_ofNat_of_lt' (by simp only [UInt8.size]; omega)

/-- A number is written as one of its decimal numerals, in as many octets as it has digits. -/
theorem decimal_ofText_toString (n : Nat) : Decimal (.ofText (toString n)) n ∧
    (Bytes.ofText (toString n)).length = (Nat.toDigits 10 n).length := by
  obtain ⟨ds, hds, hvalue⟩ := exists_digits_toDigits (by decide : 1 < 10) n
  have hoctets : Bytes.ofText (toString n) = (Nat.toDigits 10 n).flatMap String.utf8EncodeChar :=
    Bytes.ofText_ofList _
  have hdigits := flatMap_decimal hds
  rw [← hoctets] at hdigits
  refine ⟨⟨?_, ds, hdigits, hvalue⟩, hdigits.length_eq.symm.trans hds.length_eq⟩
  rw [← List.length_pos_iff, ← hdigits.length_eq, hds.length_eq, List.length_pos_iff]
  exact Nat.toDigits_ne_nil

end Decimal

end FileCatalog.Numeral

import FileCatalog.Proofs.ExpiryRounds
import FileCatalog.Proofs.Numerals

/-!
# What dates look like

A date is a decimal numeral that ends with the octets or at the first zero octet, and it is read as the
number that it stands for, if this fits into a word. The numeral of such a number is so short that
it fits below the limit of dates together with a closing zero octet. The limit therefore keeps no
number from being settled, and attributes beyond it are passed over.
-/

namespace FileCatalog

open Numeral (Decimal)

namespace Expiry

/-- A decimal numeral, alone or closed by a zero octet. -/
def Shows (raw : Bytes) (n : Nat) : Prop :=
  ∃ digits, Decimal digits n ∧ (raw = digits ∨ ∃ rest, raw = digits ++ 0 :: rest)

def front (raw : Bytes) : Bytes := raw.takeWhile fun b => b ≠ 0

section Reader

variable {raw digits : Bytes} {date : UInt64} {n : Nat}

theorem front_nil : front [] = [] := rfl

theorem front_zero (rest : Bytes) : front (0 :: rest) = [] := rfl

theorem front_append (hzero : 0 ∉ digits) (tail : Bytes) :
    front (digits ++ tail) = digits ++ front tail := by
  refine List.takeWhile_append_of_pos fun b hb => ?_
  exact decide_eq_true (ne_of_mem_of_not_mem hb hzero)

theorem eq_front_or (raw : Bytes) : raw = front raw ∨ ∃ rest, raw = front raw ++ 0 :: rest := by
  induction raw with
  | nil => exact .inl rfl
  | cons b raw ih =>
    by_cases hb : b = 0
    · subst hb
      exact .inr ⟨raw, rfl⟩
    · have hfront : front (b :: raw) = b :: front raw :=
        List.takeWhile_cons_of_pos (decide_eq_true hb)
      rw [hfront]
      exact ih.imp (congrArg (b :: ·)) fun ⟨rest, h⟩ => ⟨rest, congrArg (b :: ·) h⟩

theorem shows_iff : Shows raw n ↔ Decimal (front raw) n := by
  constructor
  · rintro ⟨digits, hdigits, rfl | ⟨rest, rfl⟩⟩
    · rwa [← List.append_nil raw, front_append hdigits.zero_notMem, front_nil, List.append_nil]
    · rwa [front_append hdigits.zero_notMem, front_zero, List.append_nil]
  · intro h
    exact ⟨_, h, eq_front_or raw⟩

theorem read?_eq_some_iff : read? raw = some date ↔ Shows raw date.toNat := by
  simp only [shows_iff, front, ← Numeral.read?_decimal_eq_some_iff, read?, Option.map_eq_some_iff,
    Option.filter_eq_some_iff, decide_eq_true_eq]
  constructor
  · rintro ⟨n, ⟨hn, hlt⟩, rfl⟩
    rwa [UInt64.toNat_ofNat_of_lt' hlt]
  · intro h
    exact ⟨date.toNat, ⟨h, date.toNat_lt⟩, UInt64.ofNat_toNat⟩

theorem read?_eq_none_iff : read? raw = none ↔ ∀ n, Shows raw n → UInt64.size ≤ n := by
  rw [Option.eq_none_iff_forall_ne_some]
  constructor
  · intro h n hn
    by_contra hlt
    refine h (.ofNat n) (read?_eq_some_iff.mpr ?_)
    rwa [UInt64.toNat_ofNat_of_lt' (Nat.not_le.mp hlt)]
  · intro h date hdate
    exact Nat.not_le.mpr date.toNat_lt (h _ (read?_eq_some_iff.mp hdate))

end Reader

section Limit

theorem length_ofText_toString_le (date : UInt64) :
    (Bytes.ofText (toString date.toNat)).length ≤ 20 := by
  rw [(Numeral.decimal_ofText_toString date.toNat).2]
  have hlt : date.toNat < UInt64.size := date.toNat_lt
  exact Nat.toDigits_length 10 date.toNat 20 (by decide) (hlt.trans (by decide))

theorem isCandidate_written (date : UInt64) {tail : Bytes} (htail : tail = [] ∨ tail = [0]) :
    IsCandidate ⟨key, .binary (.ofText (toString date.toNat) ++ tail)⟩
      (.ofText (toString date.toNat) ++ tail) := by
  refine ⟨rfl, ?_⟩
  have hle := length_ofText_toString_le date
  rw [List.length_append]
  obtain rfl | rfl := htail
  · exact Nat.lt_of_le_of_lt hle (by decide)
  · exact Nat.lt_of_le_of_lt (Nat.add_le_add_right hle 1) (by decide)

theorem read?_written (date : UInt64) {tail : Bytes} (htail : tail = [] ∨ tail = [0]) :
    read? (.ofText (toString date.toNat) ++ tail) = some date := by
  rw [read?_eq_some_iff]
  refine ⟨_, (Numeral.decimal_ofText_toString date.toNat).1, ?_⟩
  obtain rfl | rfl := htail
  · exact .inl (List.append_nil _)
  · exact .inr ⟨[], rfl⟩

end Limit

end Expiry

namespace Record

variable {a : Attribute} {raw : Bytes} {date : UInt64} {before : Record}

theorem settleExpiry_of_first (hbefore : ∀ b ∈ before, Expiry.candidate? b = none)
    (h : Expiry.candidate? a = some raw) (hdate : Expiry.read? raw = some date) (after : Record) :
    (before ++ a :: after).settleExpiry = (before ++ ⟨a.key, .uint64 date⟩ :: after, true) := by
  induction before with
  | nil => exact settleExpiry_cons_of_read h hdate
  | cons b before ih =>
    have hrest := ih fun c hc => hbefore c (List.mem_cons_of_mem b hc)
    rw [List.cons_append, settleExpiry_cons_of_none (hbefore b List.mem_cons_self), hrest,
      List.cons_append]

theorem settleExpiry_around (h : Expiry.candidate? a = none) (before after : Record) :
    ∃ s t, s.length = before.length ∧ (before ++ after).settleExpiry.1 = s ++ t ∧
      (before ++ a :: after).settleExpiry = (s ++ a :: t, (before ++ after).settleExpiry.2) := by
  induction before with
  | nil => exact ⟨[], after.settleExpiry.1, rfl, rfl, settleExpiry_cons_of_none h⟩
  | cons b before ih =>
    obtain ⟨s, t, hs, hwithout, hwith⟩ := ih
    simp only [List.cons_append]
    obtain hb | ⟨raw, date, hb, hdate⟩ | ⟨raw, hb, hdate⟩ := Expiry.candidate_cases b
    · refine ⟨b :: s, t, congrArg Nat.succ hs, ?_, ?_⟩
      · rw [settleExpiry_cons_of_none hb, hwithout, List.cons_append]
      · simp only [settleExpiry_cons_of_none hb, hwith, List.cons_append]
    · refine ⟨⟨b.key, .uint64 date⟩ :: before, after, rfl, ?_, ?_⟩
      · rw [settleExpiry_cons_of_read hb hdate, List.cons_append]
      · simp only [settleExpiry_cons_of_read hb hdate, List.cons_append]
    · refine ⟨b :: before, after, rfl, ?_, ?_⟩
      · rw [settleExpiry_cons_of_unread hb hdate, List.cons_append]
      · simp only [settleExpiry_cons_of_unread hb hdate, List.cons_append]

end Record

open Expiry (IsCandidate Shows read?)

/-- Octets are read as the number of the decimal numeral in front of their first zero octet, and as
nothing if there is none or it is too large. Each number of a word is settled when it is written in its
digits, closed or not, and no candidate stands before it. With 22 octets or more an attribute
stays as it is, and does not keep others from being settled. -/
theorem dates_read_exactly :
    (∀ raw date, read? raw = some date ↔ Shows raw date.toNat) ∧
      (∀ raw, read? raw = none ↔ ∀ n, Shows raw n → UInt64.size ≤ n) ∧
      (∀ (date : UInt64) (tail : Bytes), tail = [] ∨ tail = [0] → ∀ before after : Record,
        (∀ b ∈ before, ∀ raw, ¬IsCandidate b raw) →
        (before ++ ⟨Expiry.key, .binary (.ofText (toString date.toNat) ++ tail)⟩ :: after).settleExpiry =
          (before ++ ⟨Expiry.key, .uint64 date⟩ :: after, true)) ∧
      ∀ raw : Bytes, 22 ≤ raw.length → ∀ before after : Record, ∃ s t, s.length = before.length ∧
        (before ++ after).settleExpiry.1 = s ++ t ∧
        (before ++ ⟨Expiry.key, .binary raw⟩ :: after).settleExpiry =
          (s ++ ⟨Expiry.key, .binary raw⟩ :: t, (before ++ after).settleExpiry.2) := by
  refine ⟨fun raw date => Expiry.read?_eq_some_iff, fun raw => Expiry.read?_eq_none_iff, ?_, ?_⟩
  · intro date tail htail before after hbefore
    have hcandidate := Expiry.candidate?_eq_some_iff.mpr (Expiry.isCandidate_written date htail)
    refine Record.settleExpiry_of_first ?_ hcandidate (Expiry.read?_written date htail) after
    intro b hb
    exact Expiry.candidate?_eq_none_iff.mpr (hbefore b hb)
  · intro raw hlong before after
    refine Record.settleExpiry_around (Expiry.candidate?_eq_none_iff.mpr ?_) before after
    rintro raw' ⟨⟨⟩, hshort⟩
    exact Nat.not_lt.mpr hlong hshort

/-- The largest number of a word, closed and behind another attribute, the number after it, and a
numeral with too many zeros in front of a date. -/
theorem dates_read_exactly_at_bounds :
    (∀ b ∈ [(⟨"user.tag", .binary [49]⟩ : Attribute)], ∀ raw, ¬IsCandidate b raw) ∧
      Record.settleExpiry [⟨"user.tag", .binary [49]⟩,
          ⟨Expiry.key, .binary (Bytes.ofText "18446744073709551615" ++ [0])⟩] =
        ([⟨"user.tag", .binary [49]⟩, ⟨Expiry.key, .uint64 0xffffffffffffffff⟩], true) ∧
      (∀ n, Shows (Bytes.ofText "18446744073709551616") n → UInt64.size ≤ n) ∧
      22 ≤ (List.replicate 22 (48 : UInt8)).length ∧
      ∃ s t, s.length = 0 ∧ Record.settleExpiry [⟨Expiry.key, .binary [57]⟩] = (s ++ t, true) ∧
        Record.settleExpiry [⟨Expiry.key, .binary (List.replicate 22 48)⟩,
            ⟨Expiry.key, .binary [57]⟩] =
          (s ++ ⟨Expiry.key, .binary (List.replicate 22 48)⟩ :: t, true) := by
  obtain ⟨-, hunread, hwritten, hlong⟩ := dates_read_exactly
  have hbefore : ∀ b ∈ [(⟨"user.tag", .binary [49]⟩ : Attribute)], ∀ raw, ¬IsCandidate b raw := by
    intro b hb
    rw [← Expiry.candidate?_eq_none_iff, List.mem_singleton.mp hb]
    decide
  have hlargest : toString (0xffffffffffffffff : UInt64).toNat = "18446744073709551615" := by
    decide +kernel
  have hsettled := hwritten 0xffffffffffffffff [0] (.inr rfl) _ [] hbefore
  rw [hlargest] at hsettled
  have hbeyond : read? (Bytes.ofText "18446744073709551616") = none := by decide +kernel
  have hlength : 22 ≤ (List.replicate 22 (48 : UInt8)).length := by decide
  obtain ⟨s, t, hs, hwithout, hwith⟩ := hlong _ hlength [] [⟨Expiry.key, .binary [57]⟩]
  exact ⟨hbefore, hsettled, (hunread _).mp hbeyond, hlength, s, t, hs,
    Prod.ext hwithout rfl, hwith⟩

end FileCatalog

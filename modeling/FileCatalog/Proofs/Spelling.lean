import FileCatalog.Escape
import Mathlib.Data.List.Basic

/-!
# Spellings of octets

The decoder of escapes works on octets, whereas escapes are written with characters. A spelling
says for characters which octets a text stands for, and the main theorem of this module is that the
decoder answers just these, and refuses a text that spells nothing. Both agree on where an escape
stands because no octet of a character beyond the first 128 can be taken for a percent sign or
a digit.
-/

namespace FileCatalog.Escape

/-- The text stands for the octets: an escape for the octet that its two digits name, and every
other character for the octets of its UTF-8 form. -/
inductive Spells : List Char → Bytes → Prop
  | nil : Spells [] []
  | literal {c cs octets} : c ≠ '%' → Spells cs octets →
      Spells (c :: cs) (String.utf8EncodeChar c ++ octets)
  | escape {high low h l cs octets} : Numeral.hexDigit? (Char.toNat high) = some h →
      Numeral.hexDigit? (Char.toNat low) = some l → Spells cs octets →
      Spells ('%' :: high :: low :: cs) (.ofNat (16 * h + l) :: octets)

theorem utf8EncodeChar_of_lt {c : Char} (h : c.toNat < 128) :
    String.utf8EncodeChar c = [.ofNat c.toNat] :=
  if_pos (Nat.le_of_lt_succ h)

theorem le_of_mem_utf8EncodeChar {c : Char} {b : UInt8} (h : 128 ≤ c.toNat)
    (hb : b ∈ String.utf8EncodeChar c) : 128 ≤ b.toNat := by
  have hc : ¬c.val.toNat ≤ 0x7f := Nat.not_le.mpr h
  unfold String.utf8EncodeChar at hb
  simp only [if_neg hc] at hb
  split at hb
  · simp only [List.mem_cons, List.not_mem_nil, or_false] at hb
    rcases hb with rfl | rfl <;> simp only [UInt8.toNat_ofNat'] <;> omega
  · split at hb
    · simp only [List.mem_cons, List.not_mem_nil, or_false] at hb
      rcases hb with rfl | rfl | rfl <;> simp only [UInt8.toNat_ofNat'] <;> omega
    · simp only [List.mem_cons, List.not_mem_nil, or_false] at hb
      rcases hb with rfl | rfl | rfl | rfl <;> simp only [UInt8.toNat_ofNat'] <;> omega

theorem toNat_ofNat_code {c : Char} (h : c.toNat < 128) : (UInt8.ofNat c.toNat).toNat = c.toNat :=
  UInt8.toNat_ofNat_of_lt' (Nat.lt_trans h (by decide))

theorem hexDigit?_bounds {code d : Nat} (h : Numeral.hexDigit? code = some d) :
    code < 128 ∧ code ≠ mark.toNat := by
  have hmark : mark.toNat = 37 := rfl
  unfold Numeral.hexDigit? at h
  split at h
  · omega
  · split at h
    · omega
    · split at h
      · omega
      · contradiction

theorem mark_notMem_utf8EncodeChar {c : Char} (h : c ≠ '%') : mark ∉ String.utf8EncodeChar c := by
  intro hm
  by_cases hc : c.toNat < 128
  · rw [utf8EncodeChar_of_lt hc, List.mem_singleton] at hm
    have hcode : c.toNat = ('%' : Char).toNat := by
      rw [← toNat_ofNat_code hc, ← hm]
      rfl
    exact h (Char.toNat_inj.mp hcode)
  · have hle := le_of_mem_utf8EncodeChar (Nat.not_lt.mp hc) hm
    have hmark : mark.toNat = 37 := rfl
    omega

theorem decodeBytes_append_of_notMem {bs : Bytes} (h : mark ∉ bs) (cs : Bytes) :
    decodeBytes (bs ++ cs) = (decodeBytes cs).map (bs ++ ·) := by
  induction bs with
  | nil =>
    rw [List.nil_append]
    cases decodeBytes cs <;> rfl
  | cons b bs ih =>
    obtain ⟨hb, hbs⟩ := not_or.mp (mt List.mem_cons.mpr h)
    rw [List.cons_append, decodeBytes_cons_of_ne (Ne.symm hb), ih hbs]
    cases decodeBytes cs <;> rfl

theorem octet?_eq_some_iff {high low x : UInt8} :
    octet? high low = some x ↔ ∃ h l, Numeral.hexDigit? high.toNat = some h ∧
      Numeral.hexDigit? low.toNat = some l ∧ x = .ofNat (16 * h + l) := by
  unfold octet?
  cases Numeral.hexDigit? high.toNat <;> cases Numeral.hexDigit? low.toNat <;> simp [eq_comm]

theorem ne_mark_of_hexDigit? {b : UInt8} {d : Nat} (h : Numeral.hexDigit? b.toNat = some d) :
    b ≠ mark :=
  fun hb => (hexDigit?_bounds h).2 (congrArg UInt8.toNat hb)

theorem decodeBytes_of_digits {high low : UInt8} {h l : Nat}
    (hh : Numeral.hexDigit? high.toNat = some h) (hl : Numeral.hexDigit? low.toNat = some l)
    (bs : Bytes) :
    decodeBytes (mark :: high :: low :: bs) = (decodeBytes bs).map (.ofNat (16 * h + l) :: ·) := by
  have hne : ¬(high = mark ∨ low = mark) :=
    not_or.mpr ⟨ne_mark_of_hexDigit? hh, ne_mark_of_hexDigit? hl⟩
  rw [decodeBytes_mark, if_neg hne, octet?_eq_some_iff.mpr ⟨h, l, hh, hl, rfl⟩]

theorem decodeBytes_mark_eq_ok_iff {bs octets : Bytes} :
    decodeBytes (mark :: bs) = .ok octets ↔ ∃ high low rest h l tail, bs = high :: low :: rest ∧
      Numeral.hexDigit? high.toNat = some h ∧ Numeral.hexDigit? low.toNat = some l ∧
      decodeBytes rest = .ok tail ∧ octets = .ofNat (16 * h + l) :: tail := by
  constructor
  · intro hd
    match bs with
    | [] => simp [decodeBytes] at hd
    | [_] => simp [decodeBytes] at hd
    | high :: low :: rest =>
      rw [decodeBytes_mark] at hd
      split at hd
      · contradiction
      · cases hx : octet? high low with
        | none => simp [hx] at hd
        | some x =>
          obtain ⟨h, l, hh, hl, rfl⟩ := octet?_eq_some_iff.mp hx
          cases ht : decodeBytes rest with
          | error f => simp [hx, ht, Except.map] at hd
          | ok tail =>
            simp only [hx, ht, Except.map, Except.ok.injEq] at hd
            exact ⟨high, low, rest, h, l, tail, rfl, hh, hl, ht, hd.symm⟩
  · rintro ⟨high, low, rest, h, l, tail, rfl, hh, hl, ht, rfl⟩
    rw [decodeBytes_of_digits hh hl, ht]
    rfl

theorem exists_digit_of_flatMap {cs : List Char} {b : UInt8} {bs : Bytes} {d : Nat}
    (hcs : cs.flatMap String.utf8EncodeChar = b :: bs)
    (hb : Numeral.hexDigit? b.toNat = some d) :
    ∃ c rest, cs = c :: rest ∧ Numeral.hexDigit? c.toNat = some d ∧
      bs = rest.flatMap String.utf8EncodeChar := by
  cases cs with
  | nil => simp at hcs
  | cons c rest =>
    rw [List.flatMap_cons] at hcs
    by_cases hc : c.toNat < 128
    · rw [utf8EncodeChar_of_lt hc, List.singleton_append, List.cons.injEq] at hcs
      obtain ⟨rfl, rfl⟩ := hcs
      rw [toNat_ofNat_code hc] at hb
      exact ⟨c, rest, rfl, hb, rfl⟩
    · have hmem : b ∈ String.utf8EncodeChar c := by
        cases hc' : String.utf8EncodeChar c with
        | nil => exact absurd hc' String.utf8EncodeChar_ne_nil
        | cons x xs =>
          rw [hc', List.cons_append, List.cons.injEq] at hcs
          simp [hcs.1]
      have hle := le_of_mem_utf8EncodeChar (Nat.not_lt.mp hc) hmem
      have hlt := (hexDigit?_bounds hb).1
      omega

theorem flatMap_digit {c : Char} {d : Nat} (h : Numeral.hexDigit? c.toNat = some d)
    (cs : List Char) : ∃ b : UInt8, (c :: cs).flatMap String.utf8EncodeChar =
      b :: cs.flatMap String.utf8EncodeChar ∧ Numeral.hexDigit? b.toNat = some d := by
  have hc := (hexDigit?_bounds h).1
  refine ⟨.ofNat c.toNat, ?_, ?_⟩
  · rw [List.flatMap_cons, utf8EncodeChar_of_lt hc]
    rfl
  · rwa [toNat_ofNat_code hc]

theorem flatMap_percent (cs : List Char) :
    ('%' :: cs).flatMap String.utf8EncodeChar = mark :: cs.flatMap String.utf8EncodeChar := rfl

theorem Spells.decodeBytes {cs : List Char} {octets : Bytes} (h : Spells cs octets) :
    decodeBytes (cs.flatMap String.utf8EncodeChar) = .ok octets := by
  induction h with
  | nil => rfl
  | literal hc _ ih =>
    rw [List.flatMap_cons, decodeBytes_append_of_notMem (mark_notMem_utf8EncodeChar hc), ih]
    rfl
  | escape hhigh hlow _ ih =>
    obtain ⟨high, hcs, hh⟩ := flatMap_digit hhigh _
    obtain ⟨low, hcs', hl⟩ := flatMap_digit hlow _
    rw [flatMap_percent, hcs, hcs']
    exact decodeBytes_mark_eq_ok_iff.mpr ⟨high, low, _, _, _, _, rfl, hh, hl, ih, rfl⟩

theorem spells_of_decodeBytes {cs : List Char} {octets : Bytes}
    (h : decodeBytes (cs.flatMap String.utf8EncodeChar) = .ok octets) : Spells cs octets := by
  -- by induction on the length of the text, as an escape takes three of its characters at once
  induction hn : cs.length using Nat.strongRecOn generalizing cs octets with
  | _ n ih =>
    subst hn
    cases cs with
    | nil =>
      cases h
      exact .nil
    | cons c cs =>
      by_cases hc : c = '%'
      · subst hc
        rw [flatMap_percent] at h
        obtain ⟨high, low, rest, hi, lo, tail, hcs, hh, hl, ht, rfl⟩ :=
          decodeBytes_mark_eq_ok_iff.mp h
        obtain ⟨d, ds, rfl, hd, hds⟩ := exists_digit_of_flatMap hcs hh
        obtain ⟨e, es, rfl, he, hes⟩ := exists_digit_of_flatMap hds.symm hl
        rw [hes] at ht
        exact .escape hd he (ih es.length (by simp only [List.length_cons]; omega) ht rfl)
      · rw [List.flatMap_cons,
          decodeBytes_append_of_notMem (mark_notMem_utf8EncodeChar hc)] at h
        cases ht : decodeBytes (cs.flatMap String.utf8EncodeChar) with
        | error f => simp [ht, Except.map] at h
        | ok tail =>
          simp only [ht, Except.map, Except.ok.injEq] at h
          rw [← h]
          exact .literal hc (ih cs.length (Nat.lt_succ_self _) ht rfl)

/-- The decoder accepts the texts that spell octets, and answers the octets that they spell. -/
theorem decodeBytes_ofList_eq_ok_iff {cs : List Char} {octets : Bytes} :
    decodeBytes (.ofText (.ofList cs)) = .ok octets ↔ Spells cs octets := by
  rw [Bytes.ofText_ofList]
  exact ⟨spells_of_decodeBytes, Spells.decodeBytes⟩

end FileCatalog.Escape

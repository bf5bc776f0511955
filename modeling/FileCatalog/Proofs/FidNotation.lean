import FileCatalog.Proofs.Numerals

/-!
# The notation of fids

A fid is written as three hexadecimal numbers between colons, each behind its mark, with or without
brackets around them. The notation is told apart from the reader, by the signs that a number may
have. The main statement is that the reader understands the notation with an optional plus sign and
nothing else, so that among the texts without a plus sign it understands just the plain notation.
-/

namespace FileCatalog.Fid

open Numeral (Hexadecimal)

/-- A number of a fid: the mark with its letter in either case, one of the signs, and digits. -/
inductive Number (signs : List (List Char)) (n : Nat) : List Char → Prop
  | intro {x sign ds} : x = 'x' ∨ x = 'X' → sign ∈ signs → Hexadecimal ds n →
      Number signs n ('0' :: x :: (sign ++ ds))

inductive Numbers (signs : List (List Char)) (f : Fid) : List Char → Prop
  | intro {s o v} : Number signs f.sequence.toNat s → Number signs f.object.toNat o →
      Number signs f.version.toNat v → Numbers signs f (s ++ ':' :: (o ++ ':' :: v))

inductive WrittenAs (signs : List (List Char)) (f : Fid) : List Char → Prop
  | bare {cs} : Numbers signs f cs → WrittenAs signs f cs
  | bracketed {cs} : Numbers signs f cs → WrittenAs signs f ('[' :: (cs ++ [']']))

def unsigned : List (List Char) := [[]]

/-- No sign, or the one that the reader passes over. -/
def plusOrNone : List (List Char) := [[], ['+']]

section Reader

variable {signs : List (List Char)} {bound n : Nat} {cs ds : List Char} {f : Fid}

theorem readNumber?_of_plus (h : Hexadecimal ds n) : readNumber? ('+' :: ds) = some n :=
  Numeral.read?_hex_eq_some_iff.mpr h

theorem readNumber?_of_digits (h : Hexadecimal ds n) : readNumber? ds = some n := by
  unfold readNumber?
  split
  · exact absurd List.mem_cons_self (h.notMem (c := '+') rfl)
  · exact Numeral.read?_hex_eq_some_iff.mpr h

theorem readNumber?_eq_some_iff :
    readNumber? cs = some n ↔ ∃ sign ∈ plusOrNone, ∃ ds, cs = sign ++ ds ∧ Hexadecimal ds n := by
  constructor
  · intro h
    unfold readNumber? at h
    split at h
    · exact ⟨['+'], by simp [plusOrNone], _, rfl, Numeral.read?_hex_eq_some_iff.mp h⟩
    · exact ⟨[], by simp [plusOrNone], _, rfl, Numeral.read?_hex_eq_some_iff.mp h⟩
  · rintro ⟨sign, hsign, ds, rfl, hds⟩
    simp only [plusOrNone, List.mem_cons, List.not_mem_nil, or_false] at hsign
    rcases hsign with rfl | rfl
    · exact readNumber?_of_digits hds
    · exact readNumber?_of_plus hds

theorem readField?_eq_some_iff :
    readField? bound cs = some n ↔ Number plusOrNone n cs ∧ n < bound := by
  constructor
  · intro h
    unfold readField? at h
    split at h
    · split at h
      · rename_i hx
        obtain ⟨hnumber, hbound⟩ := Option.filter_eq_some_iff.mp h
        obtain ⟨sign, hsign, ds, rfl, hds⟩ := readNumber?_eq_some_iff.mp hnumber
        exact ⟨.intro hx hsign hds, of_decide_eq_true hbound⟩
      · contradiction
    · contradiction
  · rintro ⟨⟨hx, hsign, hds⟩, hbound⟩
    rw [readField?, if_pos hx, readNumber?_eq_some_iff.mpr ⟨_, hsign, _, rfl, hds⟩]
    exact Option.filter_eq_some_iff.mpr ⟨rfl, decide_eq_true hbound⟩

theorem Number.notMem {c : Char} (h : Number signs n cs) (hdigit : Numeral.hexDigit? c.toNat = none)
    (hmark : c ≠ 'x' ∧ c ≠ 'X') (hsigns : ∀ sign ∈ signs, c ∉ sign) : c ∉ cs := by
  obtain ⟨hx, hsign, hds⟩ := h
  have hzero : c ≠ '0' := by
    rintro rfl
    exact nomatch hdigit
  simp only [List.mem_cons, List.mem_append, not_or]
  refine ⟨hzero, ?_, hsigns _ hsign, hds.notMem hdigit⟩
  rintro rfl
  exact hx.elim hmark.1 hmark.2

theorem Number.colon_notMem (h : Number plusOrNone n cs) : ':' ∉ cs :=
  h.notMem rfl (by decide) (by decide)

theorem read?_eq_some_iff_numbers : read? cs = some f ↔ Numbers plusOrNone f (unbracket cs) := by
  unfold read?
  constructor
  · intro h
    split at h
    · rename_i s o v hfields
      simp only [Option.bind_eq_bind, Option.bind_eq_some_iff, readField?_eq_some_iff] at h
      obtain ⟨n, ⟨hs, hn⟩, m, ⟨ho, hm⟩, k, ⟨hv, hk⟩, ⟨⟩⟩ := h
      rw [← UInt64.toNat_ofNat_of_lt' hn] at hs
      rw [← UInt32.toNat_ofNat_of_lt' hm] at ho
      rw [← UInt32.toNat_ofNat_of_lt' hk] at hv
      rw [(Text.fields_eq_triple_iff.mp hfields).1]
      exact .intro hs ho hv
    · contradiction
  · generalize unbracket cs = t
    rintro ⟨hs, ho, hv⟩
    rw [Text.fields_eq_triple_iff.mpr
      ⟨rfl, hs.colon_notMem, ho.colon_notMem, hv.colon_notMem⟩]
    simp [readField?_eq_some_iff.mpr ⟨hs, f.sequence.toNat_lt⟩,
      readField?_eq_some_iff.mpr ⟨ho, f.object.toNat_lt⟩,
      readField?_eq_some_iff.mpr ⟨hv, f.version.toNat_lt⟩]

theorem Numbers.exists_cons (h : Numbers signs f cs) : ∃ t, cs = '0' :: t := by
  obtain ⟨⟨-, -, -⟩, -, -⟩ := h
  exact ⟨_, rfl⟩

theorem numbers_unbracket_iff : Numbers signs f (unbracket cs) ↔ WrittenAs signs f cs := by
  constructor
  · intro h
    unfold unbracket at h
    split at h
    · split at h
      · rename_i hlast
        obtain ⟨t, rfl⟩ := List.getLast?_eq_some_iff.mp hlast
        rw [List.dropLast_concat] at h
        exact .bracketed h
      · exact .bare h
    · exact .bare h
  · intro h
    cases h with
    | bare h =>
      obtain ⟨t, rfl⟩ := h.exists_cons
      exact h
    | bracketed h => simpa [unbracket] using h

theorem read?_eq_some_iff : read? cs = some f ↔ WrittenAs plusOrNone f cs :=
  read?_eq_some_iff_numbers.trans numbers_unbracket_iff

theorem parse_eq_ok_iff {s : String} : parse s = .ok f ↔ read? s.toList = some f := by
  unfold parse
  cases read? s.toList <;> simp

theorem parse_eq_error_iff {s : String} {fault : Fault} : parse s = .error fault ↔
    read? s.toList = none ∧ fault = .invalidFormat "lustre fid" s := by
  unfold parse
  cases read? s.toList <;> simp [eq_comm]

end Reader

section Signs

variable {n : Nat} {cs : List Char} {f : Fid}

theorem number_unsigned_iff : Number unsigned n cs ↔ Number plusOrNone n cs ∧ '+' ∉ cs := by
  constructor
  · intro h
    refine ⟨?_, h.notMem rfl (by decide) (by decide)⟩
    obtain ⟨hx, hsign, hds⟩ := h
    exact .intro hx (List.mem_append_left [['+']] hsign) hds
  · rintro ⟨⟨hx, hsign, hds⟩, hplus⟩
    simp only [plusOrNone, List.mem_cons, List.not_mem_nil, or_false] at hsign
    rcases hsign with rfl | rfl
    · exact .intro hx List.mem_cons_self hds
    · simp at hplus

theorem numbers_unsigned_iff : Numbers unsigned f cs ↔ Numbers plusOrNone f cs ∧ '+' ∉ cs := by
  constructor
  · rintro ⟨hs, ho, hv⟩
    obtain ⟨hs, hs'⟩ := number_unsigned_iff.mp hs
    obtain ⟨ho, ho'⟩ := number_unsigned_iff.mp ho
    obtain ⟨hv, hv'⟩ := number_unsigned_iff.mp hv
    exact ⟨.intro hs ho hv, by simp [hs', ho', hv']⟩
  · rintro ⟨⟨hs, ho, hv⟩, hplus⟩
    simp only [List.mem_append, List.mem_cons, not_or] at hplus
    obtain ⟨hs', -, ho', -, hv'⟩ := hplus
    exact .intro (number_unsigned_iff.mpr ⟨hs, hs'⟩) (number_unsigned_iff.mpr ⟨ho, ho'⟩)
      (number_unsigned_iff.mpr ⟨hv, hv'⟩)

/-- The plain notation is the part of the other one that does without the plus sign. -/
theorem writtenAs_unsigned_iff : WrittenAs unsigned f cs ↔ WrittenAs plusOrNone f cs ∧ '+' ∉ cs := by
  constructor
  · intro h
    cases h with
    | bare h =>
      obtain ⟨h, hplus⟩ := numbers_unsigned_iff.mp h
      exact ⟨.bare h, hplus⟩
    | bracketed h =>
      obtain ⟨h, hplus⟩ := numbers_unsigned_iff.mp h
      exact ⟨.bracketed h, by simp [hplus]⟩
  · rintro ⟨h, hplus⟩
    cases h with
    | bare h => exact .bare (numbers_unsigned_iff.mpr ⟨h, hplus⟩)
    | bracketed h =>
      simp only [List.mem_cons, List.mem_append, not_or] at hplus
      exact .bracketed (numbers_unsigned_iff.mpr ⟨h, hplus.2.1⟩)

end Signs

/-- The reader understands the notation with or without plus signs, and reports every other text as
it is. What it understands without a plus sign is the plain notation. -/
theorem parse_understands_notation (s : String) :
    (∀ f : Fid, parse s = .ok f ↔ WrittenAs plusOrNone f s.toList) ∧
      (∀ f : Fid, WrittenAs unsigned f s.toList ↔ parse s = .ok f ∧ '+' ∉ s.toList) ∧
      ∀ fault, parse s = .error fault ↔
        (∀ f : Fid, ¬WrittenAs plusOrNone f s.toList) ∧ fault = .invalidFormat "lustre fid" s := by
  refine ⟨fun f => ?_, fun f => ?_, fun fault => ?_⟩
  · rw [parse_eq_ok_iff, read?_eq_some_iff]
  · rw [parse_eq_ok_iff, read?_eq_some_iff, writtenAs_unsigned_iff]
  · simp only [parse_eq_error_iff, Option.eq_none_iff_forall_ne_some, ne_eq, read?_eq_some_iff]

/-- A number with a plus sign is no part of the plain notation, but the reader takes it. -/
theorem plus_sign_understood :
    ¬∀ (s : String) (f : Fid), parse s = .ok f → WrittenAs unsigned f s.toList := by
  intro hplain
  have hrun : parse "0x+1:0x2:0x3" = .ok ⟨1, 2, 3⟩ := by decide +kernel
  exact absurd (writtenAs_unsigned_iff.mp (hplain _ _ hrun)).2 (by decide)

end FileCatalog.Fid

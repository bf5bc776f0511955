import FileCatalog.Layout.Header
import Mathlib.Data.List.Basic

/-!
# Fields of layout headers

A header is stored in two fields, at places that depend on the format, and takes as many octets as are
needed to reach the end of the last of them. Decoding is told here by these places alone: it succeeds
exactly if the octets are enough and start with the number of a format. What it answers is kept by
every change of octets that reaches neither field, since a span reads the same in any two octet strings
that agree on it.
-/

namespace FileCatalog

namespace Span

variable {s : Span} {region region' : Bytes}

theorem getElem?_read (s : Span) (region : Bytes) (i : Nat) :
    (s.read region)[i]? = if i < s.length then region[s.start + i]? else none := by
  rw [read, List.getElem?_take, List.getElem?_drop]

theorem read_congr (h : ∀ i, s.start ≤ i → i < s.stop → region[i]? = region'[i]?) :
    s.read region = s.read region' := by
  apply List.ext_getElem?
  intro i
  rw [getElem?_read, getElem?_read]
  split
  case isTrue hi => exact h _ (Nat.le_add_right _ _) (Nat.add_lt_add_left hi _)
  case isFalse => rfl

theorem length_read_le (s : Span) (region : Bytes) : (s.read region).length ≤ s.length := by
  rw [read, List.length_take]
  exact Nat.min_le_left _ _

/-- Put octets over those that the span covers. -/
def write (s : Span) (data region : Bytes) : Bytes :=
  region.take s.start ++ data ++ region.drop s.stop

theorem length_write {data : Bytes} (hdata : data.length = s.length) (h : s.stop ≤ region.length) :
    (s.write data region).length = region.length := by
  simp only [stop] at h
  simp only [write, stop, List.length_append, List.length_take, List.length_drop, hdata]
  omega

theorem read_write {data : Bytes} (hdata : data.length = s.length) (h : s.stop ≤ region.length) :
    s.read (s.write data region) = data := by
  simp only [stop] at h
  have hstart : (region.take s.start).length = s.start := List.length_take_of_le (by omega)
  rw [write, read, List.append_assoc, List.drop_left' hstart, List.take_left' hdata]

theorem read_write_of_stop_le {t : Span} (ht : t.stop ≤ s.start) (h : s.stop ≤ region.length)
    (data : Bytes) : t.read (s.write data region) = t.read region := by
  simp only [stop] at h ht
  apply read_congr
  intro i _ hi
  simp only [stop] at hi
  have hlt : i < (region.take s.start).length := by
    rw [List.length_take_of_le (by omega)]
    omega
  rw [write, List.append_assoc, List.getElem?_append_left hlt, List.getElem?_take_of_lt (by omega)]

end Span

namespace Layout

namespace Format

def extent : Format → Nat
  | plain | pooled | listed => 32
  | composite | extending => 12
  | foreign => 4

def IsField : Format → Nat → Prop
  | plain, i | pooled, i | listed, i => i < 4 ∨ 30 ≤ i ∧ i < 32
  | composite, i | extending, i => i < 4 ∨ 8 ≤ i ∧ i < 12
  | foreign, i => i < 4

/-- The generation that octets hold, or the one that stands for none. -/
def generationIn : Format → Bytes → Nat
  | plain, raw | pooled, raw | listed, raw => Bytes.toNat ((raw.drop 30).take 2)
  | composite, raw | extending, raw => Bytes.toNat ((raw.drop 8).take 4)
  | foreign, _ => 0xFFFFFFFF

def writeGeneration : Format → (generation : Nat) → Bytes → Bytes
  | plain, n, raw | pooled, n, raw | listed, n, raw => Span.write ⟨30, 2⟩ (.ofNat 2 n) raw
  | composite, n, raw | extending, n, raw => Span.write ⟨8, 4⟩ (.ofNat 4 n) raw
  | foreign, _, raw => raw

/-- The generations that the format has room for. -/
def Stores : Format → (generation : Nat) → Prop
  | plain, n | pooled, n | listed, n => n < 65536
  | composite, n | extending, n => n < 4294967296
  | foreign, n => n = 0xFFFFFFFF

/-- The generation is kept behind the number of the format, in the span where the decoder looks. -/
structure KeepsAt (f : Format) (s : Span) : Prop where
  field : f.generationField = some s
  extent : f.extent = s.stop
  start : 4 ≤ s.start
  length : s.length ≤ 4
  isField : ∀ i, s.start ≤ i → i < s.stop → f.IsField i
  generationIn : ∀ raw, f.generationIn raw = (s.read raw).toNat
  write : ∀ n raw, f.writeGeneration n raw = s.write (.ofNat s.length n) raw
  stores : ∀ n, f.Stores n → n < 1 <<< (8 * s.length)

structure KeepsNone (f : Format) : Prop where
  field : f.generationField = none
  extent : f.extent = 4
  generationIn : ∀ raw, f.generationIn raw = 0xFFFFFFFF
  write : ∀ n raw, f.writeGeneration n raw = raw
  stores : ∀ n, f.Stores n → n = 0xFFFFFFFF

theorem keeps (f : Format) : (∃ s, f.KeepsAt s) ∨ f.KeepsNone := by
  have hshort {g : Format} (h : g = plain ∨ g = pooled ∨ g = listed) : g.KeepsAt ⟨30, 2⟩ := by
    obtain rfl | rfl | rfl := h <;>
      exact ⟨rfl, rfl, by decide, by decide, fun _ hstart hstop => .inr ⟨hstart, hstop⟩,
        fun _ => rfl, fun _ _ => rfl, fun _ => id⟩
  have hlong {g : Format} (h : g = composite ∨ g = extending) : g.KeepsAt ⟨8, 4⟩ := by
    obtain rfl | rfl := h <;>
      exact ⟨rfl, rfl, by decide, by decide, fun _ hstart hstop => .inr ⟨hstart, hstop⟩,
        fun _ => rfl, fun _ _ => rfl, fun _ => id⟩
  cases f with
  | plain => exact .inl ⟨_, hshort (.inl rfl)⟩
  | pooled => exact .inl ⟨_, hshort (.inr (.inl rfl))⟩
  | listed => exact .inl ⟨_, hshort (.inr (.inr rfl))⟩
  | composite => exact .inl ⟨_, hlong (.inl rfl)⟩
  | extending => exact .inl ⟨_, hlong (.inr rfl)⟩
  | foreign => exact .inr ⟨rfl, rfl, fun _ => rfl, fun _ _ => rfl, fun _ => id⟩

variable {f g : Format} {m : UInt32} {i : Nat}

theorem ofMagic?_eq_some_iff : ofMagic? m = some f ↔ f.magic = m :=
  ⟨magic_of_ofMagic?, fun h => h ▸ ofMagic?_magic f⟩

theorem magic_injective (h : f.magic = g.magic) : f = g :=
  Option.some.inj (f.ofMagic?_magic.symm.trans (ofMagic?_eq_some_iff.mpr h.symm))

theorem four_le_extent (f : Format) : 4 ≤ f.extent := by
  cases f <;> decide

theorem IsField.lt_extent (h : f.IsField i) : i < f.extent := by
  cases f <;> simp only [IsField, extent] at h ⊢ <;> omega

theorem isField_of_lt_four (f : Format) (h : i < 4) : f.IsField i := by
  cases f with
  | foreign => exact h
  | _ => exact .inl h

end Format

namespace Header

variable {h : Header} {f : Format} {s : Span} {raw raw' : Bytes}

/-- The octets reach to the end of the last field and hold the header in its fields. -/
structure StoredIn (h : Header) (raw : Bytes) : Prop where
  length : h.format.extent ≤ raw.length
  magic : Bytes.toNat (raw.take 4) = h.format.magic.toNat
  generation : h.generation.toNat = h.format.generationIn raw

/-- Put a header into the first octets. -/
def write (h : Header) (filler : Bytes) : Bytes :=
  h.format.writeGeneration h.generation.toNat
    (Span.write ⟨0, 4⟩ (.ofNat 4 h.format.magic.toNat) filler)

section Decoding

theorem toNat_read_lt (hs : s.length ≤ 4) (raw : Bytes) : (s.read raw).toNat < UInt32.size := by
  have hle := Nat.le_trans (s.length_read_le raw) hs
  have hlt := Bytes.toNat_lt (s.read raw)
  rw [Nat.one_shiftLeft] at hlt
  exact Nat.lt_of_lt_of_le hlt (Nat.pow_le_pow_right (by decide) (Nat.mul_le_mul_left 8 hle))

theorem generationIn_lt (f : Format) (raw : Bytes) : f.generationIn raw < UInt32.size := by
  obtain ⟨s, hs⟩ | hn := f.keeps
  · rw [hs.generationIn]
    exact toNat_read_lt hs.length raw
  · rw [hn.generationIn]
    decide

theorem toNat_word (hs : s.length ≤ 4) (raw : Bytes) : (word s raw).toNat = (s.read raw).toNat :=
  UInt32.toNat_ofNat_of_lt' (toNat_read_lt hs raw)

theorem ofMagic?_word_eq_some_iff : Format.ofMagic? (word magicField raw) = some f ↔
    Bytes.toNat (raw.take 4) = f.magic.toNat := by
  rw [Format.ofMagic?_eq_some_iff, ← UInt32.toNat_inj, toNat_word (by decide), eq_comm]
  rfl

theorem decodeGeneration_of_le (hle : f.extent ≤ raw.length) :
    decodeGeneration f raw = .ok (.ofNat (f.generationIn raw)) := by
  obtain ⟨s, hs⟩ | hn := f.keeps
  · rw [hs.extent] at hle
    simp only [decodeGeneration, hs.field, if_pos hle, hs.generationIn, word]
  · simp only [decodeGeneration, hn.field, hn.generationIn, noGeneration]
    rfl

theorem decodeGeneration_of_lt (hmagic : 4 ≤ raw.length) (hlt : raw.length < f.extent) :
    ∃ details, decodeGeneration f raw = invalid details := by
  obtain ⟨s, hs⟩ | hn := f.keeps
  · rw [hs.extent] at hlt
    simp only [decodeGeneration, hs.field, if_neg (Nat.not_le.mpr hlt)]
    exact ⟨_, rfl⟩
  · rw [hn.extent] at hlt
    exact absurd hmagic (Nat.not_le.mpr hlt)

theorem StoredIn.decode (hs : h.StoredIn raw) : decode raw = .ok h := by
  have hmagic : magicField.stop ≤ raw.length := Nat.le_trans h.format.four_le_extent hs.length
  have hformat := ofMagic?_word_eq_some_iff.mpr hs.magic
  rw [Header.decode, if_pos hmagic]
  simp only [hformat, decodeGeneration_of_le hs.length, ← hs.generation, UInt32.ofNat_toNat]
  rfl

theorem decode_of_not_storedIn (hnot : ∀ h : Header, ¬h.StoredIn raw) :
    ∃ details, decode raw = .error (.invalidFormat "layout header" details) := by
  rw [Header.decode]
  split
  case isFalse => exact ⟨_, rfl⟩
  case isTrue hmagic =>
    cases hformat : Format.ofMagic? (word magicField raw) with
    | none => exact ⟨_, rfl⟩
    | some f =>
      have hlt : raw.length < f.extent := by
        by_contra hle
        refine hnot ⟨f, .ofNat (f.generationIn raw)⟩ ⟨Nat.not_lt.mp hle, ?_, ?_⟩
        · exact ofMagic?_word_eq_some_iff.mp hformat
        · exact UInt32.toNat_ofNat_of_lt' (generationIn_lt f raw)
      obtain ⟨details, hinvalid⟩ := decodeGeneration_of_lt hmagic hlt
      exact ⟨details, by simp only [hinvalid]; rfl⟩

theorem decode_eq_ok_iff : decode raw = .ok h ↔ h.StoredIn raw := by
  refine ⟨fun hok => ?_, StoredIn.decode⟩
  by_cases hsome : ∃ g : Header, g.StoredIn raw
  · obtain ⟨g, hg⟩ := hsome
    exact Except.ok.inj (hg.decode.symm.trans hok) ▸ hg
  · obtain ⟨details, herror⟩ := decode_of_not_storedIn (not_exists.mp hsome)
    exact nomatch hok.symm.trans herror

end Decoding

section Changes

/-- Nothing but the octets of the fields is looked at. -/
theorem StoredIn.congr (hs : h.StoredIn raw) (hlength : h.format.extent ≤ raw'.length)
    (hfields : ∀ i, h.format.IsField i → raw'[i]? = raw[i]?) : h.StoredIn raw' where
  length := hlength
  magic := by
    have hread : Span.read ⟨0, 4⟩ raw' = Span.read ⟨0, 4⟩ raw := by
      refine Span.read_congr fun i _ hi => hfields i ?_
      exact h.format.isField_of_lt_four (by simpa [Span.stop] using hi)
    exact (congrArg Bytes.toNat hread).trans hs.magic
  generation := by
    rw [hs.generation]
    obtain ⟨s, hkeeps⟩ | hnone := h.format.keeps
    · rw [hkeeps.generationIn, hkeeps.generationIn,
        Span.read_congr fun i hstart hstop => hfields i (hkeeps.isField i hstart hstop)]
    · rw [hnone.generationIn, hnone.generationIn]

theorem StoredIn.append (hs : h.StoredIn raw) (more : Bytes) : h.StoredIn (raw ++ more) := by
  refine hs.congr ?_ fun i hi => ?_
  · rw [List.length_append]
    exact Nat.le_add_right_of_le hs.length
  · exact List.getElem?_append_left (Nat.lt_of_lt_of_le hi.lt_extent hs.length)

theorem StoredIn.set (hs : h.StoredIn raw) {i : Nat} (hi : ¬h.format.IsField i) (b : UInt8) :
    h.StoredIn (raw.set i b) := by
  refine hs.congr ?_ fun j hj => ?_
  · rw [List.length_set]
    exact hs.length
  · exact List.getElem?_set_ne fun hij : i = j => hi (hij.symm ▸ hj)

/-- The octets in front decide on the format, and these are not enough for it. -/
theorem StoredIn.not_take (hs : h.StoredIn raw) {n : Nat} (hn : n < h.format.extent) (g : Header) :
    ¬g.StoredIn (raw.take n) := by
  intro hg
  have hlength := hg.length
  rw [List.length_take_of_le (Nat.le_of_lt (Nat.lt_of_lt_of_le hn hs.length))] at hlength
  -- Every header keeps the number of the format, so the cut one would be of the same format.
  have hfour : 4 ≤ n := Nat.le_trans g.format.four_le_extent hlength
  have hmagic := hg.magic
  rw [List.take_take, Nat.min_eq_left hfour, hs.magic, UInt32.toNat_inj] at hmagic
  exact Nat.not_lt.mpr hlength (Format.magic_injective hmagic ▸ hn)

theorem toNat_take_four_write {n : UInt32} (hle : 4 ≤ raw.length) :
    Bytes.toNat ((Span.write ⟨0, 4⟩ (.ofNat 4 n.toNat) raw).take 4) = n.toNat := by
  have hread : (Span.write ⟨0, 4⟩ (.ofNat 4 n.toNat) raw).take 4 = Bytes.ofNat 4 n.toNat :=
    Span.read_write (s := ⟨0, 4⟩) (Bytes.length_ofNat 4 _) hle
  have hlt : n.toNat < 1 <<< (8 * 4) := n.toNat_lt
  rw [hread, Bytes.toNat_ofNat, Nat.mod_eq_of_lt hlt]

theorem storedIn_write (hstores : h.format.Stores h.generation.toNat)
    (hle : h.format.extent ≤ raw.length) : h.StoredIn (h.write raw) := by
  have hfour := Nat.le_trans h.format.four_le_extent hle
  have hmagic := toNat_take_four_write (n := h.format.magic) hfour
  have hlength := Span.length_write (s := ⟨0, 4⟩) (Bytes.length_ofNat 4 h.format.magic.toNat) hfour
  rw [write]
  -- From here on the generation is written over octets that start with the number of the format.
  generalize Span.write ⟨0, 4⟩ (.ofNat 4 h.format.magic.toNat) raw = numbered at hmagic hlength ⊢
  obtain ⟨s, hkeeps⟩ | hnone := h.format.keeps
  · have hdata := Bytes.length_ofNat s.length h.generation.toNat
    have hstop : s.stop ≤ numbered.length := by
      rw [hlength, ← hkeeps.extent]
      exact hle
    rw [hkeeps.write]
    refine ⟨?_, ?_, ?_⟩
    · rw [Span.length_write hdata hstop, hlength]
      exact hle
    · rw [← hmagic]
      exact congrArg Bytes.toNat (Span.read_write_of_stop_le (t := ⟨0, 4⟩) hkeeps.start hstop _)
    · rw [hkeeps.generationIn, Span.read_write hdata hstop, Bytes.toNat_ofNat,
        Nat.mod_eq_of_lt (hkeeps.stores _ hstores)]
  · rw [hnone.write]
    refine ⟨?_, hmagic, ?_⟩
    · rw [hlength]
      exact hle
    · rw [hnone.stores _ hstores, hnone.generationIn]

end Changes

/-- A header is decoded exactly from the octets that hold it, and all other octets are refused as a
broken header. A header that is written over any octets, enough for its format, is decoded again. What
has been decoded does not change with octets behind it or outside its fields, and is lost
with every cut in front of the end of its last field. -/
theorem decode_depends_on_fields (raw : Bytes) :
    (∀ h : Header, decode raw = .ok h ↔ h.StoredIn raw) ∧
      ((∀ h : Header, ¬h.StoredIn raw) →
        ∃ details, decode raw = .error (.invalidFormat "layout header" details)) ∧
      (∀ h : Header, h.format.Stores h.generation.toNat → h.format.extent ≤ raw.length →
        decode (h.write raw) = .ok h) ∧
      ∀ h : Header, decode raw = .ok h →
        (∀ more, decode (raw ++ more) = .ok h) ∧
        (∀ i b, ¬h.format.IsField i → decode (raw.set i b) = .ok h) ∧
        ∀ n < h.format.extent,
          ∃ details, decode (raw.take n) = .error (.invalidFormat "layout header" details) := by
  refine ⟨fun h => decode_eq_ok_iff, decode_of_not_storedIn, ?_, ?_⟩
  · intro h hstores hle
    exact (storedIn_write hstores hle).decode
  · intro h hok
    have hs := decode_eq_ok_iff.mp hok
    refine ⟨fun more => (hs.append more).decode, fun i b hi => (hs.set hi b).decode, ?_⟩
    intro n hn
    exact decode_of_not_storedIn (hs.not_take hn)

/-- A header whose generation takes both of its octets, one octet more than it needs, the octet in front
of the generation, a cut by one octet too many, and an octet alone. -/
theorem decode_depends_on_fields_of_pooled :
    let header : Header := ⟨.pooled, 513⟩
    let filler : Bytes := List.replicate 33 255
    header.format.Stores header.generation.toNat ∧ header.format.extent ≤ filler.length ∧
      decode (header.write filler) = .ok header ∧ decode (header.write filler ++ [1]) = .ok header ∧
      ¬header.format.IsField 29 ∧ decode ((header.write filler).set 29 0) = .ok header ∧
      31 < header.format.extent ∧
      (∃ details, decode ((header.write filler).take 31) =
        .error (.invalidFormat "layout header" details)) ∧
      (∀ h : Header, ¬h.StoredIn [0xd0]) ∧
      ∃ details, decode [0xd0] = .error (.invalidFormat "layout header" details) := by
  intro header filler
  have hstores : header.format.Stores header.generation.toNat := by
    change 513 < 65536
    decide
  have hle : header.format.extent ≤ filler.length := by decide
  have hok := (decode_depends_on_fields filler).2.2.1 header hstores hle
  obtain ⟨-, -, -, hchanges⟩ := decode_depends_on_fields (header.write filler)
  obtain ⟨hmore, hset, hcut⟩ := hchanges header hok
  have hoctet : ¬header.format.IsField 29 := by
    change ¬(29 < 4 ∨ 30 ≤ 29 ∧ 29 < 32)
    decide
  have hshort : 31 < header.format.extent := by decide
  have hnone : ∀ h : Header, ¬h.StoredIn [0xd0] := fun h hs =>
    absurd (Nat.le_trans h.format.four_le_extent hs.length) (by decide)
  exact ⟨hstores, hle, hok, hmore [1], hoctet, hset 29 0 hoctet, hshort, hcut 31 hshort, hnone,
    (decode_depends_on_fields [0xd0]).2.1 hnone⟩

end Header

end Layout

end FileCatalog

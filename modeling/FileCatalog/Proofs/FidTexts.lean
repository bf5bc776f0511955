import FileCatalog.Proofs.FidNotation
import FileCatalog.Proofs.RecordShape

/-!
# Fids in text and in identifiers

A fid is written in the plain notation and so read back, alone, without its brackets and as the
identifier of a locator. The identifier it stands for has a fixed layout, from which its three numbers
can be taken again. Hence neither the text nor the identifier of a fid is that of another one.
-/

namespace FileCatalog

namespace Fid

section Texts

variable {f g : Fid} {octets : Bytes}

theorem number_fieldChars (n : Nat) : Number unsigned n (fieldChars n) :=
  .intro (.inl rfl) List.mem_cons_self (Numeral.hexadecimal_hexChars n)

theorem numbers_bareChars (f : Fid) : Numbers unsigned f f.bareChars := by
  rw [bareChars, List.append_assoc, List.cons_append]
  exact .intro (number_fieldChars _) (number_fieldChars _) (number_fieldChars _)

theorem read?_of_writtenAs {cs : List Char} (h : WrittenAs unsigned f cs) : read? cs = some f :=
  read?_eq_some_iff.mpr (writtenAs_unsigned_iff.mp h).1

theorem parse_text (f : Fid) : parse f.text = .ok f := by
  rw [parse_eq_ok_iff, text, String.toList_ofList]
  exact read?_of_writtenAs (.bracketed f.numbers_bareChars)

theorem read?_bareChars (f : Fid) : read? f.bareChars = some f :=
  read?_of_writtenAs (.bare f.numbers_bareChars)

theorem text_eq (f : Fid) : f.text = "[" ++ String.ofList f.bareChars ++ "]" := by
  rw [← String.toList_inj]
  simp [text]

theorem text_injective (h : f.text = g.text) : f = g := by
  have hf := f.parse_text
  rw [h, g.parse_text] at hf
  exact (Except.ok.inj hf).symm

theorem bytes_entryId (f : Fid) :
    f.entryId.bytes = [0x97, 0, 0, 0] ++ f.bytes ++ List.replicate 16 0 := by
  have hkind : Bytes.ofNat 4 handleKind.toUInt32.toNat = [0x97, 0, 0, 0] := by decide
  rw [entryId, EntryId.bytes_ofHandle, handle, hkind, size, List.append_assoc]

theorem StoredIn.unique (hf : f.StoredIn octets) (hg : g.StoredIn octets) : f = g := by
  obtain ⟨sequence, object, version⟩ := f
  obtain ⟨sequence', object', version'⟩ := g
  have hsequence : sequence = sequence' := UInt64.toNat_inj.mp (hf.sequence.symm.trans hg.sequence)
  have hobject : object = object' := UInt32.toNat_inj.mp (hf.object.symm.trans hg.object)
  have hversion : version = version' := UInt32.toNat_inj.mp (hf.version.symm.trans hg.version)
  rw [hsequence, hobject, hversion]

theorem entryId_injective (h : f.entryId = g.entryId) : f = g := by
  have hbytes := congrArg EntryId.bytes h
  rw [bytes_entryId, bytes_entryId] at hbytes
  have hstored : f.bytes = g.bytes :=
    List.append_cancel_left (List.append_cancel_right hbytes)
  exact f.storedIn_bytes.unique (hstored ▸ g.storedIn_bytes)

end Texts

end Fid

namespace Locator

/-- The text of a fid is an identifier of a locator, and looks like a fid. -/
theorem identifies_bareChars (f : Fid) : Identifies f.bareChars f.entryId := by
  have hmark : ['0', 'x'] <+: f.bareChars := ⟨_, rfl⟩
  have hcolon : ':' ∈ f.bareChars := by simp [Fid.bareChars]
  exact .fid ⟨hmark, hcolon⟩ f.read?_bareChars

theorem parse_fid_text {b a filesystem : String} (f : Fid) (hb : IsScheme b.toList)
    (ha : Names a.toList filesystem) :
    parse (b ++ "://" ++ a ++ "#" ++ f.text) = .ok ⟨b, filesystem, f.entryId, none⟩ := by
  have hid : Identifies (String.ofList f.bareChars).toList f.entryId := by
    rw [String.toList_ofList]
    exact identifies_bareChars f
  rw [f.text_eq]
  exact parse_enclosed hb ha hid

end Locator

namespace Fid

/-- The text of a fid is read as that fid, in its brackets, without them, and as the fragment of every
locator of a filesystem. The identifier is thirty-six octets: the kind of the handle, the stored fid
and zeros. Another fid has another text and another identifier. -/
theorem text_and_identifier_faithful (f : Fid) :
    parse f.text = .ok f ∧
      (∃ t, f.text = "[" ++ t ++ "]" ∧ parse t = .ok f) ∧
      (∀ b a filesystem : String, Locator.IsScheme b.toList → Locator.Names a.toList filesystem →
        Locator.parse (b ++ "://" ++ a ++ "#" ++ f.text) = .ok ⟨b, filesystem, f.entryId, none⟩) ∧
      (∃ octets, f.entryId.bytes = [0x97, 0, 0, 0] ++ octets ++ List.replicate 16 0 ∧
        f.StoredIn octets) ∧
      f.entryId.length = 36 ∧
      ∀ g : Fid, g ≠ f → g.text ≠ f.text ∧ g.entryId ≠ f.entryId := by
  refine ⟨f.parse_text, ⟨.ofList f.bareChars, f.text_eq, ?_⟩, ?_, ?_, ?_, ?_⟩
  · rw [parse_eq_ok_iff, String.toList_ofList]
    exact f.read?_bareChars
  · intro b a filesystem hb ha
    exact Locator.parse_fid_text f hb ha
  · exact ⟨f.bytes, f.bytes_entryId, f.storedIn_bytes⟩
  · simp [entryId, handle, size]
  · intro g hne
    exact ⟨fun h => hne (text_injective h), fun h => hne (entryId_injective h)⟩

/-- The largest sequence and version, and an object of zero. -/
theorem text_and_identifier_faithful_at_bounds :
    Locator.IsScheme "lustre".toList ∧ Locator.Names "scratch%2f1".toList "scratch/1" ∧
      Fid.text ⟨0xffffffffffffffff, 0, 0xffffffff⟩ = "[0xffffffffffffffff:0x0:0xffffffff]" ∧
      Locator.parse "lustre://scratch%2f1#[0xffffffffffffffff:0x0:0xffffffff]" =
        .ok ⟨"lustre", "scratch/1", Fid.entryId ⟨0xffffffffffffffff, 0, 0xffffffff⟩, none⟩ ∧
      (⟨0, 0, 0⟩ : Fid) ≠ ⟨0xffffffffffffffff, 0, 0xffffffff⟩ ∧
      Fid.entryId ⟨0, 0, 0⟩ ≠ Fid.entryId ⟨0xffffffffffffffff, 0, 0xffffffff⟩ := by
  have hb : Locator.IsScheme "lustre".toList := Locator.isScheme_iff.mp (by decide)
  have ha : Locator.Names "scratch%2f1".toList "scratch/1" :=
    Locator.names_of_encodes (.literal rfl (.literal rfl (.literal rfl (.literal rfl (.literal rfl
      (.literal rfl (.literal rfl (.escape (.inl rfl) (.inl rfl) (.literal rfl .nil))))))))) (by decide)
  have htext : Fid.text ⟨0xffffffffffffffff, 0, 0xffffffff⟩ =
      "[0xffffffffffffffff:0x0:0xffffffff]" := by decide +kernel
  have hne : (⟨0, 0, 0⟩ : Fid) ≠ ⟨0xffffffffffffffff, 0, 0xffffffff⟩ := by decide
  have h := text_and_identifier_faithful ⟨0xffffffffffffffff, 0, 0xffffffff⟩
  have hparse := h.2.2.1 "lustre" "scratch%2f1" "scratch/1" hb ha
  rw [htext] at hparse
  exact ⟨hb, ha, htext, hparse, hne, (h.2.2.2.2.2 _ hne).2⟩

end Fid

end FileCatalog

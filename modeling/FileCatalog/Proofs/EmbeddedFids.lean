import FileCatalog.Proofs.FidNotation

/-!
# Fids between brackets

A fragment that starts with a bracket holds a fid or escaped octets, and the reader of locators tells
the two apart by how the text starts before the reader of fids sees it. A text that the reader of fids
understands is taken for a fid if its mark is in lower case. With a mark in upper case it passes for
octets that need no escape, and the identifier is made of the characters themselves.
-/

namespace FileCatalog

namespace Fid

/-- A field is the mark and characters without a meaning for the reader of escapes. -/
structure IsField (cs : List Char) : Prop where
  marked : ['0', 'x'] <+: cs ∨ ['0', 'X'] <+: cs
  plain : '%' ∉ cs

section Fields

variable {cs : List Char} {n : Nat} {f : Fid}

theorem Number.isField (h : Number plusOrNone n cs) : IsField cs := by
  refine ⟨?_, h.notMem rfl (by decide) (by decide)⟩
  obtain ⟨rfl | rfl, -, -⟩ := h
  · exact .inl ⟨_, rfl⟩
  · exact .inr ⟨_, rfl⟩

theorem read?_unbracketed (h : read? ('[' :: cs) = some f) :
    ∃ t, cs = t ++ [']'] ∧ read? t = some f ∧
      (['0', 'x'] <+: t ∨ ['0', 'X'] <+: t) ∧ ':' ∈ t ∧ '%' ∉ t := by
  cases read?_eq_some_iff.mp h with
  | bare hnumbers =>
    obtain ⟨t, ht⟩ := hnumbers.exists_cons
    exact absurd (List.cons.inj ht).1 (by decide)
  | @bracketed t hnumbers =>
    refine ⟨t, rfl, read?_eq_some_iff.mpr (.bare hnumbers), ?_⟩
    obtain ⟨hs, ho, hv⟩ := hnumbers
    refine ⟨?_, ?_, ?_⟩
    · exact hs.isField.marked.imp (·.trans (List.prefix_append _ _))
        (·.trans (List.prefix_append _ _))
    · simp
    · simp [hs.isField.plain, ho.isField.plain, hv.isField.plain]

end Fields

end Fid

namespace Locator

open Escape (Spells)

theorem spells_toList {t : List Char} (h : '%' ∉ t) :
    Spells t (t.flatMap String.utf8EncodeChar) := by
  induction t with
  | nil => exact .nil
  | cons c t ih =>
    rw [List.mem_cons, not_or] at h
    exact .literal (Ne.symm h.1) (ih h.2)

theorem identifies_of_read? {t : String} {fid : Fid} (h : Fid.read? t.toList = some fid)
    (hcolon : ':' ∈ t.toList) (hplain : '%' ∉ t.toList) :
    Identifies t.toList (if ['0', 'x'] <+: t.toList then fid.entryId else ⟨.ofText t⟩) := by
  by_cases hmark : ['0', 'x'] <+: t.toList
  · rw [if_pos hmark]
    exact .fid ⟨hmark, hcolon⟩ h
  · have hspells := spells_toList hplain
    rw [← Bytes.ofText_ofList, String.ofList_toList] at hspells
    rw [if_neg hmark]
    exact .octets (fun hlike => hmark hlike.1) hspells

/-- A bracketed text that the reader of fids accepts makes a locator whatever the scheme and the
filesystem are. It identifies the entry of the fid if its first mark is in lower case, and else is
taken for octets. -/
theorem bracketed_fid_identifies {b a filesystem f : String} {fid : Fid} (hb : IsScheme b.toList)
    (ha : Names a.toList filesystem) (hbracket : ['['] <+: f.toList) (hfid : Fid.parse f = .ok fid) :
    ∃ t, f = "[" ++ t ++ "]" ∧ (['0', 'x'] <+: t.toList ∨ ['0', 'X'] <+: t.toList) ∧
      parse (b ++ "://" ++ a ++ "#" ++ f) =
        .ok { backend := b
              filesystem
              id := if ['0', 'x'] <+: t.toList then fid.entryId else ⟨.ofText t⟩
              path := none } := by
  obtain ⟨cs, hf⟩ := hbracket
  have hread : Fid.read? ('[' :: cs) = some fid := by
    rw [Fid.parse, ← hf] at hfid
    cases h : Fid.read? ('[' :: cs) with
    | none => simp [h] at hfid
    | some found => simpa [h] using hfid
  obtain ⟨t, rfl, ht, hmark, hcolon, hplain⟩ := Fid.read?_unbracketed hread
  obtain ⟨t, rfl⟩ : ∃ u : String, t = u.toList := ⟨.ofList t, String.toList_ofList.symm⟩
  have htext : f = "[" ++ t ++ "]" := by
    rw [← String.toList_inj, ← hf]
    simp
  rw [htext]
  exact ⟨t, rfl, hmark, parse_enclosed hb ha (identifies_of_read? ht hcolon hplain)⟩

/-- Marks of both cases, where the first is in lower case, and a number with a sign. -/
theorem bracketed_fid_identifies_of_mixed_marks :
    IsScheme "lustre".toList ∧ Names "scratch".toList "scratch" ∧
      ['['] <+: "[0x1:0X2:0x+3]".toList ∧ Fid.parse "[0x1:0X2:0x+3]" = .ok ⟨1, 2, 3⟩ ∧
      parse "lustre://scratch#[0x1:0X2:0x+3]" =
        .ok ⟨"lustre", "scratch", Fid.entryId ⟨1, 2, 3⟩, none⟩ := by
  have hb : IsScheme "lustre".toList := isScheme_iff.mp (by decide)
  have ha : Names "scratch".toList "scratch" :=
    ⟨by decide, spells_toList (t := "scratch".toList) (by decide), by decide⟩
  have hbracket : ['['] <+: "[0x1:0X2:0x+3]".toList := by decide
  have hfid : Fid.parse "[0x1:0X2:0x+3]" = .ok ⟨1, 2, 3⟩ := by decide +kernel
  obtain ⟨t, ht, -, hparse⟩ := bracketed_fid_identifies hb ha hbracket hfid
  obtain rfl : t = "0x1:0X2:0x+3" := by
    have hclosed : t.toList ++ [']'] = "0x1:0X2:0x+3".toList ++ [']'] := by
      simpa using (congrArg String.toList ht).symm
    exact String.toList_inj.mp (List.append_cancel_right hclosed)
  exact ⟨hb, ha, hbracket, hfid, hparse⟩

/-- A mark in upper case makes a text that the reader of fids accepts identify another entry. -/
theorem bracketed_fid_misread :
    ¬∀ (b a filesystem f : String) (fid : Fid), IsScheme b.toList → Names a.toList filesystem →
      ['['] <+: f.toList → Fid.parse f = .ok fid →
      ∃ l, parse (b ++ "://" ++ a ++ "#" ++ f) = .ok l ∧ l.id = fid.entryId := by
  intro hagree
  have ha : Names "s".toList "s" := ⟨by decide, spells_toList (t := "s".toList) (by decide), by decide⟩
  obtain ⟨l, hl, hid⟩ := hagree "l" "s" "s" "[0X1:0x2:0x3]" ⟨1, 2, 3⟩ (isScheme_iff.mp (by decide)) ha
    (by decide) (by decide +kernel)
  have hparse : parse ("l" ++ "://" ++ "s" ++ "#" ++ "[0X1:0x2:0x3]") =
      .ok ⟨"l", "s", ⟨.ofText "0X1:0x2:0x3"⟩, none⟩ := by decide +kernel
  rw [hparse] at hl
  cases hl
  exact absurd (congrArg EntryId.bytes hid) (by decide +kernel)

end Locator

end FileCatalog

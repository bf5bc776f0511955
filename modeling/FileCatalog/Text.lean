/-!
# Cutting text

Texts are taken apart as lists of characters. A cut at a separator is always made at its first
occurrence, and the separator itself belongs to neither part.
-/

namespace FileCatalog.Text

/-- What stands before and after the first `sep`, or nothing when there is none. -/
def cut? (sep : Char) : List Char → Option (List Char × List Char)
  | [] => none
  | c :: cs =>
    if c = sep then some ([], cs) else (cut? sep cs).map fun (before, after) => (c :: before, after)

/-- All parts between the occurrences of `sep`; there is one more of them than of `sep`. -/
def fields (sep : Char) : List Char → List (List Char)
  | [] => [[]]
  | c :: cs =>
    if c = sep then [] :: fields sep cs
    else
      match fields sep cs with
      | [] => [[c]]
      | f :: fs => (c :: f) :: fs

theorem cut?_eq_some_iff {sep : Char} {cs before after : List Char} :
    cut? sep cs = some (before, after) ↔ cs = before ++ sep :: after ∧ sep ∉ before := by
  induction cs generalizing before with
  | nil => simp [cut?]
  | cons c cs ih =>
    by_cases h : c = sep
    · subst h
      cases before <;> simp [cut?, eq_comm]
      grind
    · cases before with
      | nil => simp [cut?, h]
      | cons b before =>
        simp only [cut?, if_neg h, Option.map_eq_some_iff, Prod.mk.injEq, Prod.exists]
        grind

theorem cut?_eq_none_iff {sep : Char} {cs : List Char} : cut? sep cs = none ↔ sep ∉ cs := by
  induction cs with
  | nil => simp [cut?]
  | cons c cs ih =>
    by_cases h : c = sep
    · simp [cut?, h]
    · simp [cut?, h, ih, Ne.symm h]

theorem fields_ne_nil (sep : Char) (cs : List Char) : fields sep cs ≠ [] := by
  cases cs with
  | nil => simp [fields]
  | cons c cs => grind [fields]

theorem fields_cons_of_ne {sep c : Char} (h : c ≠ sep) (cs : List Char) :
    ∃ f fs, fields sep cs = f :: fs ∧ fields sep (c :: cs) = (c :: f) :: fs := by
  obtain ⟨f, fs, hfields⟩ := List.exists_cons_of_ne_nil (fields_ne_nil sep cs)
  exact ⟨f, fs, hfields, by rw [fields, if_neg h, hfields]⟩

theorem fields_eq_singleton_iff {sep : Char} {cs f : List Char} :
    fields sep cs = [f] ↔ cs = f ∧ sep ∉ f := by
  induction cs generalizing f with
  | nil =>
    constructor
    · rintro ⟨⟩
      exact ⟨rfl, List.not_mem_nil⟩
    · rintro ⟨rfl, -⟩
      rfl
  | cons c cs ih =>
    by_cases h : c = sep
    · simp only [fields, if_pos h, List.cons.injEq, fields_ne_nil, and_false, false_iff]
      rintro ⟨rfl, hf⟩
      exact hf (h ▸ List.mem_cons_self)
    · obtain ⟨g, gs, hfields, hcons⟩ := fields_cons_of_ne h cs
      rw [hfields] at ih
      rw [hcons]
      constructor
      · rintro ⟨⟩
        obtain ⟨rfl, hg⟩ := ih.mp rfl
        exact ⟨rfl, List.not_mem_cons_of_ne_of_not_mem (Ne.symm h) hg⟩
      · rintro ⟨rfl, hf⟩
        cases ih.mpr ⟨rfl, fun hmem => hf (List.mem_cons_of_mem c hmem)⟩
        rfl

/-- The first field stops at the first separator, and the others are the fields of the rest. -/
theorem fields_eq_cons_cons_iff {sep : Char} {cs f g : List Char} {gs : List (List Char)} :
    fields sep cs = f :: g :: gs ↔
      ∃ rest, cs = f ++ sep :: rest ∧ sep ∉ f ∧ fields sep rest = g :: gs := by
  induction cs generalizing f with
  | nil => simp [fields]
  | cons c cs ih =>
    by_cases h : c = sep
    · simp only [fields, if_pos h, List.cons.injEq]
      constructor
      · rintro ⟨rfl, hfields⟩
        exact ⟨cs, by rw [h, List.nil_append], List.not_mem_nil, hfields⟩
      · rintro ⟨rest, hcs, hf, hfields⟩
        cases f with
        | nil => exact ⟨rfl, by rwa [(List.cons.inj hcs).2]⟩
        | cons d f => exact absurd (h ▸ (List.cons.inj hcs).1 ▸ List.mem_cons_self) hf
    · obtain ⟨d, ds, hfields, hcons⟩ := fields_cons_of_ne h cs
      rw [hfields] at ih
      rw [hcons]
      constructor
      · rintro ⟨⟩
        obtain ⟨rest, rfl, hd, hrest⟩ := ih.mp rfl
        exact ⟨rest, rfl, List.not_mem_cons_of_ne_of_not_mem (Ne.symm h) hd, hrest⟩
      · rintro ⟨rest, hcs, hf, hrest⟩
        cases f with
        | nil => exact absurd (List.cons.inj hcs).1 h
        | cons e f =>
          obtain ⟨rfl, rfl⟩ := List.cons.inj hcs
          cases ih.mpr ⟨rest, rfl, fun hmem => hf (List.mem_cons_of_mem c hmem), hrest⟩
          rfl

theorem fields_eq_triple_iff {sep : Char} {cs f g h : List Char} :
    fields sep cs = [f, g, h] ↔
      cs = f ++ sep :: (g ++ sep :: h) ∧ sep ∉ f ∧ sep ∉ g ∧ sep ∉ h := by
  simp only [fields_eq_cons_cons_iff, fields_eq_singleton_iff]
  constructor
  · rintro ⟨_, rfl, hf, _, rfl, hg, rfl, hh⟩
    exact ⟨rfl, hf, hg, hh⟩
  · rintro ⟨rfl, hf, hg, hh⟩
    exact ⟨_, rfl, hf, _, rfl, hg, rfl, hh⟩

end FileCatalog.Text

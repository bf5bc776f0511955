import FileCatalog.Proofs.Addressing

/-!
# Paths behind the authority and paths in the fragment

A path that starts with a slash can be written behind the authority or in the fragment. The fragment
takes it as it is, whereas behind the authority it ends at a question mark or a number sign, and what
follows is read as something else. The main statement is that the two locators are the same exactly
if neither sign is in the path and the path has a step.
-/

namespace FileCatalog.Locator

section Forms

variable {b a p filesystem : String}

theorem exists_cut {cs : List Char} (h : ['/'] <+: cs) :
    ∃ u q f, cs = u ++ behind '?' q ++ behind '#' f ∧ IsPath u ∧ '#' ∉ behind '?' q := by
  obtain ⟨t, rfl⟩ := h
  rcases hfragment : Parts.cutOff '#' t with ⟨v, f⟩
  rcases hquery : Parts.cutOff '?' v with ⟨u, q⟩
  obtain ⟨rfl, hv⟩ := eq_of_cutOff hfragment
  obtain ⟨rfl, hu⟩ := eq_of_cutOff hquery
  rw [List.mem_append, not_or] at hv
  refine ⟨'/' :: u, q, f, by simp, ⟨.inr ⟨u, rfl⟩, ?_, ?_⟩, hv.2⟩
  · simpa using hu
  · simpa using hv.1

theorem addresses_of_parse {u : List Char} {q f : Option (List Char)} {s : String} {l : Locator}
    (hs : s.toList = b.toList ++ ':' :: '/' :: '/' ::
      (a.toList ++ u ++ behind '?' q ++ behind '#' f))
    (hb : IsScheme b.toList) (ha : Names a.toList filesystem) (hu : IsPath u)
    (hq : '#' ∉ behind '?' q) (h : parse s = .ok l) : Addresses u (behind '#' f) l.id l.path := by
  obtain ⟨parts, hparts, hl⟩ := parse_eq_ok_iff.mp h
  rw [hs, ofChars_append hb, ofRest_append ha.plain hu hq] at hparts
  cases hparts
  obtain ⟨_, _, _, id, path, _, _, _, htarget, rfl⟩ := ofParts_eq_ok_iff.mp hl
  exact target_eq_ok_iff.mp htarget

/-- What stands in a fragment is shorter than the text that the fragment is cut from. -/
theorem Addresses.eq_of_path {u : List Char} {q f : Option (List Char)} {id : EntryId}
    (h : Addresses u (behind '#' f) id (some p)) (hp : p.toList = u ++ behind '?' q ++ behind '#' f) :
    ownPath (.ofList u) = some p := by
  generalize hfragment : behind '#' f = fragment at h hp
  generalize hpath : some p = path at h
  cases h with
  | absent => rfl
  | empty => rfl
  | id _ => rfl
  | path _ _ =>
    cases hpath
    have hlength := congrArg List.length hp
    simp only [String.toList_ofList, List.length_append, List.length_cons] at hlength
    omega

end Forms

/-- A path in the fragment is always taken as it is. Behind the authority it makes the same locator
exactly if it has a step and no question mark and no number sign. -/
theorem path_forms_interchangeable {b a p filesystem : String} (hb : IsScheme b.toList)
    (ha : Names a.toList filesystem) (hp : ['/'] <+: p.toList) :
    parse (b ++ "://" ++ a ++ "#" ++ p) = .ok ⟨b, filesystem, .rootParent, some p⟩ ∧
      (parse (b ++ "://" ++ a ++ p) = parse (b ++ "://" ++ a ++ "#" ++ p) ↔
        p ≠ "/" ∧ '?' ∉ p.toList ∧ '#' ∉ p.toList) := by
  have hrooted : ∃ t, p.toList = '/' :: t := hp.imp fun _ => Eq.symm
  have hfragment := parse_fragment_path hb ha hrooted.choose_spec (by decide)
  refine ⟨hfragment, ?_⟩
  rw [hfragment]
  constructor
  · intro h
    obtain ⟨u, q, f, hcut, hu, hq⟩ := exists_cut hp
    have htext : (b ++ "://" ++ a ++ p).toList = b.toList ++ ':' :: '/' :: '/' ::
        (a.toList ++ u ++ behind '?' q ++ behind '#' f) := by
      simp [hcut]
    have hown := (addresses_of_parse htext hb ha hu hq h).eq_of_path hcut
    obtain ⟨rfl, -, hne⟩ := ownPath_eq_some_iff.mp hown
    rw [String.toList_ofList]
    exact ⟨hne, hu.plain⟩
  · rintro ⟨hne, hplain⟩
    have hpath : IsPath p.toList := ⟨.inr hrooted, hplain⟩
    have hempty : p ≠ "" := by
      rintro rfl
      exact absurd hp (by decide)
    rw [parse_own_path hb ha hpath, ownPath_eq_some_iff.mpr ⟨rfl, hempty, hne⟩]

/-- A path that can be written in both ways, and one that loses what looks like a query. -/
theorem path_forms_interchangeable_of_two :
    IsScheme "posix".toList ∧ Names "a%2fb".toList "a/b" ∧ ['/'] <+: "/c%3f/d".toList ∧
      parse "posix://a%2fb#/c%3f/d" = .ok ⟨"posix", "a/b", .rootParent, some "/c%3f/d"⟩ ∧
      parse "posix://a%2fb/c%3f/d" = parse "posix://a%2fb#/c%3f/d" ∧
      ['/'] <+: "/c?/d".toList ∧
      parse "posix://a%2fb#/c?/d" = .ok ⟨"posix", "a/b", .rootParent, some "/c?/d"⟩ ∧
      parse "posix://a%2fb/c?/d" ≠ parse "posix://a%2fb#/c?/d" := by
  have hb : IsScheme "posix".toList := isScheme_iff.mp (by decide)
  have ha : Names "a%2fb".toList "a/b" :=
    names_of_encodes (.literal rfl (.escape (.inl rfl) (.inl rfl) (.literal rfl .nil))) (by decide)
  have hescaped : ['/'] <+: "/c%3f/d".toList := by decide
  have hplain : ['/'] <+: "/c?/d".toList := by decide
  have h := path_forms_interchangeable hb ha hescaped
  have h' := path_forms_interchangeable hb ha hplain
  exact ⟨hb, ha, hescaped, h.1, h.2.mpr (by decide), hplain, h'.1, fun heq =>
    absurd (h'.2.mp heq) (by decide)⟩

end FileCatalog.Locator

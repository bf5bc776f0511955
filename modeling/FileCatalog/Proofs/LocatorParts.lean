import FileCatalog.Proofs.LocatorGrammar

/-!
# Cutting a locator and putting it together again

`Parts.parse` and `Parts.render` are inverse to each other between the texts that have a scheme and
the parts that are well formed. Parts are well formed if none of them contains what would end it
early, and if a path that no authority stands before does not look like one. Rendering is one
concatenation after the other, and each cut of the parser is shown to undo one of them, so that an
absent part stays apart from an empty one.
-/

namespace FileCatalog.Locator.Parts

structure WellFormed (p : Parts) : Prop where
  scheme : IsScheme p.scheme.toList
  authority : ∀ a, p.authority = some a → '/' ∉ a.toList ∧ '?' ∉ a.toList ∧ '#' ∉ a.toList
  path : '?' ∉ p.path.toList ∧ '#' ∉ p.path.toList
  rooted : p.authority ≠ none → p.path = "" ∨ ∃ t, p.path.toList = '/' :: t
  unrooted : p.authority = none → ¬['/', '/'] <+: p.path.toList
  query : ∀ q, p.query = some q → '#' ∉ q.toList

/-- The authority behind its two slashes, if there is one, and the path behind it. -/
def hierarchy : Option (List Char) → List Char → List Char
  | none, p => p
  | some a, p => '/' :: '/' :: (a ++ p)

/-- What tells where the authority ends, or that there is none. -/
def Hierarchical : Option (List Char) → List Char → Prop
  | none, p => ¬['/', '/'] <+: p
  | some a, p => '/' ∉ a ∧ (p = [] ∨ ∃ t, p = '/' :: t)

def spelled (b : List Char) (a : Option (List Char)) (p : List Char)
    (q f : Option (List Char)) : Parts where
  scheme := .ofList b
  authority := a.map .ofList
  path := .ofList p
  query := q.map .ofList
  fragment := f.map .ofList

section Pieces

variable {sep : Char} {b cs p u rest : List Char} {a q f v : Option (List Char)}

theorem cutOff_eq_iff : cutOff sep cs = (u, v) ↔ cs = u ++ behind sep v ∧ sep ∉ u := by
  constructor
  · exact eq_of_cutOff
  · rintro ⟨rfl, h⟩
    exact cutOff_behind h

theorem cutAuthority_of_no_slashes (h : ¬['/', '/'] <+: cs) : cutAuthority cs = (none, cs) := by
  unfold cutAuthority
  split
  · simp at h
  · rfl

theorem cutAuthority_eq_iff : cutAuthority cs = (a, p) ↔ cs = hierarchy a p ∧ Hierarchical a p := by
  cases a with
  | some a =>
    constructor
    · exact eq_of_cutAuthority
    · rintro ⟨rfl, ha, hp⟩
      exact cutAuthority_append ha hp
  | none =>
    by_cases hcs : ['/', '/'] <+: cs
    · obtain ⟨t, rfl⟩ := hcs
      constructor
      · intro h
        simp [cutAuthority] at h
      · rintro ⟨rfl, hp⟩
        simp [Hierarchical] at hp
    · rw [cutAuthority_of_no_slashes hcs]
      constructor
      · rintro ⟨⟩
        exact ⟨rfl, hcs⟩
      · rintro ⟨rfl, -⟩
        rfl

theorem ofRest_eq_spelled (hfragment : cutOff '#' rest = (u, f))
    (hquery : cutOff '?' u = (cs, q)) (hauthority : cutAuthority cs = (a, p)) :
    ofRest b rest = spelled b a p q f := by
  simp only [ofRest, hfragment, hquery, hauthority]
  rfl

theorem exists_spelled (parts : Parts) : ∃ b a p q f, parts = spelled b a p q f := by
  obtain ⟨scheme, authority, path, query, fragment⟩ := parts
  refine ⟨scheme.toList, authority.map String.toList, path.toList, query.map String.toList,
    fragment.map String.toList, ?_⟩
  simp [spelled, Function.comp_def]

/-- No delimiter of the first two cuts stands before the place where it is looked for. -/
theorem wellFormed_spelled_iff :
    (spelled b a p q f).WellFormed ↔ IsScheme b ∧ Hierarchical a p ∧ '?' ∉ hierarchy a p ∧
      '#' ∉ hierarchy a p ++ behind '?' q := by
  have hempty : String.ofList p = "" ↔ p = [] := by simp
  constructor
  · intro ⟨hb, ha, hp, hrooted, hunrooted, hq⟩
    cases a <;> cases q <;> simp_all [spelled, Hierarchical, hierarchy, behind]
  · rintro ⟨hb, hh, hquery, hfragment⟩
    cases a <;> cases q <;> constructor <;>
      simp_all [spelled, Hierarchical, hierarchy, behind]

theorem toList_render_spelled :
    (spelled b a p q f).render.toList =
      b ++ ':' :: (hierarchy a p ++ behind '?' q ++ behind '#' f) := by
  cases a <;> cases q <;> cases f <;>
    simp [render, spelled, announced, hierarchy, behind]

end Pieces

theorem parse_eq_ok_iff_ofChars {s : String} {parts : Parts} :
    parse s = .ok parts ↔ ofChars s.toList = .ok parts := by
  unfold parse
  cases ofChars s.toList <;> simp

/-- A text is cut into some parts exactly if the parts are well formed and their rendering is
the text. So what is cut is rendered to what it was cut from, and what is well formed is rendered
and cut without loss. -/
theorem parse_eq_ok_iff_render (s : String) (parts : Parts) :
    parse s = .ok parts ↔ parts.WellFormed ∧ parts.render = s := by
  rw [parse_eq_ok_iff_ofChars, ← String.toList_inj]
  constructor
  · intro h
    obtain ⟨b, rest, hb, hs, rfl⟩ := eq_of_ofChars h
    rcases hfragment : cutOff '#' rest with ⟨u, f⟩
    rcases hquery : cutOff '?' u with ⟨cs, q⟩
    rcases hauthority : cutAuthority cs with ⟨a, p⟩
    obtain ⟨rfl, hu⟩ := cutOff_eq_iff.mp hfragment
    obtain ⟨rfl, hcs⟩ := cutOff_eq_iff.mp hquery
    obtain ⟨rfl, hh⟩ := cutAuthority_eq_iff.mp hauthority
    rw [ofRest_eq_spelled hfragment hquery hauthority]
    exact ⟨wellFormed_spelled_iff.mpr ⟨hb, hh, hcs, hu⟩, hs ▸ toList_render_spelled⟩
  · rintro ⟨hw, hs⟩
    obtain ⟨b, a, p, q, f, rfl⟩ := parts.exists_spelled
    obtain ⟨hb, hh, hcs, hu⟩ := wellFormed_spelled_iff.mp hw
    have hfragment := cutOff_eq_iff.mpr ⟨(rfl : _ = _ ++ behind '#' f), hu⟩
    have hquery := cutOff_eq_iff.mpr ⟨(rfl : _ = _ ++ behind '?' q), hcs⟩
    have hauthority := cutAuthority_eq_iff.mpr ⟨rfl, hh⟩
    rw [← hs, toList_render_spelled, ofChars_append hb,
      ofRest_eq_spelled hfragment hquery hauthority]

end FileCatalog.Locator.Parts

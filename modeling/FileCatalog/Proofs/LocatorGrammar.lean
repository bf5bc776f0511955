import FileCatalog.Locator
import FileCatalog.Proofs.Spelling
import Mathlib.Data.List.TakeWhile

/-!
# The grammar of locators

A derivation says how a locator is written: scheme, authority, path, query and fragment, each with
what it may be made of and what it stands for. The main theorem says that the parser accepts the
texts that have a derivation and answers the locator that the derivation is for. Each cut the parser
makes undoes one concatenation of the grammar, since what stands before a delimiter does not
contain it.
-/

namespace FileCatalog.Locator

open Escape (Spells)

/-- An ASCII letter and then ASCII letters, digits, plus signs, hyphens and dots. -/
def IsScheme (b : List Char) : Prop :=
  ∃ c cs, b = c :: cs ∧ c.isAlpha = true ∧
    ∀ d ∈ cs, d.isAlphanum = true ∨ d = '+' ∨ d = '-' ∨ d = '.'

structure IsPath (p : List Char) : Prop where
  slash : p = [] ∨ ∃ t, p = '/' :: t
  plain : '?' ∉ p ∧ '#' ∉ p

structure IsQuery (q : List Char) : Prop where
  mark : q = [] ∨ ∃ t, q = '?' :: t
  plain : '#' ∉ q

structure Names (a : List Char) (name : String) : Prop where
  plain : '/' ∉ a ∧ '?' ∉ a ∧ '#' ∉ a
  spells : Spells a (.ofText name)
  nonempty : name ≠ ""

/-- The text between the brackets is a fid, if it looks like one, or else spells the octets. -/
inductive Identifies : List Char → EntryId → Prop
  | fid {t fid} : ['0', 'x'] <+: t ∧ ':' ∈ t → Fid.read? t = some fid → Identifies t fid.entryId
  | octets {t octets} : ¬(['0', 'x'] <+: t ∧ ':' ∈ t) → Spells t octets → Identifies t ⟨octets⟩

/-- What the path and the fragment behind it stand for. -/
inductive Addresses (p : List Char) : List Char → EntryId → Option String → Prop
  | absent : Addresses p [] .rootParent (ownPath (.ofList p))
  | empty : Addresses p ['#'] .rootParent (ownPath (.ofList p))
  | id {t id} : Identifies t id → Addresses p ('#' :: '[' :: (t ++ [']'])) id (ownPath (.ofList p))
  | path {c t} : c ≠ '[' → p = [] ∨ p = ['/'] →
      Addresses p ('#' :: c :: t) .rootParent (some (.ofList (c :: t)))

/-- The derivations of locators. The query is the one part that leaves no trace. -/
inductive Written : List Char → Locator → Prop
  | intro {b a p q f name id path} : IsScheme b → Names a name → IsPath p → IsQuery q →
      Addresses p f id path →
      Written (b ++ ':' :: '/' :: '/' :: (a ++ p ++ q ++ f)) ⟨.ofList b, name, id, path⟩

def behind (sep : Char) : Option (List Char) → List Char
  | none => []
  | some part => sep :: part

section Cuts

variable {sep : Char} {a b cs p u rest : List Char} {q f v : Option (List Char)}

theorem cutOff_behind (h : sep ∉ u) : Parts.cutOff sep (u ++ behind sep v) = (u, v) := by
  cases v with
  | none =>
    rw [behind, List.append_nil, Parts.cutOff, Text.cut?_eq_none_iff.mpr h]
  | some part =>
    rw [behind, Parts.cutOff, Text.cut?_eq_some_iff.mpr ⟨rfl, h⟩]

theorem eq_of_cutOff (h : Parts.cutOff sep cs = (u, v)) : cs = u ++ behind sep v ∧ sep ∉ u := by
  unfold Parts.cutOff at h
  cases hcut : Text.cut? sep cs with
  | none =>
    rw [hcut] at h
    cases h
    exact ⟨(List.append_nil _).symm, Text.cut?_eq_none_iff.mp hcut⟩
  | some parts =>
    rw [hcut] at h
    cases h
    exact Text.cut?_eq_some_iff.mp hcut

theorem cutAuthority_append (ha : '/' ∉ a) (hp : p = [] ∨ ∃ t, p = '/' :: t) :
    Parts.cutAuthority ('/' :: '/' :: (a ++ p)) = (some a, p) := by
  have hall : ∀ c ∈ a, decide (c ≠ '/') = true := by
    intro c hc
    rw [decide_eq_true_eq]
    exact ne_of_mem_of_not_mem hc ha
  change (some ((a ++ p).takeWhile (· ≠ '/')), (a ++ p).dropWhile (· ≠ '/')) = (some a, p)
  rw [List.takeWhile_append_of_pos hall, List.dropWhile_append_of_pos hall]
  rcases hp with rfl | ⟨t, rfl⟩ <;> simp

theorem eq_of_cutAuthority (h : Parts.cutAuthority cs = (some a, p)) :
    cs = '/' :: '/' :: (a ++ p) ∧ '/' ∉ a ∧ (p = [] ∨ ∃ t, p = '/' :: t) := by
  unfold Parts.cutAuthority at h
  split at h
  · cases h
    refine ⟨?_, ?_, ?_⟩
    · rw [List.takeWhile_append_dropWhile]
    · intro hmem
      simpa using List.mem_takeWhile_imp hmem
    · rename_i cs
      cases hd : cs.dropWhile (· ≠ '/') with
      | nil => exact .inl rfl
      | cons c t =>
        have hc := List.head?_dropWhile_not (fun c : Char => decide (c ≠ '/')) cs
        rw [hd] at hc
        right
        simpa using hc
  · simp at h

theorem isScheme_iff : Parts.isScheme b = true ↔ IsScheme b := by
  cases b with
  | nil => simp [Parts.isScheme, IsScheme]
  | cons c cs => simp [Parts.isScheme, IsScheme, Parts.isSchemeChar, or_assoc]

theorem IsScheme.colon_notMem (h : IsScheme b) : ':' ∉ b := by
  obtain ⟨c, cs, rfl, hc, hcs⟩ := h
  intro hmem
  rcases List.mem_cons.mp hmem with rfl | hmem
  · exact absurd hc (by decide)
  · exact absurd (hcs _ hmem) (by decide)

theorem ofChars_append (h : IsScheme b) :
    Parts.ofChars (b ++ ':' :: rest) = .ok (Parts.ofRest b rest) := by
  rw [Parts.ofChars, Text.cut?_eq_some_iff.mpr ⟨rfl, h.colon_notMem⟩]
  exact if_pos (isScheme_iff.mpr h)

theorem eq_of_ofChars {parts : Parts} (h : Parts.ofChars cs = .ok parts) :
    ∃ b rest, IsScheme b ∧ cs = b ++ ':' :: rest ∧ parts = Parts.ofRest b rest := by
  unfold Parts.ofChars at h
  cases hcut : Text.cut? ':' cs with
  | none =>
    rw [hcut] at h
    contradiction
  | some cut =>
    obtain ⟨b, rest⟩ := cut
    rw [hcut] at h
    by_cases hb : Parts.isScheme b = true
    · simp only [if_pos hb, Except.ok.injEq] at h
      exact ⟨b, rest, isScheme_iff.mp hb, (Text.cut?_eq_some_iff.mp hcut).1, h.symm⟩
    · simp only [if_neg hb] at h
      contradiction

def partsOf (b a p : List Char) (q f : Option (List Char)) : Parts where
  scheme := .ofList b
  authority := some (.ofList a)
  path := .ofList p
  query := q.map .ofList
  fragment := f.map .ofList

theorem ofRest_append (ha : '/' ∉ a ∧ '?' ∉ a ∧ '#' ∉ a) (hp : IsPath p)
    (hq : '#' ∉ behind '?' q) :
    Parts.ofRest b ('/' :: '/' :: (a ++ p ++ behind '?' q ++ behind '#' f)) =
      partsOf b a p q f := by
  have hquery : '?' ∉ '/' :: '/' :: (a ++ p) := by
    simp [ha.2.1, hp.plain.1]
  have hfragment : '#' ∉ '/' :: '/' :: (a ++ p) ++ behind '?' q := by
    simp [ha.2.2, hp.plain.2, hq]
  have hrest : '/' :: '/' :: (a ++ p ++ behind '?' q ++ behind '#' f) =
      '/' :: '/' :: (a ++ p) ++ behind '?' q ++ behind '#' f := by simp
  rw [hrest]
  simp only [Parts.ofRest, cutOff_behind hfragment, cutOff_behind hquery,
    cutAuthority_append ha.1 hp.slash]
  rfl

theorem eq_of_ofRest {authority : String} (h : (Parts.ofRest b rest).authority = some authority) :
    ∃ a p q f, rest = '/' :: '/' :: (a ++ p ++ behind '?' q ++ behind '#' f) ∧
      ('/' ∉ a ∧ '?' ∉ a ∧ '#' ∉ a) ∧ IsPath p ∧ '#' ∉ behind '?' q := by
  rcases hfragment : Parts.cutOff '#' rest with ⟨rest₁, f⟩
  rcases hquery : Parts.cutOff '?' rest₁ with ⟨rest₂, q⟩
  rcases hauthority : Parts.cutAuthority rest₂ with ⟨_ | a, p⟩
  · simp [Parts.ofRest, hfragment, hquery, hauthority] at h
  · obtain ⟨rfl, hf⟩ := eq_of_cutOff hfragment
    obtain ⟨rfl, hq⟩ := eq_of_cutOff hquery
    obtain ⟨rfl, ha, hp⟩ := eq_of_cutAuthority hauthority
    simp only [List.mem_append, List.mem_cons, not_or] at hf hq
    refine ⟨a, p, q, f, by simp, ⟨ha, ?_, ?_⟩, ⟨hp, ?_, ?_⟩, ?_⟩ <;> tauto

end Cuts

section Meanings

variable {cs p t : List Char} {f : Option (List Char)} {id : EntryId} {path : Option String}

theorem nameOfOctets_eq_ok_iff {octets : Bytes} {name : String} :
    nameOfOctets octets = .ok name ↔ octets = .ofText name ∧ name ≠ "" := by
  rw [← Bytes.text?_eq_some_iff]
  unfold nameOfOctets
  cases octets.text? with
  | none => simp
  | some text =>
    by_cases htext : text = ""
    · subst htext
      simp
    · simp
      grind

theorem isFidLike_iff :
    (['0', 'x'].isPrefixOf t && t.contains ':') = true ↔ ['0', 'x'] <+: t ∧ ':' ∈ t := by
  simp

theorem idOfInner_eq_ok_iff : idOfInner t = .ok id ↔ Identifies t id := by
  unfold idOfInner
  by_cases hlike : ['0', 'x'] <+: t ∧ ':' ∈ t
  · rw [if_pos (isFidLike_iff.mpr hlike)]
    constructor
    · intro h
      cases hfid : Fid.read? t with
      | none => simp [hfid] at h
      | some fid =>
        simp only [hfid, Except.ok.injEq] at h
        rw [← h]
        exact .fid hlike hfid
    · intro h
      cases h with
      | fid _ hfid => simp [hfid]
      | octets hnot _ => exact absurd hlike hnot
  · rw [if_neg (mt isFidLike_iff.mp hlike)]
    constructor
    · intro h
      cases hoctets : Escape.decodeBytes (.ofText (.ofList t)) with
      | error flaw => simp [hoctets] at h
      | ok octets =>
        simp only [hoctets, Except.ok.injEq] at h
        rw [← h]
        exact .octets hlike (Escape.decodeBytes_ofList_eq_ok_iff.mp hoctets)
    · intro h
      cases h with
      | fid hlike' _ => exact absurd hlike' hlike
      | octets _ hs => simp [Escape.decodeBytes_ofList_eq_ok_iff.mpr hs]

theorem idOfBracketed_eq_ok_iff :
    idOfBracketed cs = .ok id ↔ ∃ t, cs = t ++ [']'] ∧ Identifies t id := by
  unfold idOfBracketed
  constructor
  · intro h
    by_cases hlast : cs.getLast? = some ']'
    · rw [if_pos hlast] at h
      obtain ⟨t, rfl⟩ := List.getLast?_eq_some_iff.mp hlast
      rw [List.dropLast_concat] at h
      exact ⟨t, rfl, idOfInner_eq_ok_iff.mp h⟩
    · rw [if_neg hlast] at h
      contradiction
  · rintro ⟨t, rfl, ht⟩
    rw [if_pos List.getLast?_concat, List.dropLast_concat]
    exact idOfInner_eq_ok_iff.mpr ht

theorem ownPath_eq_none_iff : ownPath (.ofList p) = none ↔ p = [] ∨ p = ['/'] := by
  have hslash : String.ofList p = "/" ↔ p = ['/'] := by
    rw [← String.toList_inj, String.toList_ofList]
    rfl
  simp [ownPath, hslash, or_iff_not_imp_left]

theorem ownPath_eq_some_iff {path p : String} :
    ownPath path = some p ↔ path = p ∧ p ≠ "" ∧ p ≠ "/" := by
  rw [ownPath, Option.ite_none_left_eq_some, not_or, Option.some.injEq]
  constructor
  · rintro ⟨hstep, rfl⟩
    exact ⟨rfl, hstep⟩
  · rintro ⟨rfl, hstep⟩
    exact ⟨hstep, rfl⟩

theorem target_bracketed_iff :
    target (ownPath (.ofList p)) (some (.ofList ('[' :: cs))) = .ok (id, path) ↔
      Addresses p ('#' :: '[' :: cs) id path := by
  have htarget : target (ownPath (.ofList p)) (some (.ofList ('[' :: cs))) =
      (idOfBracketed cs).map fun id => (id, ownPath (.ofList p)) := by
    simp [target, idMark]
  rw [htarget]
  constructor
  · intro h
    cases hid : idOfBracketed cs with
    | error flaw =>
      rw [hid] at h
      contradiction
    | ok id =>
      rw [hid] at h
      cases h
      obtain ⟨t, rfl, ht⟩ := idOfBracketed_eq_ok_iff.mp hid
      exact .id ht
  · intro h
    cases h with
    | id ht =>
      rw [idOfBracketed_eq_ok_iff.mpr ⟨_, rfl, ht⟩]
      rfl
    | path hne _ => exact absurd rfl hne

theorem target_plain_iff {c : Char} (hc : c ≠ '[') :
    target (ownPath (.ofList p)) (some (.ofList (c :: cs))) = .ok (id, path) ↔
      Addresses p ('#' :: c :: cs) id path := by
  have htarget : target (ownPath (.ofList p)) (some (.ofList (c :: cs))) =
      if (ownPath (.ofList p)).isSome then .error .twoPaths
      else .ok (.rootParent, some (.ofList (c :: cs))) := by
    simp [target, idMark, hc]
  have hnone : ¬(ownPath (.ofList p)).isSome = true ↔ p = [] ∨ p = ['/'] := by
    rw [Option.not_isSome_iff_eq_none, ownPath_eq_none_iff]
  rw [htarget]
  constructor
  · intro h
    by_cases hown : (ownPath (.ofList p)).isSome = true
    · rw [if_pos hown] at h
      contradiction
    · rw [if_neg hown] at h
      cases h
      exact .path hc (hnone.mp hown)
  · intro h
    cases h with
    | id _ => exact absurd rfl hc
    | path _ hp => rw [if_neg (hnone.mpr hp)]

theorem target_eq_ok_iff :
    target (ownPath (.ofList p)) (f.map .ofList) = .ok (id, path) ↔
      Addresses p (behind '#' f) id path := by
  match f with
  | none =>
    constructor
    · intro h
      cases h
      exact .absent
    · intro h
      cases h
      rfl
  | some [] =>
    constructor
    · intro h
      cases h
      exact .empty
    · intro h
      cases h
      rfl
  | some (c :: cs) =>
    by_cases hc : c = '['
    · subst hc
      exact target_bracketed_iff
    · exact target_plain_iff hc

theorem ofParts_eq_ok_iff {parts : Parts} {l : Locator} :
    ofParts parts = .ok l ↔ ∃ authority octets name id path, parts.authority = some authority ∧
      Escape.decodeBytes (.ofText authority) = .ok octets ∧ nameOfOctets octets = .ok name ∧
      target (ownPath parts.path) parts.fragment = .ok (id, path) ∧
      l = ⟨parts.scheme, name, id, path⟩ := by
  unfold ofParts
  cases ha : parts.authority with
  | none => simp
  | some authority =>
    cases ho : Escape.decodeBytes (.ofText authority) with
    | error flaw => simp [Escape.decode, ho, bind, Except.bind]
    | ok octets =>
      cases hn : nameOfOctets octets with
      | error flaw => simp [Escape.decode, ho, hn, bind, Except.bind]
      | ok name =>
        cases ht : target (ownPath parts.path) parts.fragment with
        | error flaw => simp [Escape.decode, ho, hn, bind, Except.bind]
        | ok pair =>
          obtain ⟨id, path⟩ := pair
          simp [Escape.decode, ho, hn, bind, Except.bind, pure, Except.pure,
            eq_comm]

end Meanings

theorem IsQuery.exists_behind {q : List Char} (h : IsQuery q) : ∃ o, q = behind '?' o := by
  rcases h.mark with rfl | ⟨t, rfl⟩
  · exact ⟨none, rfl⟩
  · exact ⟨some t, rfl⟩

theorem isQuery_behind {o : Option (List Char)} (h : '#' ∉ behind '?' o) :
    IsQuery (behind '?' o) := by
  refine ⟨?_, h⟩
  cases o with
  | none => exact .inl rfl
  | some t => exact .inr ⟨t, rfl⟩

theorem Addresses.exists_behind {p f : List Char} {id : EntryId} {path : Option String}
    (h : Addresses p f id path) : ∃ o, f = behind '#' o := by
  cases h with
  | absent => exact ⟨none, rfl⟩
  | empty => exact ⟨some [], rfl⟩
  | id _ => exact ⟨some _, rfl⟩
  | path _ _ => exact ⟨some _, rfl⟩

theorem parse_eq_ok_iff {s : String} {l : Locator} :
    parse s = .ok l ↔ ∃ parts, Parts.ofChars s.toList = .ok parts ∧ ofParts parts = .ok l := by
  unfold parse Parts.parse
  cases Parts.ofChars s.toList <;> simp [bind, Except.bind]

/-- A text is accepted as a locator exactly if the grammar derives it, and then it is read as the
locator that the derivation is for. As the parser has one answer, a text is not derived for
two locators. -/
theorem parse_iff_written (s : String) (l : Locator) : parse s = .ok l ↔ Written s.toList l := by
  rw [parse_eq_ok_iff]
  constructor
  · rintro ⟨parts, hchars, hparts⟩
    obtain ⟨b, rest, hb, hs, rfl⟩ := eq_of_ofChars hchars
    obtain ⟨_, octets, name, id, path, hauthority, ho, hn, ht, rfl⟩ := ofParts_eq_ok_iff.mp hparts
    obtain ⟨a, p, q, f, rfl, ha, hp, hq⟩ := eq_of_ofRest hauthority
    rw [ofRest_append ha hp hq] at hauthority ht ⊢
    cases hauthority
    obtain ⟨rfl, hne⟩ := nameOfOctets_eq_ok_iff.mp hn
    have hspells := Escape.decodeBytes_ofList_eq_ok_iff.mp ho
    rw [hs]
    exact .intro hb ⟨ha, hspells, hne⟩ hp (isQuery_behind hq) (target_eq_ok_iff.mp ht)
  · intro h
    generalize hs : s.toList = cs at h ⊢
    cases h with
    | @intro b a p _ _ name id path hb hname hp hquery haddresses =>
      obtain ⟨q, rfl⟩ := hquery.exists_behind
      obtain ⟨f, rfl⟩ := haddresses.exists_behind
      refine ⟨partsOf b a p q f, ?_, ofParts_eq_ok_iff.mpr ?_⟩
      · rw [ofChars_append hb, ofRest_append hname.plain hp hquery.plain]
      · exact ⟨_, _, name, id, path, rfl, Escape.decodeBytes_ofList_eq_ok_iff.mpr hname.spells,
          nameOfOctets_eq_ok_iff.mpr ⟨rfl, hname.nonempty⟩, target_eq_ok_iff.mpr haddresses, rfl⟩

end FileCatalog.Locator

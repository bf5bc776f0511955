import FileCatalog.Proofs.LocatorParts

/-!
# How rejected locators are reported

A locator is rejected for a flaw in one of its parts, and the fault names a text in which to look for
it. For all flaws but one this is the whole locator, however many cuts the flawed part has gone
through. The exception is a broken escape in the authority, which is reported with the authority
alone. The main statement tells the two cases apart by the grammar of locators.
-/

namespace FileCatalog.Locator

open Escape (Spells)

/-- The text is cut like a locator, but the escapes of its authority spell no octets. -/
def BreaksName (s : String) (a : List Char) : Prop :=
  ∃ b p q f, s.toList = b ++ ':' :: '/' :: '/' :: (a ++ p ++ behind '?' q ++ behind '#' f) ∧
    IsScheme b ∧ ('/' ∉ a ∧ '?' ∉ a ∧ '#' ∉ a) ∧ IsPath p ∧ '#' ∉ behind '?' q ∧
    ∀ octets, ¬Spells a octets

section Reports

variable {s : String} {a cs : List Char} {parts : Parts} {f : Fault}

theorem render_of_ofChars (h : Parts.ofChars cs = .ok parts) : parts.render.toList = cs := by
  obtain ⟨b, rest, -, hs, rfl⟩ := eq_of_ofChars h
  rcases hfragment : Parts.cutOff '#' rest with ⟨u, f⟩
  rcases hquery : Parts.cutOff '?' u with ⟨v, q⟩
  rcases hauthority : Parts.cutAuthority v with ⟨a, p⟩
  obtain ⟨rfl, -⟩ := Parts.cutOff_eq_iff.mp hfragment
  obtain ⟨rfl, -⟩ := Parts.cutOff_eq_iff.mp hquery
  obtain ⟨rfl, -⟩ := Parts.cutAuthority_eq_iff.mp hauthority
  rw [Parts.ofRest_eq_spelled hfragment hquery hauthority, Parts.toList_render_spelled, hs]

theorem ofParts_eq_error {authority : String} (ha : parts.authority = some authority)
    (h : ofParts parts = .error f) :
    (∃ flaw, Escape.decodeBytes (.ofText authority) = .error flaw ∧
      f = .invalidLocator authority flaw.reason) ∨
    (∃ octets, Escape.decodeBytes (.ofText authority) = .ok octets) ∧
      ∃ flaw : Flaw, f = .invalidLocator parts.render flaw.reason := by
  unfold ofParts at h
  rw [ha] at h
  cases ho : Escape.decodeBytes (.ofText authority) with
  | error flaw =>
    simp only [Escape.decode, ho, mapError_error, bind, Except.bind, Except.error.injEq] at h
    exact .inl ⟨flaw, rfl, h.symm⟩
  | ok octets =>
    refine .inr ⟨⟨octets, rfl⟩, ?_⟩
    cases hn : nameOfOctets octets with
    | error flaw =>
      simp only [Escape.decode, ho, hn, mapError_error, mapError_ok, bind, Except.bind,
        Except.error.injEq] at h
      exact ⟨flaw, h.symm⟩
    | ok name =>
      cases ht : target (ownPath parts.path) parts.fragment with
      | error flaw =>
        simp only [Escape.decode, ho, hn, ht, mapError_error, mapError_ok, bind, Except.bind,
          Except.error.injEq] at h
        exact ⟨flaw, h.symm⟩
      | ok found => simp [Escape.decode, ho, hn, ht, bind, Except.bind, pure, Except.pure] at h

theorem BreaksName.ofChars (h : BreaksName s a) :
    ∃ parts, Parts.ofChars s.toList = .ok parts ∧ parts.authority = some (.ofList a) ∧
      ∀ octets, Escape.decodeBytes (.ofText (.ofList a)) ≠ .ok octets := by
  obtain ⟨b, p, q, f, hs, hb, ha, hp, hq, hspells⟩ := h
  refine ⟨partsOf b a p q f, ?_, rfl, ?_⟩
  · rw [hs, ofChars_append hb, ofRest_append ha hp hq]
  · intro octets ho
    exact hspells octets (Escape.decodeBytes_ofList_eq_ok_iff.mp ho)

theorem BreaksName.broken (h : BreaksName s a) (hparts : Parts.ofChars s.toList = .ok parts) :
    parts.authority = some (.ofList a) ∧
      ∀ octets, Escape.decodeBytes (.ofText (.ofList a)) ≠ .ok octets := by
  obtain ⟨cut, hcut, hbroken⟩ := h.ofChars
  obtain rfl := Except.ok.inj (hparts.symm.trans hcut)
  exact hbroken

theorem breaksName_of_ofChars {authority : String} {flaw : Escape.Flaw}
    (h : Parts.ofChars s.toList = .ok parts) (ha : parts.authority = some authority)
    (ho : Escape.decodeBytes (.ofText authority) = .error flaw) :
    BreaksName s authority.toList := by
  obtain ⟨b, rest, hb, hs, rfl⟩ := eq_of_ofChars h
  obtain ⟨a, p, q, f, rfl, hplain, hp, hq⟩ := eq_of_ofRest ha
  rw [ofRest_append hplain hp hq] at ha
  cases ha
  rw [String.toList_ofList]
  refine ⟨b, p, q, f, hs, hb, hplain, hp, hq, ?_⟩
  intro octets hspells
  rw [Escape.decodeBytes_ofList_eq_ok_iff.mpr hspells] at ho
  contradiction

end Reports

/-- Whatever is wrong with a rejected locator, it is reported whole, unless its authority holds a
broken escape: then nothing but the authority is reported. -/
theorem rejected_reported_whole {s : String} {f : Fault} (h : parse s = .error f) :
    ((∀ a, ¬BreaksName s a) → ∃ flaw : Flaw, f = .invalidLocator s flaw.reason) ∧
      ∀ a, BreaksName s a → ∃ flaw : Escape.Flaw, f = .invalidLocator (.ofList a) flaw.reason := by
  unfold parse Parts.parse at h
  cases hparts : Parts.ofChars s.toList with
  | error flaw =>
    rw [hparts] at h
    refine ⟨fun _ => ⟨flaw, (Except.error.inj h).symm⟩, ?_⟩
    intro a ha
    obtain ⟨cut, hcut, -⟩ := ha.ofChars
    exact nomatch hparts.symm.trans hcut
  | ok parts =>
    have hrender : parts.render = s := String.toList_inj.mp (render_of_ofChars hparts)
    rw [hparts] at h
    replace h : ofParts parts = .error f := h
    cases hauthority : parts.authority with
    | none =>
      rw [ofParts, hauthority, hrender] at h
      refine ⟨fun _ => ⟨.noAuthority, (Except.error.inj h).symm⟩, ?_⟩
      intro a ha
      exact nomatch hauthority.symm.trans (ha.broken hparts).1
    | some authority =>
      rcases ofParts_eq_error hauthority h with ⟨flaw, ho, rfl⟩ | ⟨⟨octets, ho⟩, flaw, rfl⟩
      · refine ⟨fun hnone => absurd (breaksName_of_ofChars hparts hauthority ho) (hnone _), ?_⟩
        intro a ha
        obtain rfl := Option.some.inj (hauthority.symm.trans (ha.broken hparts).1)
        exact ⟨flaw, rfl⟩
      · refine ⟨fun _ => ⟨flaw, by rw [hrender]⟩, ?_⟩
        intro a ha
        obtain ⟨hname, hbroken⟩ := ha.broken hparts
        obtain rfl := Option.some.inj (hauthority.symm.trans hname)
        exact absurd ho (hbroken octets)

/-- A locator whose name is broken, and one that names no filesystem. -/
theorem rejected_reported_whole_of_two :
    (parse "a://%/b" = .error (.invalidLocator "%" "truncated percent escape") ∧
      BreaksName "a://%/b" ['%'] ∧
      ∃ flaw : Escape.Flaw, Fault.invalidLocator "%" "truncated percent escape" =
        .invalidLocator (.ofList ['%']) flaw.reason) ∧
    parse "a:b%" = .error (.invalidLocator "a:b%" "expected '<backend>://<fsname>'") ∧
      (∀ a, ¬BreaksName "a:b%" a) ∧
      ∃ flaw : Flaw, Fault.invalidLocator "a:b%" "expected '<backend>://<fsname>'" =
        .invalidLocator "a:b%" flaw.reason := by
  have hbrokenRun : parse "a://%/b" =
      .error (.invalidLocator "%" "truncated percent escape") := by decide +kernel
  have hbrokenParts : Parts.ofChars "a://%/b".toList = .ok ⟨"a", some "%", "/b", none, none⟩ := rfl
  have hbroken : BreaksName "a://%/b" ['%'] := breaksName_of_ofChars hbrokenParts rfl rfl
  have hnamelessRun : parse "a:b%" =
      .error (.invalidLocator "a:b%" "expected '<backend>://<fsname>'") := by decide +kernel
  have hnamelessParts : Parts.ofChars "a:b%".toList = .ok ⟨"a", none, "b%", none, none⟩ := rfl
  have hnameless : ∀ a, ¬BreaksName "a:b%" a :=
    fun _ ha => nomatch (ha.broken hnamelessParts).1
  exact ⟨⟨hbrokenRun, hbroken, (rejected_reported_whole hbrokenRun).2 _ hbroken⟩, hnamelessRun,
    hnameless, (rejected_reported_whole hnamelessRun).1 hnameless⟩

/-- Not every rejected locator is reported whole. -/
theorem broken_name_reported_alone :
    ¬∀ s f, parse s = .error f → ∃ reason, f = .invalidLocator s reason := by
  intro hwhole
  have hrun : parse "a://%" = .error (.invalidLocator "%" "truncated percent escape") := by decide +kernel
  obtain ⟨reason, hf⟩ := hwhole _ _ hrun
  simp at hf

end FileCatalog.Locator

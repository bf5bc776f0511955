import FileCatalog.Proofs.Course
import FileCatalog.Proofs.Spelling

/-!
# The queries of a resolution

The rules for the course of a resolution are exact. No two of them apply to the same answers, so
that the rule that does apply tells all that is asked of the parties, in which order, and which step
a fault is reported with; and every resolution goes by one of them. The main statement adds that no
step asks twice, and what the rules take from locators: which texts and paths are refused, and how.
-/

namespace FileCatalog

variable {P B σ α β : Type}

namespace Locator

open Escape (Spells)

/-- All faults are those of an invalid locator, and name one of some texts. -/
def Refuses (named : String → Prop) (x : Except Fault α) : Prop :=
  ∀ f, x = .error f → ∃ text reason, named text ∧ f = .invalidLocator text reason

section Refusals

variable {named other : String → Prop}

theorem refuses_error {text reason : String} (h : named text) :
    Refuses named (.error (.invalidLocator text reason) : Except Fault α) := by
  rintro _ ⟨⟩
  exact ⟨text, reason, h, rfl⟩

theorem refuses_ok (a : α) : Refuses named (.ok a) := nofun

theorem refuses_mapError {ε : Type} {text : String} (reason : ε → String) (x : Except ε α)
    (h : named text) :
    Refuses named (x.mapError fun flaw => .invalidLocator text (reason flaw)) := by
  cases x with
  | error flaw => exact refuses_error h
  | ok a => exact refuses_ok a

theorem Refuses.bind {x : Except Fault α} {k : α → Except Fault β} (hx : Refuses named x)
    (hk : ∀ a, Refuses named (k a)) : Refuses named (x >>= k) := by
  cases x with
  | error f =>
    rintro _ ⟨⟩
    exact hx f rfl
  | ok a => exact hk a

theorem Refuses.mono {x : Except Fault α} (hx : Refuses named x)
    (h : ∀ text, named text → other text) : Refuses other x := by
  intro f hf
  obtain ⟨text, reason, htext, rfl⟩ := hx f hf
  exact ⟨text, reason, h text htext, rfl⟩

theorem refuses_ofParts (parts : Parts) :
    Refuses (fun text => text = parts.render ∨ parts.authority = some text) (ofParts parts) := by
  unfold ofParts
  cases parts.authority with
  | none => exact refuses_error (.inl rfl)
  | some authority =>
    apply (refuses_mapError _ _ (.inr rfl)).bind
    intro octets
    apply (refuses_mapError _ _ (.inl rfl)).bind
    intro name
    apply (refuses_mapError _ _ (.inl rfl)).bind
    intro target
    exact refuses_ok _

theorem refuses_parse (s : String) : Refuses (fun _ => True) (parse s) :=
  (refuses_mapError _ _ trivial).bind fun parts => (refuses_ofParts parts).mono fun _ _ => trivial

theorem refuses_decodePath (path : String) : Refuses (· = path) (decodePath path) := by
  have hescapes : Refuses (· = path) (Escape.decode path) := refuses_mapError _ _ rfl
  apply hescapes.bind
  intro octets
  cases octets.text? with
  | none => exact refuses_error rfl
  | some name => exact refuses_ok name

end Refusals

/-- A path is read as the name that it spells, and refused if it spells none. -/
theorem decodePath_eq_ok_iff {path name : String} :
    decodePath path = .ok name ↔ Spells path.toList (.ofText name) := by
  rw [← Escape.decodeBytes_ofList_eq_ok_iff, String.ofList_toList]
  unfold decodePath Escape.decode
  cases Escape.decodeBytes (.ofText path) with
  | error flaw => simp [bind, Except.bind]
  | ok octets =>
    rw [Except.ok.injEq, ← Bytes.text?_eq_some_iff]
    cases htext : octets.text? <;> simp [bind, Except.bind, htext]

end Locator

def Event.step? : Event P B → Option Step
  | .load _ => some .load
  | .instantiate _ _ => some .instantiate
  | .lookup _ _ _ => some .resolve
  | .branch _ _ => some .branch
  | _ => none

namespace Resolution

section Rules

variable {loader : Loader P σ} {storage : Storage P B σ} {h : Handle B} {id : EntryId} {l : Locator}
  {w : World P B σ} {s : String} {outcome outcome' : Except ResolveFault (Handle B)}
  {es es' : List (Event P B)}

/-! Two rules never apply at once, because each answer that one of them presupposes is given by the
same party, asked the same in the same state, as in the other. -/

theorem Branching.unique (hr : Branching storage h id w outcome es)
    (hr' : Branching storage h id w outcome' es') : outcome = outcome' ∧ es = es' := by
  cases hr <;> cases hr' <;> grind

theorem Narrowing.unique (hr : Narrowing storage h l w outcome es)
    (hr' : Narrowing storage h l w outcome' es') : outcome = outcome' ∧ es = es' := by
  cases hr <;> cases hr' <;> grind [Branching.unique]

theorem Opening.unique (hr : Opening loader storage l w outcome es)
    (hr' : Opening loader storage l w outcome' es') : outcome = outcome' ∧ es = es' := by
  cases hr <;> cases hr' <;> grind [Narrowing.unique]

theorem OpeningText.unique (hr : OpeningText loader storage s w outcome es)
    (hr' : OpeningText loader storage s w outcome' es') : outcome = outcome' ∧ es = es' := by
  cases hr <;> cases hr' <;> grind [Opening.unique]

/-- The rules tell what a resolution does, and all that it does. -/
theorem openingText_iff : OpeningText loader storage s w outcome es ↔
    (openText loader storage s w).1 = outcome ∧
      (openText loader storage s w).2.log = w.log ++ es := by
  obtain ⟨events, hevents, hw⟩ := openText_course loader storage s w
  constructor
  · intro hr
    obtain ⟨rfl, rfl⟩ := hr.unique hevents
    exact ⟨rfl, hw.log⟩
  · rintro ⟨rfl, hlog⟩
    obtain rfl : events = es := List.append_cancel_left (hw.log.symm.trans hlog)
    exact hevents

theorem Branching.steps (hr : Branching storage h id w outcome es) :
    es.filterMap Event.step? = [.branch] := by
  cases hr <;> rfl

theorem Narrowing.steps (hr : Narrowing storage h l w outcome es) :
    (es.filterMap Event.step?).Sublist [.resolve, .branch] := by
  cases hr with
  | byId _ _ hb =>
    rw [hb.steps]
    exact List.sublist_cons_self _ _
  | byPath _ _ _ _ hb =>
    apply List.Sublist.cons_cons
    rw [hb.steps]
  | notFound _ _ _ => exact (List.nil_sublist _).cons_cons _
  | unidentified _ _ _ _ => exact (List.nil_sublist _).cons_cons _
  | _ => exact List.nil_sublist _

/-- Each step asks at most once, and the steps are taken in their order. -/
theorem OpeningText.steps (hr : OpeningText loader storage s w outcome es) :
    (es.filterMap Event.step?).Sublist [.load, .instantiate, .resolve, .branch] := by
  cases hr with
  | unparsed _ => exact List.nil_sublist _
  | parsed _ ho =>
    cases ho with
    | unloaded _ => exact (List.nil_sublist _).cons_cons _
    | unopened _ _ => exact ((List.nil_sublist _).cons_cons _).cons_cons _
    | opened _ _ _ hn => exact (hn.steps.cons_cons _).cons_cons _

end Rules

end Resolution

open Escape (Spells)

/-- A resolution has some outcome and adds some events to the log exactly if the rules say so, and
no step of it asks more than once. A text that is no locator is refused as an invalid one. A path is
looked up under the name that it spells, and refused as an invalid locator if it spells none. -/
theorem queries_as_called_for (loader : Loader P σ) (storage : Storage P B σ) (s : String)
    (w : World P B σ) :
    (∀ outcome events, Resolution.OpeningText loader storage s w outcome events ↔
      (Resolution.openText loader storage s w).1 = outcome ∧
        (Resolution.openText loader storage s w).2.log = w.log ++ events) ∧
    (∀ events, (Resolution.openText loader storage s w).2.log = w.log ++ events →
      (events.filterMap Event.step?).Sublist [.load, .instantiate, .resolve, .branch]) ∧
    (∀ f, Locator.parse s = .error f → ∃ text reason, f = .invalidLocator text reason) ∧
    ∀ path : String,
      (∀ name, Locator.decodePath path = .ok name ↔ Spells path.toList (.ofText name)) ∧
      ∀ f, Locator.decodePath path = .error f → ∃ reason, f = .invalidLocator path reason := by
  refine ⟨fun _ _ => Resolution.openingText_iff, ?_, ?_, ?_⟩
  · intro events hlog
    exact (Resolution.openingText_iff.mpr ⟨rfl, hlog⟩).steps
  · intro f hf
    obtain ⟨text, reason, -, rfl⟩ := Locator.refuses_parse s f hf
    exact ⟨text, reason, rfl⟩
  · intro path
    refine ⟨fun _ => Locator.decodePath_eq_ok_iff, ?_⟩
    intro f hf
    obtain ⟨_, reason, rfl, rfl⟩ := Locator.refuses_decodePath path f hf
    exact ⟨reason, rfl⟩

end FileCatalog

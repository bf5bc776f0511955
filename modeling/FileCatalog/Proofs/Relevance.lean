import FileCatalog.Extraction
import FileCatalog.Proofs.LayoutTours
import FileCatalog.Proofs.StripeTable
import FileCatalog.Proofs.TargetBlocks

/-!
# The queries that matter

Which native queries an extraction depends on is decided by the type of the entry. Two entries are
alike for a type if they answer alike what entries of that type are asked for: layouts are compared
through their components, and a component only by the calls that are made on it, so that a target
matters only if its component is bound and only up to the first stripe without one. The main
statement is that alike entries cannot be told apart, however different all their other answers are.
-/

namespace FileCatalog

inductive AnswersAlike {α β : Type} (R : α → β → Prop) : Except Fault α → Except Fault β → Prop
  | failed (f : Fault) : AnswersAlike R (.error f) (.error f)
  | answered {a b} : R a b → AnswersAlike R (.ok a) (.ok b)

theorem AnswersAlike.imp {α β : Type} {R S : α → β → Prop} {x : Except Fault α}
    {y : Except Fault β} (h : AnswersAlike R x y) (hRS : ∀ a b, R a b → S a b) :
    AnswersAlike S x y := by
  cases h with
  | failed f => exact .failed f
  | answered hab => exact .answered (hRS _ _ hab)

theorem AnswersAlike.with_answers {α β : Type} {R : α → β → Prop} {x : Except Fault α}
    {y : Except Fault β} (h : AnswersAlike R x y) :
    AnswersAlike (fun a b => x = .ok a ∧ y = .ok b ∧ R a b) x y := by
  cases h with
  | failed f => exact .failed f
  | answered hab => exact .answered ⟨rfl, rfl, hab⟩

theorem AnswersAlike.bind {α β γ σ : Type} {R : α → β → Prop} {x : Except Fault α}
    {y : Except Fault β} {f : α → Attempt σ γ} {g : β → Attempt σ γ} (h : AnswersAlike R x y)
    (hfg : ∀ a b, R a b → f a = g b) :
    (liftM x >>= f : Attempt σ γ) = (liftM y >>= g : Attempt σ γ) := by
  funext s
  cases h with
  | failed f => simp
  | answered hab => simp [hfg _ _ hab]

/-- Components that answer alike what they are asked for: the targets of the stripes up to the first
that has none, if the component is bound, and the segment, if the layout is composite. -/
structure Component.Alike (composite : Bool) (c c' : Component) : Prop where
  stripeCount : c.stripeCount = c'.stripeCount
  stripeSize : c.stripeSize = c'.stripeSize
  pattern : c.pattern = c'.pattern
  flags : c.flags = c'.flags
  pool : c.pool = c'.pool
  target : composite = false ∨ c.flags = .ok Component.boundFlag →
    ∀ count, c.stripeCount = .ok count → ∀ i < count.toNat,
      (∀ j < i, c.target (.ofNat j) ≠ .ok none) → c.target (.ofNat i) = c'.target (.ofNat i)
  extent : composite = true → c.extent = c'.extent
  mirror : composite = true → c.mirror = c'.mirror

/-- Tours that hand over alike components and go on alike, whatever the visitor answers. -/
inductive Tour.Alike : Tour → Tour → Prop
  | ended (ending : Except Fault Unit) : Alike (ended ending) (ended ending)
  | handOver {c c' onward onward'} : c.Alike true c' →
      (∀ answer, Alike (onward answer) (onward' answer)) →
      Alike (handOver c onward) (handOver c' onward')

theorem Tour.alike_through (ending : Except Fault Unit) {cs cs' : List Component}
    (h : List.Forall₂ (Component.Alike true) cs cs') :
    (through ending cs).Alike (through ending cs') := by
  induction h with
  | nil => exact .ended ending
  | cons hc _ ih =>
    apply Alike.handOver hc
    intro answer
    cases answer with
    | error f => exact .ended (.error f)
    | ok _ => exact ih

namespace StripeTable

variable {c c' : Component} {table : StripeTable} {arena : Arena}

theorem readRow_alike {composite : Bool} (h : c.Alike composite c') : readRow c = readRow c' := by
  unfold readRow
  rw [h.stripeCount, h.stripeSize, h.pattern, h.flags, h.pool]

/-- Beyond its row, only the targets of a component that is bound are asked for. -/
theorem listTargets_alike {composite : Bool} {row : Row} (h : c.Alike composite c')
    (hr : readRow c = .ok row) :
    listTargets composite row c = listTargets composite row c' := by
  have ha := answers_of_readRow hr
  have hplaces : places composite row c = places composite row c' := by
    unfold places
    cases hbound : isBound composite row.flags with
    | false => rfl
    | true =>
      have hb : composite = false ∨ c.flags = .ok Component.boundFlag := by
        rw [ha.flags, Except.ok.injEq]
        exact isBound_iff.mp hbound
      have htargets := h.target hb _ ha.stripeCount
      exact enumerate_congr (by simpa using htargets)
  rw [listTargets_eq, listTargets_eq, hplaces]

theorem readSegment_alike (h : c.Alike true c') : readSegment c = readSegment c' := by
  unfold readSegment
  rw [h.extent rfl, h.mirror rfl]

theorem record_alike (h : c.Alike table.composite c') :
    record c (table, arena) = record c' (table, arena) := by
  have hr' := readRow_alike h
  rcases begun_cases c arena with ⟨f, hr⟩ | ⟨row, hr, ha⟩ | ⟨row, hb⟩
  · rw [record_of_unread hr, record_of_unread (hr' ▸ hr)]
  · rw [record_of_unkept hr ha, record_of_unkept (hr' ▸ hr) ha]
  · have hb' : Begun arena c' row := ⟨hr' ▸ hb.read, hb.kept⟩
    rw [record_of_begun hb, record_of_begun hb', listTargets_alike h hb.read]
    cases hc : table.composite with
    | false => rfl
    | true =>
      rw [hc] at h
      rw [readSegment_alike h]

theorem composite_record (c : Component) (table : StripeTable) (arena : Arena) :
    (record c (table, arena)).2.1.composite = table.composite := by
  rcases begun_cases c arena with ⟨f, hr⟩ | ⟨row, hr, ha⟩ | ⟨row, hb⟩
  · rw [record_of_unread hr]
  · rw [record_of_unkept hr ha]
  · rw [record_of_begun hb]
    split
    · rfl
    · split <;> rfl

/-- What keeps two alike tours together is that the table stays that of a composite layout. -/
theorem follow_alike {tour tour' : Tour} (h : tour.Alike tour') (hc : table.composite = true) :
    tour.follow record (table, arena) = tour'.follow record (table, arena) := by
  induction h generalizing table arena with
  | ended ending => rfl
  | @handOver c c' onward onward' hcc _ ih =>
    have hrecord : record c (table, arena) = record c' (table, arena) := record_alike (hc ▸ hcc)
    have hafter := composite_record c table arena
    rw [Tour.follow_handOver, Tour.follow_handOver, ← hrecord]
    exact ih _ (hafter.trans hc)

end StripeTable

section Layouts

variable {L L' : Type} [LayoutAccess L] [LayoutAccess L']

namespace Extraction

open StripeTable

theorem emitTable_alike {table : StripeTable} {visit visit' : Attempt (StripeTable × Arena) Unit}
    (h : ∀ arena, visit (table, arena) = visit' (table, arena)) :
    emitTable table visit = emitTable table visit' := by
  simp only [emitTable, h]

theorem emitPlain_alike {layout : L} {layout' : L'}
    (h : (LayoutAccess.current layout).Alike false (LayoutAccess.current layout')) :
    emitPlain layout = emitPlain layout' := by
  funext scan
  unfold emitPlain
  cases hnew : withRoom 1 false with
  | error f => simp
  | ok table =>
    have htable : table.composite = false := by rw [eq_of_withRoom hnew]
    have hemit : emitTable table (record (LayoutAccess.current layout)) =
        emitTable table (record (LayoutAccess.current layout')) :=
      emitTable_alike fun arena => record_alike (htable ▸ h)
    simp [hemit]

end Extraction

variable [LayoutTours L] [LayoutTours L']

/-- Layouts that answer alike what they are asked for. A plain one is asked for its only component,
and a composite one for the identifier of the last component and then for all of them. -/
structure LayoutsAlike (layout : L) (layout' : L') : Prop where
  flags : LayoutAccess.flags layout = LayoutAccess.flags layout'
  isComposite : LayoutAccess.isComposite layout = LayoutAccess.isComposite layout'
  component : LayoutAccess.isComposite layout = false →
    (LayoutAccess.current layout).Alike false (LayoutAccess.current layout')
  mirrorCount : LayoutAccess.isComposite layout = true →
    LayoutAccess.mirrorCount layout = LayoutAccess.mirrorCount layout'
  components : LayoutAccess.isComposite layout = true →
    AnswersAlike
      (fun last last' => LayoutAccess.componentId last = LayoutAccess.componentId last' ∧
        AnswersAlike (fun first first' => (LayoutTours.tour first).Alike (LayoutTours.tour first'))
          (LayoutAccess.select .first last) (LayoutAccess.select .first last'))
      (LayoutAccess.select .last layout) (LayoutAccess.select .last layout')

/-- Entries that answer alike what entries of the given type are asked for. -/
structure EntriesAlike (type : EntryType) (e : NativeEntry L) (e' : NativeEntry L') : Prop where
  fid : e.fid = e'.fid
  archiveState : type = .regular → e.archiveState = e'.archiveState
  layout : type ≠ .symlink → AnswersAlike LayoutsAlike e.layout e'.layout
  xattr : type = .regular → e.xattr layoutXattr = e'.xattr layoutXattr
  directoryStripe : type = .directory → e.directoryStripe = e'.directoryStripe
  metadataTarget : type = .regular ∨ type = .other → e.metadataTarget = e'.metadataTarget

namespace Extraction

open StripeTable

variable {type : EntryType} {e : NativeEntry L} {e' : NativeEntry L'} {layout : L} {layout' : L'}

theorem emitComposite_alike (h : LayoutsAlike layout layout')
    (hc : LayoutAccess.isComposite layout = true) :
    emitComposite layout = emitComposite layout' := by
  unfold emitComposite
  rw [h.mirrorCount hc]
  congr 1
  funext mirrors
  congr 1
  funext _
  apply (h.components hc).bind
  intro last last' hlast
  rw [hlast.1]
  congr 1
  funext id
  apply hlast.2.bind
  intro first first' htours
  funext scan
  cases hnew : withRoom id.toNat true with
  | error f => simp
  | ok table =>
    have htable : table.composite = true := by rw [eq_of_withRoom hnew]
    have hemit : emitTable table (LayoutAccess.iterate first record) =
        emitTable table (LayoutAccess.iterate first' record) := by
      rw [LayoutTours.iterate_eq, LayoutTours.iterate_eq]
      exact emitTable_alike fun arena => follow_alike htours htable
    simp [hemit]

theorem emitArchive_alike (h : EntriesAlike type e e') : emitArchive type e = emitArchive type e' := by
  cases type with
  | regular => simp only [emitArchive, h.archiveState rfl]
  | _ => rfl

theorem emitHeader_alike (h : EntriesAlike type e e') : emitHeader type e = emitHeader type e' := by
  cases type with
  | regular => simp only [emitHeader, h.xattr rfl]
  | _ => rfl

theorem emitLayout_alike (h : EntriesAlike type e e') : emitLayout type e = emitLayout type e' := by
  by_cases htype : type = .symlink
  · rw [htype]
    rfl
  · rw [emitLayout_of_ne_symlink htype, emitLayout_of_ne_symlink htype]
    apply (h.layout htype).bind
    intro layout layout' hl
    have hrest : (if LayoutAccess.isComposite layout = true then emitComposite layout
          else emitPlain layout) =
        if LayoutAccess.isComposite layout' = true then emitComposite layout'
          else emitPlain layout' := by
      rw [← hl.isComposite]
      cases hc : LayoutAccess.isComposite layout with
      | false => exact emitPlain_alike (hl.component hc)
      | true => exact emitComposite_alike hl hc
    rw [hl.flags, emitHeader_alike h, hrest]

theorem emitMetadata_alike (h : EntriesAlike type e e') :
    emitMetadata type e = emitMetadata type e' := by
  cases type with
  | directory => simp only [emitMetadata, h.directoryStripe rfl]
  | symlink => rfl
  | regular => simp only [emitMetadata, h.metadataTarget (.inl rfl)]
  | other => simp only [emitMetadata, h.metadataTarget (.inr rfl)]

theorem emitAll_alike (h : EntriesAlike type e e') : emitAll type e = emitAll type e' := by
  simp only [emitAll, emitFid, h.fid, emitArchive_alike h, emitLayout_alike h, emitMetadata_alike h]

end Extraction

/-- Entries that answer alike what their type calls for give the same outcome, the same record and
the same arena, however different their other answers are. -/
theorem irrelevant_queries_ignored {mode mode' : UInt32} {e : NativeEntry L} {e' : NativeEntry L'}
    (hmode : mode &&& EntryType.typeBits = mode' &&& EntryType.typeBits)
    (h : EntriesAlike (.ofMode mode) e e') (scan : Scan) :
    Scan.extract e mode scan = Scan.extract e' mode' scan := by
  have htype : EntryType.ofMode mode = EntryType.ofMode mode' := by
    simp only [EntryType.ofMode, hmode]
  simp only [Scan.extract, ← htype, Extraction.emitAll_alike h]

end Layouts

def wellKnownDirectory : NativeEntry Scripted.Layout where
  fid := .ok ⟨0x200000401, 7, 0⟩
  archiveState := .ok ⟨9, 1⟩
  layout := .ok
    { flags := .ok 0
      composite := true
      mirrorCount := .ok 1
      components := [⟨.ok 1, StripeTable.reporting 0x10 #[3]⟩, ⟨.ok 2, StripeTable.reporting 0 #[5]⟩]
      current := 0
      refusal := fun _ => none
      ending := .ok () }
  xattr _ := .ok []
  directoryStripe := .ok ⟨2, [1, 0]⟩
  metadataTarget := .ok 1

/-- The same directory, of which nothing is known but what directories are asked for. -/
def littleKnownDirectory : NativeEntry Scripted.Layout where
  fid := .ok ⟨0x200000401, 7, 0⟩
  archiveState := .error (.noData "hsm_state")
  layout := .ok
    { flags := .ok 0
      composite := true
      mirrorCount := .ok 1
      components :=
        [⟨.ok 1, { StripeTable.reporting 0x10 #[3] with
            target := fun stripe => if stripe = 0 then .ok (some 3) else .error (.backend "target") }⟩,
          ⟨.ok 2, { StripeTable.reporting 0 #[5] with
            target := fun _ => .error (.backend "target") }⟩]
      current := 0
      refusal := fun _ => none
      ending := .ok () }
  xattr _ := .error (.noData "getxattr")
  directoryStripe := .ok ⟨2, [1, 0]⟩
  metadataTarget := .error (.backend "mdt_index")

theorem irrelevant_queries_ignored_of_directories :
    let scan : Scan := ⟨[], Arena.empty (some 32)⟩
    (0o40755 : UInt32) &&& EntryType.typeBits = 0o40700 &&& EntryType.typeBits ∧
      EntriesAlike (.ofMode 0o40755) wellKnownDirectory littleKnownDirectory ∧
      Scan.extract wellKnownDirectory 0o40755 scan = Scan.extract littleKnownDirectory 0o40700 scan := by
  intro scan
  have hmode : (0o40755 : UInt32) &&& EntryType.typeBits = 0o40700 &&& EntryType.typeBits := by
    decide
  have htype : EntryType.ofMode 0o40755 = .directory := by decide
  have h : EntriesAlike (.ofMode 0o40755) wellKnownDirectory littleKnownDirectory := by
    rw [htype]
    refine ⟨rfl, nofun, fun _ => .answered ?_, nofun, fun _ => rfl, nofun⟩
    refine ⟨rfl, rfl, nofun, fun _ => rfl, fun _ => .answered ⟨rfl, .answered ?_⟩⟩
    apply Tour.alike_through
    refine .cons ⟨rfl, rfl, rfl, rfl, rfl, ?_, fun _ => rfl, fun _ => rfl⟩
      (.cons ⟨rfl, rfl, rfl, rfl, rfl, ?_, fun _ => rfl, fun _ => rfl⟩ .nil)
    · rintro _ count ⟨⟩ i hi _
      obtain rfl : i = 0 := Nat.lt_one_iff.mp hi
      rfl
    · rintro (hc | hflags) <;> contradiction
  exact ⟨hmode, h, irrelevant_queries_ignored hmode h scan⟩

end FileCatalog

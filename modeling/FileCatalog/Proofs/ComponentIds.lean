import FileCatalog.Proofs.RecordShape
import FileCatalog.Proofs.Relevance
import FileCatalog.Proofs.TargetRoom

/-!
# Component identifiers

The identifier of the last component is taken for the number of components, and to ask for it the
selection is moved to the last component and back. So the identifiers decide with how much room a
table starts, and nothing else. The main statement runs two extractions side by side, on layouts that
differ in their identifiers and in the component that is current: as long as room is not wanting, the
tables hold the same at every moment, and what is left at the end is the same record and arena.
-/

namespace FileCatalog

namespace StripeTable

/-- The room that a component takes if it is never wanting. -/
def demand (composite : Bool) (c : Component) : Nat :=
  match readRow c with
  | .error _ => 0
  | .ok row => rowShare composite row (places composite row c).2.length

/-- The list has room for its targets and can get room for as many more. -/
structure Spare (n : Nat) (l : TargetList) : Prop where
  fits : l.size ≤ l.capacity
  room : l.capacity + n < Size.slotLimit

structure SameContent (table table' : StripeTable) : Prop where
  composite : table.composite = table'.composite
  rows : table.rows = table'.rows
  values : table.targets.values = table'.targets.values

/-- Two visits that have come to the same, and have left room for more. -/
structure Together (n : Nat) (r r' : Except Fault Unit × StripeTable × Arena) : Prop where
  outcome : r.1 = r'.1
  arena : r.2.2 = r'.2.2
  content : SameContent r.2.1 r'.2.1
  spare : Spare n r.2.1.targets
  spare' : Spare n r'.2.1.targets

section Runs

variable {m n : Nat} {l : TargetList} {composite : Bool} {row : Row} {c : Component}
  {table table' : StripeTable} {arena : Arena}

theorem Spare.mono (h : Spare n l) (hmn : m ≤ n) : Spare m l :=
  ⟨h.fits, Nat.lt_of_le_of_lt (Nat.add_le_add_left hmn _) h.room⟩

theorem listTargets_of_spare
    (h : Spare (rowShare composite row (places composite row c).2.length + n) l) :
    (listTargets composite row c l).1 = (places composite row c).1 ∧
      (listTargets composite row c l).2.values.toList =
        l.values.toList ++ (places composite row c).2 ∧
      Spare n (listTargets composite row c l).2 := by
  have hroom := h.room
  obtain ⟨ts, hplacing⟩ := listTargets_course composite row c h.fits
  have hgrown := hplacing.grown h.fits
  have hcapacity := hplacing.capacity_le h.fits
  rcases hplacing.free h.fits with ⟨hfree, -⟩ | hlarge
  · rw [← hfree] at hroom ⊢
    refine ⟨rfl, hgrown.values, hgrown.fits, ?_⟩
    simp only at hroom
    omega
  · have hmono := rowShare_mono composite row
      (Nat.min_le_right (ts.length + 1) (places composite row c).2.length)
    omega

/-- Tables that hold the same still do so after the same component. -/
theorem record_together (h : SameContent table table')
    (hs : Spare (demand table.composite c + n) table.targets)
    (hs' : Spare (demand table.composite c + n) table'.targets) :
    Together n (record c (table, arena)) (record c (table', arena)) := by
  have hle : n ≤ demand table.composite c + n := Nat.le_add_left _ _
  rcases begun_cases c arena with ⟨f, hr⟩ | ⟨row, hr, ha⟩ | ⟨row, hb⟩
  · rw [record_of_unread hr, record_of_unread hr]
    exact ⟨rfl, rfl, h, hs.mono hle, hs'.mono hle⟩
  · rw [record_of_unkept hr ha, record_of_unkept hr ha]
    exact ⟨rfl, rfl, h, hs.mono hle, hs'.mono hle⟩
  · obtain ⟨composite, rows, l⟩ := table
    obtain ⟨composite', rows', l'⟩ := table'
    obtain ⟨hcomposite, hrows, hvalues⟩ := h
    simp only at hcomposite hrows hvalues
    subst hcomposite hrows
    simp only [demand, hb.read] at hs hs'
    have hlist := listTargets_of_spare hs
    have hlist' := listTargets_of_spare hs'
    rw [record_of_begun hb, record_of_begun hb]
    rcases hr : listTargets composite row c l with ⟨outcome, m⟩
    rcases hr' : listTargets composite row c l' with ⟨outcome', m'⟩
    rw [hr] at hlist
    rw [hr'] at hlist'
    obtain ⟨houtcome, hm, hspare⟩ := hlist
    obtain ⟨houtcome', hm', hspare'⟩ := hlist'
    have hsame : m.values = m'.values := by
      rw [← Array.toList_inj, hm, hm', hvalues]
    obtain rfl : outcome = outcome' := houtcome.trans houtcome'.symm
    rcases outcome with f | ⟨⟩
    · exact ⟨rfl, rfl, ⟨rfl, rfl, hsame⟩, hspare, hspare'⟩
    · rcases (if composite then some <$> readSegment c else .ok none) with f | segment <;>
        exact ⟨rfl, rfl, ⟨rfl, rfl, hsame⟩, hspare, hspare'⟩

/-- Two runs through the same components stay together, by induction on the components. A component
that fails in one of them fails in the other, so that both end there. -/
theorem visitAll_together (cs : List Component) (h : SameContent table table')
    (hs : Spare ((cs.map (demand table.composite)).sum) table.targets)
    (hs' : Spare ((cs.map (demand table.composite)).sum) table'.targets) :
    Together 0 (visitAll record cs (table, arena)) (visitAll record cs (table', arena)) := by
  induction cs generalizing table table' arena with
  | nil => exact ⟨rfl, rfl, h, hs, hs'⟩
  | cons c cs ih =>
    rw [List.map_cons, List.sum_cons] at hs hs'
    have hfirst : Together _ (record c (table, arena)) (record c (table', arena)) :=
      record_together h hs hs'
    have hcomposite := composite_record c table arena
    simp only [visitAll, Attempt.bind_apply]
    rcases hr : record c (table, arena) with ⟨outcome, between, left⟩
    rcases hr' : record c (table', arena) with ⟨outcome', between', left'⟩
    rw [hr] at hcomposite
    rw [hr, hr'] at hfirst
    obtain ⟨rfl, rfl, hcontent, hspare, hspare'⟩ := hfirst
    rcases outcome with f | ⟨⟩
    · exact ⟨rfl, rfl, hcontent, hspare.mono (Nat.zero_le _), hspare'.mono (Nat.zero_le _)⟩
    · rw [← hcomposite] at hspare hspare'
      exact ih hcontent hspare hspare'

theorem Together.then_liftM {work work' : Attempt (StripeTable × Arena) Unit}
    {state state' : StripeTable × Arena} (h : Together n (work state) (work' state'))
    (ending : Except Fault Unit) :
    Together n ((do work; liftM ending : Attempt (StripeTable × Arena) Unit) state)
      ((do work'; liftM ending : Attempt (StripeTable × Arena) Unit) state') := by
  simp only [Attempt.bind_apply]
  rcases hr : work state with ⟨outcome, after, left⟩
  rcases hr' : work' state' with ⟨outcome', after', left'⟩
  rw [hr, hr'] at h
  obtain ⟨rfl, rfl, hcontent, hspare, hspare'⟩ := h
  rcases outcome with f | ⟨⟩ <;> exact ⟨rfl, rfl, hcontent, hspare, hspare'⟩

theorem attributes_eq (h : SameContent table table') : table.attributes = table'.attributes := by
  simp only [attributes, segmentAttributes, column, segmentColumn, h.composite, h.rows, h.values]

end Runs

end StripeTable

namespace NativeEntry

variable {L L' : Type}

def withLayout (e : NativeEntry L) (layout : L') : NativeEntry L' where
  fid := e.fid
  archiveState := e.archiveState
  layout := .ok layout
  xattr := e.xattr
  directoryStripe := e.directoryStripe
  metadataTarget := e.metadataTarget

@[simp] theorem layout_withLayout (e : NativeEntry L) (layout : L') :
    (e.withLayout layout).layout = .ok layout := rfl

end NativeEntry

section Layouts

variable {L L' : Type} [LayoutAccess L] [LawfulLayout L] [LayoutAccess L'] [LawfulLayout L']

/-- Composite layouts that differ in nothing but the identifiers of their components and the component
that is current. -/
structure SameButIds (layout : L) (layout' : L') : Prop where
  isComposite : LayoutAccess.isComposite layout = true
  isComposite' : LayoutAccess.isComposite layout' = true
  flags : LayoutAccess.flags layout = LayoutAccess.flags layout'
  mirrorCount : LayoutAccess.mirrorCount layout = LayoutAccess.mirrorCount layout'
  components : LawfulLayout.components layout = LawfulLayout.components layout'
  selections : AnswersAlike
    (fun last last' =>
      AnswersAlike (fun _ _ => True) (LayoutAccess.componentId last) (LayoutAccess.componentId last') ∧
      AnswersAlike (fun first first' => HeedfulLayout.ending first = HeedfulLayout.ending first')
        (LayoutAccess.select .first last) (LayoutAccess.select .first last'))
    (LayoutAccess.select .last layout) (LayoutAccess.select .last layout')

namespace Extraction

open StripeTable

variable {layout : L} {layout' : L'} {type : EntryType}

theorem emitTable_together {table table' : StripeTable}
    {visit visit' : Attempt (StripeTable × Arena) Unit}
    (h : ∀ arena, Together 0 (visit (table, arena)) (visit' (table', arena))) :
    emitTable table visit = emitTable table' visit' := by
  funext scan
  have hvisit := h scan.arena
  simp only [emitTable, Attempt.bind_apply, Scan.onArena_apply]
  rcases hr : visit (table, scan.arena) with ⟨outcome, after, left⟩
  rcases hr' : visit' (table', scan.arena) with ⟨outcome', after', left'⟩
  rw [hr, hr'] at hvisit
  obtain ⟨rfl, rfl, hcontent, -, -⟩ := hvisit
  rcases outcome with f | ⟨⟩
  · rfl
  · simp only [Except.map, attributes_eq hcontent]

/-- Both tables start with the room that some identifier gives, and both visits start at the first
component, so that only the room is different. -/
theorem emitComposite_of_sameButIds (h : SameButIds layout layout')
    (hroom : UInt32.size + ((LawfulLayout.components layout).map (demand true)).sum ≤
      Size.slotLimit) :
    emitComposite layout = emitComposite layout' := by
  unfold emitComposite
  rw [h.mirrorCount]
  congr 1
  funext mirrors
  congr 1
  funext _
  apply h.selections.with_answers.bind
  rintro last last' ⟨hlast, hlast', hids, hfirsts⟩
  apply hids.bind
  intro id id' _
  apply hfirsts.with_answers.bind
  rintro first first' ⟨hfirst, hfirst', hending⟩
  have hvisited : HeedfulLayout.visited first = LawfulLayout.components layout := by
    rw [LawfulLayout.visited_of_first hfirst, LawfulLayout.components_of_select hfirst,
      LawfulLayout.components_of_select hlast]
  have hvisited' : HeedfulLayout.visited first' = LawfulLayout.components layout := by
    rw [LawfulLayout.visited_of_first hfirst', LawfulLayout.components_of_select hfirst',
      LawfulLayout.components_of_select hlast', h.components]
  have hspare (id : UInt32) :
      Spare ((LawfulLayout.components layout).map (demand true)).sum ⟨#[], id.toNat⟩ :=
    ⟨Nat.zero_le _, Nat.lt_of_lt_of_le (Nat.add_lt_add_right id.toNat_lt _) hroom⟩
  rw [withRoom_of_lt (Nat.lt_of_le_of_lt (Nat.le_add_right _ _) (hspare id).room),
    withRoom_of_lt (Nat.lt_of_le_of_lt (Nat.le_add_right _ _) (hspare id').room), liftM_ok_bind,
    liftM_ok_bind, HeedfulLayout.iterate_eq_visitAll, HeedfulLayout.iterate_eq_visitAll, hvisited,
    hvisited', hending]
  apply emitTable_together
  intro arena
  apply Together.then_liftM
  exact visitAll_together _ ⟨rfl, rfl, rfl⟩ (hspare id) (hspare id')

theorem emitAll_of_sameButIds (h : SameButIds layout layout')
    (hroom : UInt32.size + ((LawfulLayout.components layout).map (demand true)).sum ≤
      Size.slotLimit) (e : NativeEntry L) :
    emitAll type (e.withLayout layout) = emitAll type (e.withLayout layout') := by
  have harchive : emitArchive type (e.withLayout layout) =
      emitArchive type (e.withLayout layout') := by cases type <;> rfl
  have hheader : emitHeader type (e.withLayout layout) =
      emitHeader type (e.withLayout layout') := by cases type <;> rfl
  have hmetadata : emitMetadata type (e.withLayout layout) =
      emitMetadata type (e.withLayout layout') := by cases type <;> rfl
  have hlayout : emitLayout type (e.withLayout layout) =
      emitLayout type (e.withLayout layout') := by
    by_cases htype : type = .symlink
    · rw [htype]
      rfl
    · rw [emitLayout_of_ne_symlink htype, emitLayout_of_ne_symlink htype]
      simp only [NativeEntry.layout_withLayout, liftM_ok_bind, h.flags, h.isComposite,
        h.isComposite', if_true, emitComposite_of_sameButIds h hroom, hheader]
  simp only [emitAll, harchive, hlayout, hmetadata]
  rfl

end Extraction

/-- Extractions of one entry with layouts that differ in nothing but the identifiers of their
components and the component that is current give the same outcome, the same record and the same
arena. If they succeed and the layout has been looked at, all its components are in the record, from
the first to the last and each of them once, whatever its identifier is. -/
theorem component_ids_hidden {layout : L} {layout' : L'} (h : SameButIds layout layout')
    (hroom : UInt32.size + ((LawfulLayout.components layout).map (StripeTable.demand true)).sum ≤
      Size.slotLimit) (e : NativeEntry L) (mode : UInt32) (scan : Scan) :
    Scan.extract (e.withLayout layout) mode scan = Scan.extract (e.withLayout layout') mode scan ∧
      ∀ n after, Scan.extract (e.withLayout layout) mode scan = (.ok n, after) →
        ∃ produced, after.record = scan.record.settleExpiry.1 ++ produced ∧ produced.length = n ∧
          (EntryType.ofMode mode ≠ .symlink → Extraction.DescribesLayout layout produced ∧
            Extraction.allComponents layout = LawfulLayout.components layout) := by
  constructor
  · simp only [Scan.extract, Extraction.emitAll_of_sameButIds h hroom]
  · intro n after hrun
    obtain ⟨alone, halone, hlength, rfl⟩ := Extraction.emitAll_of_extract hrun
    obtain ⟨-, hparts⟩ := Extraction.emitAll_ok halone
    refine ⟨alone.record, rfl, hlength, ?_⟩
    intro htype
    obtain ⟨answered, hanswer, hdescribes⟩ := hparts.describes.layout htype
    obtain rfl : layout = answered := Except.ok.inj hanswer
    exact ⟨hdescribes, if_pos h.isComposite⟩

end Layouts

namespace Scripted.Layout

/-- The layout with other identifiers, as far as it has identifiers, and another current component. -/
def renumbered (l : Layout) (ids : Nat → UInt32) (current : Nat) : Layout :=
  { l with
    components := l.components.mapIdx fun i c => { c with id := c.id.map fun _ => ids i }
    current := current }

section Renumbering

variable (l : Layout) (ids : Nat → UInt32) (current : Nat)

theorem components_renumbered :
    LawfulLayout.components (l.renumbered ids current) = LawfulLayout.components l :=
  List.ext_getElem? fun i => by
    simp [renumbered, LawfulLayout.components, Function.comp_def]

theorem select_renumbered (place : FileCatalog.Layout.Place) :
    AnswersAlike (fun selected selected' => selected' = selected.renumbered ids selected.current)
      (l.select place) ((l.renumbered ids current).select place) := by
  have hempty : (l.renumbered ids current).components.isEmpty = l.components.isEmpty := by
    cases hc : l.components <;> simp [renumbered, hc]
  have hrefusal : (l.renumbered ids current).refusal = l.refusal := rfl
  unfold select
  rw [hempty, hrefusal]
  cases l.refusal place with
  | some f => exact .failed f
  | none =>
    cases l.components.isEmpty with
    | true => exact .failed _
    | false =>
      cases place with
      | first => exact .answered rfl
      | last => exact .answered (by simp [renumbered])

theorem componentId_renumbered :
    AnswersAlike (fun _ _ => True) l.currentComponent.id
      (l.renumbered ids l.current).currentComponent.id := by
  have hid : (l.renumbered ids l.current).currentComponent.id =
      l.currentComponent.id.map fun _ => ids l.current := by
    unfold currentComponent renumbered
    rw [List.getElem?_mapIdx]
    cases l.components[l.current]? <;> rfl
  rw [hid]
  cases l.currentComponent.id with
  | error f => exact .failed f
  | ok id => exact .answered trivial

theorem sameButIds_renumbered (hc : l.composite = true) :
    SameButIds l (l.renumbered ids current) := by
  refine ⟨hc, hc, rfl, rfl, (components_renumbered l ids current).symm, ?_⟩
  apply (select_renumbered l ids current .last).imp
  rintro last _ rfl
  refine ⟨componentId_renumbered last ids, ?_⟩
  apply (select_renumbered last ids last.current .first).imp
  rintro first _ rfl
  rfl

end Renumbering

end Scripted.Layout

def mirroredLayout : Scripted.Layout where
  flags := .ok 0
  composite := true
  mirrorCount := .ok 2
  components :=
    [⟨.ok 1, StripeTable.reporting 0x10 #[3, 4]⟩, ⟨.ok 2, StripeTable.reporting 0 #[5]⟩]
  current := 0
  refusal := fun _ => none
  ending := .ok ()

/-- The first identifier is far beyond the number of components, the last one is less, and the last
component is current. -/
theorem component_ids_hidden_of_mirrored :
    let other := mirroredLayout.renumbered (fun i => if i = 0 then 0xFFFFFFFF else 0) 1
    let run := Scan.extract (mirroredFile.withLayout mirroredLayout) 0o100644 ⟨[], Arena.empty none⟩
    SameButIds mirroredLayout other ∧ run.1 = .ok 17 ∧
      run = Scan.extract (mirroredFile.withLayout other) 0o100644 ⟨[], Arena.empty none⟩ ∧
      ∃ produced, run.2.record = produced ∧ produced.length = 17 ∧
        Extraction.DescribesLayout mirroredLayout produced := by
  intro other run
  have h : SameButIds mirroredLayout other := mirroredLayout.sameButIds_renumbered _ _ rfl
  have hroom : UInt32.size + ((LawfulLayout.components mirroredLayout).map
      (StripeTable.demand true)).sum ≤ Size.slotLimit := by decide +kernel
  have hrun : run.1 = .ok 17 := by rfl
  have htype : EntryType.ofMode 0o100644 = .regular := by decide
  obtain ⟨hsame, hall⟩ := component_ids_hidden h hroom mirroredFile 0o100644 ⟨[], Arena.empty none⟩
  obtain ⟨produced, hproduced, hlength, hdescribes⟩ := hall 17 run.2 (Prod.ext hrun rfl)
  exact ⟨h, hrun, hsame, produced, hproduced, hlength, (hdescribes (by rw [htype]; nofun)).1⟩

end FileCatalog

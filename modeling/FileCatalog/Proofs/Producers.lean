import FileCatalog.Proofs.Extraction
import FileCatalog.Proofs.LayoutTours
import FileCatalog.Proofs.Production

/-!
# What producers append

For each producer it is told from the answers of the entry alone which queries it makes, how many
octets it keeps in the arena, and what the attributes are that it appends. Each producer is read off
its own text once, by the rules of production, and the whole extraction is put together from these
readings.
-/

namespace FileCatalog

namespace Extraction

section Foretold

variable {L : Type}

/-- The octets of the name of the stored layout's format, which only regular files have. -/
def formatOctets (type : EntryType) (e : NativeEntry L) : Nat :=
  match type with
  | .regular =>
    match e.xattr layoutXattr >>= Layout.Header.decode with
    | .ok header => header.format.name.utf8ByteSize
    | .error _ => 0
  | _ => 0

def headerQueries (type : EntryType) (e : NativeEntry L) : List (Option Fault) :=
  match type with
  | .regular => asking (e.xattr layoutXattr) fun raw => [faultOf (Layout.Header.decode raw)]
  | _ => []

def archiveQueries (type : EntryType) (e : NativeEntry L) : List (Option Fault) :=
  match type with
  | .regular => [faultOf e.archiveState]
  | _ => []

/-- A directory that has no stripe to report is not at fault. -/
def metadataQueries (type : EntryType) (e : NativeEntry L) : List (Option Fault) :=
  match type with
  | .directory => [(faultOf e.directoryStripe).filter fun f => !f.isNoData]
  | .symlink => []
  | _ => [faultOf e.metadataTarget]

/-- What is wrong with a directory that has answered all queries: it may have more shards than 32
bits can count. -/
def shardFault (type : EntryType) (e : NativeEntry L) : Option Fault :=
  match type, e.directoryStripe with
  | .directory, .ok stripe =>
    if stripe.targets.length < UInt32.size then none
    else some (.invalidFormat "directory striping" (toString stripe.targets.length ++ " shards"))
  | _, _ => none

/-! A part is what one producer appends if all of its queries answer. A producer that does not apply
to the type of the entry is skipped and appends nothing. -/

inductive FidPart (e : NativeEntry L) : Record → Prop
  | stored {fid} : e.fid = .ok fid → FidPart e [⟨"fid", .binary fid.bytes⟩]

inductive ArchivePart (type : EntryType) (e : NativeEntry L) : Record → Prop
  | known {state} : type = .regular → e.archiveState = .ok state →
      ArchivePart type e
        [⟨"hsm_state", .uint32 state.states⟩, ⟨"hsm_archive_id", .uint32 state.archive⟩]
  | skipped : type ≠ .regular → ArchivePart type e []

inductive HeaderPart (type : EntryType) (e : NativeEntry L) : Record → Prop
  | decoded {raw header} : type = .regular → e.xattr layoutXattr = .ok raw →
      Layout.Header.decode raw = .ok header →
      HeaderPart type e
        [⟨"magic", .text header.format.name⟩, ⟨"gen", .uint32 header.generation⟩]
  | skipped : type ≠ .regular → HeaderPart type e []

inductive TablePart (composite : Bool) (cs : List Component) : Record → Prop
  | tabulated {columns targets} :
      List.Forall₂ (StripeTable.IsColumn cs) (StripeTable.columns composite) columns →
      TablePart composite cs (columns ++ [⟨"ost", .sequence (List.map .uint64 targets)⟩])

inductive MetadataPart (type : EntryType) (e : NativeEntry L) : Record → Prop
  | striped {stripe} : type = .directory → e.directoryStripe = .ok stripe →
      stripe.targets.length < UInt32.size →
      MetadataPart type e
        [⟨"mdt_idx", .sequence (stripe.targets.map .uint32)⟩,
          ⟨"mdt_hash", .uint32 stripe.hash⟩,
          ⟨"mdt_count", .uint32 (.ofNat stripe.targets.length)⟩]
  | unstriped {operation} : type = .directory → e.directoryStripe = .error (.noData operation) →
      MetadataPart type e []
  | held {target} : type = .regular ∨ type = .other → e.metadataTarget = .ok target →
      MetadataPart type e [⟨"mdt_index", .int32 target⟩]
  | skipped : type = .symlink → MetadataPart type e []

variable [LayoutAccess L] [HeedfulLayout L]

/-- The components that are recorded of a layout: its only one, or those that are handed over once
the first is current. -/
def recordedComponents (layout : L) : List Component :=
  if LayoutAccess.isComposite layout then
    match LayoutAccess.select .last layout >>= LayoutAccess.select .first with
    | .ok first => HeedfulLayout.visited first
    | .error _ => []
  else [LayoutAccess.current layout]

def poolsOctets (type : EntryType) (e : NativeEntry L) : Nat :=
  match type with
  | .symlink => 0
  | _ =>
    match e.layout with
    | .ok layout => ((recordedComponents layout).map StripeTable.poolOctets).sum
    | .error _ => 0

theorem poolsOctets_of_ne_symlink {type : EntryType} {e : NativeEntry L} {layout : L}
    (h : type ≠ .symlink) (hlayout : e.layout = .ok layout) :
    poolsOctets type e = ((recordedComponents layout).map StripeTable.poolOctets).sum := by
  cases type with
  | symlink => exact absurd rfl h
  | _ => simp only [poolsOctets, hlayout]

def octets (type : EntryType) (e : NativeEntry L) : Nat :=
  Fid.size + formatOctets type e + poolsOctets type e

/-- No more room than this is ever asked for to list the targets of a layout. -/
def slots (layout : L) : Nat :=
  UInt32.size + StripeTable.maxStripeCount.toNat +
    ((recordedComponents layout).map
      (StripeTable.roomOf (LayoutAccess.isComposite layout))).sum

/-- The memory has room for the targets of the layout. -/
def Roomy (e : NativeEntry L) : Prop :=
  ∀ layout, e.layout = .ok layout → slots layout < Size.slotLimit

def compositeQueries (layout : L) : List (Option Fault) :=
  asking (LayoutAccess.mirrorCount layout) fun _ =>
    asking (LayoutAccess.select .last layout) fun last =>
      asking (LayoutAccess.componentId last) fun _ =>
        asking (LayoutAccess.select .first last) fun first =>
          (HeedfulLayout.visited first).flatMap (StripeTable.componentQueries true) ++
            [faultOf (HeedfulLayout.ending first)]

def componentsQueries (layout : L) : List (Option Fault) :=
  if LayoutAccess.isComposite layout then compositeQueries layout
  else StripeTable.componentQueries false (LayoutAccess.current layout)

def layoutQueries (type : EntryType) (e : NativeEntry L) : List (Option Fault) :=
  match type with
  | .symlink => []
  | _ =>
    asking e.layout fun layout =>
      asking (LayoutAccess.flags layout) fun _ => headerQueries type e ++ componentsQueries layout

theorem layoutQueries_of_ne_symlink {type : EntryType} (h : type ≠ .symlink) (e : NativeEntry L) :
    layoutQueries type e =
      asking e.layout fun layout =>
        asking (LayoutAccess.flags layout) fun _ =>
          headerQueries type e ++ componentsQueries layout := by
  cases type with
  | symlink => exact absurd rfl h
  | _ => rfl

def queries (type : EntryType) (e : NativeEntry L) : List (Option Fault) :=
  [faultOf e.fid] ++ archiveQueries type e ++ layoutQueries type e ++ metadataQueries type e

inductive ComponentsPart (layout : L) : Record → Prop
  | plain {table} : LayoutAccess.isComposite layout = false →
      TablePart false [LayoutAccess.current layout] table → ComponentsPart layout table
  | composite {mirrors last first table} : LayoutAccess.isComposite layout = true →
      LayoutAccess.mirrorCount layout = .ok mirrors →
      LayoutAccess.select .last layout = .ok last →
      LayoutAccess.select .first last = .ok first →
      TablePart true (HeedfulLayout.visited first) table →
      ComponentsPart layout (⟨"mirror_count", .uint32 mirrors.toUInt32⟩ :: table)

inductive LayoutPart (type : EntryType) (e : NativeEntry L) : Record → Prop
  | laid {layout flags header components} : type ≠ .symlink → e.layout = .ok layout →
      LayoutAccess.flags layout = .ok flags → HeaderPart type e header →
      ComponentsPart layout components →
      LayoutPart type e (⟨"flags", .uint32 flags⟩ :: (header ++ components))
  | skipped : type = .symlink → LayoutPart type e []

inductive Parts (type : EntryType) (e : NativeEntry L) : Record → Prop
  | joined {fid archive layout metadata} : FidPart e fid → ArchivePart type e archive →
      LayoutPart type e layout → MetadataPart type e metadata →
      Parts type e (fid ++ (archive ++ (layout ++ metadata)))

end Foretold

section Producers

variable {L : Type} {roomy : Prop} {type : EntryType} {e : NativeEntry L} {layout : L}

theorem produces_emitFid : Produces roomy Fid.size [faultOf e.fid] (FidPart e) (emitFid e) := by
  apply produces_last_query
  intro fid h
  rw [← fid.length_bytes]
  exact produces_pushed (.stored h)

theorem produces_emitArchive :
    Produces roomy 0 (archiveQueries type e) (ArchivePart type e) (emitArchive type e) := by
  cases type with
  | regular =>
    apply produces_last_query
    intro state h
    exact produces_emit (.known rfl h)
  | _ => exact produces_pure (.skipped nofun)

theorem produces_emitHeader :
    Produces roomy (formatOctets type e) (headerQueries type e) (HeaderPart type e)
      (emitHeader type e) := by
  cases type with
  | regular =>
    apply produces_query
    intro raw hraw
    apply produces_last_query
    intro header hheader
    have hname : formatOctets .regular e = (Bytes.ofText header.format.name).length := by
      simp [formatOctets, hraw, hheader, bind, Except.bind]
    rw [hname]
    have hkept : Produces roomy (Bytes.ofText header.format.name).length []
        (· = [⟨"magic", .text header.format.name⟩]) (emitText "magic" header.format.name) :=
      produces_pushed rfl
    have hgen : Produces roomy 0 [] (fun t => HeaderPart .regular e
        ([⟨"magic", .text header.format.name⟩] ++ t))
        (Scan.emit [⟨"gen", .uint32 header.generation⟩]) :=
      produces_emit (.decoded rfl hraw hheader)
    exact hkept.bind fun s hs => hs ▸ hgen
  | _ => exact produces_pure (.skipped nofun)

/-- Shards are counted once the stripe of a directory is known, behind all queries. -/
theorem produces_emitMetadata :
    Produces roomy 0 (metadataQueries type e ++ [shardFault type e]) (MetadataPart type e)
      (emitMetadata type e) := by
  cases type with
  | directory =>
    cases hd : e.directoryStripe with
    | ok stripe =>
      simp only [metadataQueries, shardFault, emitMetadata, emitStripe, hd]
      by_cases hshards : stripe.targets.length < UInt32.size
      · simp only [if_pos hshards]
        exact (produces_emit (.striped rfl hd hshards)).answered.answered
      · simp only [if_neg hshards]
        exact (produces_throw _).answered
    | error f =>
      simp only [metadataQueries, shardFault, emitMetadata, hd]
      cases f with
      | noData operation => exact (produces_pure (.unstriped rfl hd)).answered.then_none
      | _ => exact (produces_throw _).then_none
  | symlink => exact (produces_pure (.skipped rfl)).then_none
  | regular =>
    apply Produces.then_none
    apply produces_last_query
    intro target h
    exact produces_emit (.held (.inl rfl) h)
  | other =>
    apply Produces.then_none
    apply produces_last_query
    intro target h
    exact produces_emit (.held (.inr rfl) h)

theorem tablePart_of_fills {composite : Bool} {room : Nat} {cs : List Component}
    {queries : List (Option Fault)} {spent : Nat} {after : StripeTable}
    (h : StripeTable.Fills ⟨composite, #[], ⟨#[], room⟩⟩ cs queries spent (.ok ()) after) :
    TablePart composite cs after.attributes := by
  obtain ⟨rows, hrows, hanswers⟩ := h.rows rfl
  have hcomposite : after.composite = composite := h.composite
  have hnew : after.rows.toList = rows := by simpa using hrows
  have hall : List.Forall₂ (StripeTable.Answers after.composite) cs after.rows.toList := by
    rwa [hnew, hcomposite]
  obtain ⟨columns, hcolumns, hall⟩ := StripeTable.attributes_of_answers hall
  rw [hcolumns, ← hcomposite]
  exact .tabulated hall

variable [LayoutAccess L] [HeedfulLayout L]

theorem produces_emitPlain (hc : LayoutAccess.isComposite layout = false)
    (hroomy : roomy → slots layout < Size.slotLimit) :
    Produces roomy ((recordedComponents layout).map StripeTable.poolOctets).sum
      (componentsQueries layout) (ComponentsPart layout) (emitPlain layout) := by
  have hcs : recordedComponents layout = [LayoutAccess.current layout] := by
    simp [recordedComponents, hc]
  have hqueries : componentsQueries layout =
      StripeTable.componentQueries false (LayoutAccess.current layout) := by
    simp [componentsQueries, hc]
  -- a plain table starts with room for one component, which is less than a composite one may have
  have hone : 1 ≤ UInt32.size := by decide
  simp only [slots, hcs, hc] at hroomy
  rw [hcs, hqueries, emitPlain]
  apply produces_withRoom (by decide)
  apply produces_emitTable
  case hroom =>
    intro h
    have hslots := hroomy h
    simp only
    omega
  case hvisit => exact StripeTable.record_fills _ (Nat.zero_le _)
  case hshape => exact fun spent after h => .plain hc (tablePart_of_fills h)

theorem produces_emitComposite (hc : LayoutAccess.isComposite layout = true)
    (hroomy : roomy → slots layout < Size.slotLimit) :
    Produces roomy ((recordedComponents layout).map StripeTable.poolOctets).sum
      (componentsQueries layout) (ComponentsPart layout) (emitComposite layout) := by
  have hqueries : componentsQueries layout = compositeQueries layout := by
    simp [componentsQueries, hc]
  rw [hqueries]
  apply produces_query
  intro mirrors hmirrors
  apply produces_emit_bind
  apply produces_query
  intro last hlast
  apply produces_query
  intro id hid
  apply produces_query
  intro first hfirst
  have hcs : recordedComponents layout = HeedfulLayout.visited first := by
    simp [recordedComponents, hc, hlast, hfirst, bind, Except.bind]
  have hlt : id.toNat < UInt32.size := id.toNat_lt
  have hlimit : UInt32.size < Size.slotLimit := by decide
  simp only [slots, hcs, hc] at hroomy
  rw [hcs, HeedfulLayout.iterate_eq_visitAll]
  apply produces_withRoom (Nat.lt_trans hlt hlimit)
  apply produces_emitTable
  case hroom =>
    intro h
    have hslots := hroomy h
    simp only
    omega
  case hvisit => exact StripeTable.visitAll_then_fills _ _ (Nat.zero_le _)
  case hshape =>
    exact fun spent after h => .composite hc hmirrors hlast hfirst (tablePart_of_fills h)

theorem produces_emitComponents (hroomy : roomy → slots layout < Size.slotLimit) :
    Produces roomy ((recordedComponents layout).map StripeTable.poolOctets).sum
      (componentsQueries layout) (ComponentsPart layout)
      (if LayoutAccess.isComposite layout then emitComposite layout else emitPlain layout) := by
  by_cases hc : LayoutAccess.isComposite layout = true
  · rw [if_pos hc]
    exact produces_emitComposite hc hroomy
  · rw [if_neg hc]
    exact produces_emitPlain (Bool.not_eq_true _ ▸ hc) hroomy

theorem produces_emitLayout :
    Produces (Roomy e) (formatOctets type e + poolsOctets type e) (layoutQueries type e)
      (LayoutPart type e) (emitLayout type e) := by
  by_cases htype : type = .symlink
  · subst htype
    exact produces_pure (.skipped rfl)
  · rw [layoutQueries_of_ne_symlink htype, emitLayout_of_ne_symlink htype]
    apply produces_query
    intro layout hlayout
    apply produces_query
    intro flags hflags
    apply produces_emit_bind
    rw [poolsOctets_of_ne_symlink htype hlayout]
    apply produces_emitHeader.bind
    intro header hheader
    apply (produces_emitComponents fun hroomy => hroomy layout hlayout).mono
    intro components hcomponents
    have hlaid := LayoutPart.laid htype hlayout hflags hheader hcomponents
    exact hlaid

/-- The whole extraction: what it asks for, what it takes up and what it appends. -/
theorem produces_emitAll (type : EntryType) (e : NativeEntry L) :
    Produces (Roomy e) (octets type e) (queries type e ++ [shardFault type e]) (Parts type e)
      (emitAll type e) := by
  have hall : Produces (Roomy e) (Fid.size + (0 + ((formatOctets type e + poolsOctets type e) + 0)))
      ([faultOf e.fid] ++ (archiveQueries type e ++ (layoutQueries type e ++
        (metadataQueries type e ++ [shardFault type e]))))
      (Parts type e) (emitAll type e) := by
    apply produces_emitFid.bind
    intro fid hfid
    apply produces_emitArchive.bind
    intro archive harchive
    apply produces_emitLayout.bind
    intro layout hlayout
    apply produces_emitMetadata.mono
    intro metadata hmetadata
    exact .joined hfid harchive hlayout hmetadata
  simpa only [octets, queries, Nat.zero_add, Nat.add_zero, Nat.add_assoc, List.append_assoc] using
    hall

end Producers

section Outcome

variable {L : Type} [LayoutAccess L] {type : EntryType} {e : NativeEntry L} {arena : Arena}
  {after : Scan}

/-- An arena that is over its limit from the start does not even take a fid. -/
theorem fits_of_emitAll (h : emitAll type e ⟨[], arena⟩ = (.ok (), after)) :
    arena.fits 0 = true := by
  cases hfits : arena.fits Fid.size with
  | true => exact Arena.fits_mono (Nat.zero_le _) hfits
  | false =>
    cases hfid : e.fid with
    | error f =>
      simp only [emitAll, emitFid, hfid, Attempt.bind_apply, Attempt.liftExcept_apply] at h
      cases h
    | ok fid =>
      rw [← fid.length_bytes] at hfits
      simp only [emitAll, emitFid, emitBinary, hfid, Attempt.bind_apply, Attempt.liftExcept_apply,
        Scan.onArena_apply, Arena.push_of_not_fits hfits] at h
      cases h

/-- What succeeds in one arena takes up the foretold octets and appends the same parts in every other
arena that takes them. -/
theorem emitAll_ok [HeedfulLayout L] (h : emitAll type e ⟨[], arena⟩ = (.ok (), after)) :
    Spends Scan.mk (emitAll type e) [] (octets type e) (.ok ()) after.record ∧
      Parts type e after.record := by
  obtain ⟨spent, outcome, part, hspends, hyields⟩ := produces_emitAll type e []
  cases hfits : arena.fits spent with
  | false =>
    obtain ⟨part, left, -, hrun⟩ := hspends.refused arena (fits_of_emitAll h) hfits
    rw [hrun] at h
    cases h
  | true =>
    rw [hspends.afforded arena hfits, Prod.mk.injEq] at h
    obtain ⟨rfl, rfl⟩ := h
    rw [hyields.spent_eq rfl] at hspends
    exact ⟨hspends, hyields.shape rfl⟩

theorem emitAll_of_extract {mode : UInt32} {record : Record} {n : Nat}
    (h : Scan.extract e mode ⟨record, arena⟩ = (.ok n, after)) :
    ∃ alone, emitAll (.ofMode mode) e ⟨[], arena⟩ = (.ok (), alone) ∧ alone.record.length = n ∧
      after = ⟨record.settleExpiry.1 ++ alone.record, alone.arena⟩ := by
  rw [Scan.extract_apply] at h
  rcases hrun : emitAll (.ofMode mode) e ⟨[], arena⟩ with ⟨f | ⟨⟩, alone⟩ <;> rw [hrun] at h
  · cases h
  · rw [Prod.mk.injEq, Except.ok.injEq] at h
    exact ⟨alone, rfl, h.1, h.2.symm⟩

end Outcome

end Extraction

end FileCatalog

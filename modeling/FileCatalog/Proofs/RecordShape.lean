import FileCatalog.Proofs.Producers
import FileCatalog.Proofs.TargetBlocks

/-!
# The shape of a record

The parts that an extraction has appended are followed by their keys, which are just those that an
entry of its type calls for, and by what they hold, which is told by what the entry has answered. The
main statement is that a successful extraction appends attributes with these keys that hold just that.
-/

namespace FileCatalog

/-- The numbers of the fid one after the other, each with its least significant octet first. -/
structure Fid.StoredIn (f : Fid) (octets : Bytes) : Prop where
  length : octets.length = 16
  sequence : Bytes.toNat (octets.take 8) = f.sequence.toNat
  object : Bytes.toNat ((octets.drop 8).take 4) = f.object.toNat
  version : Bytes.toNat (octets.drop 12) = f.version.toNat

theorem Fid.storedIn_bytes (f : Fid) : f.StoredIn f.bytes := by
  have hsequence : f.sequence.toNat < 1 <<< (8 * 8) := f.sequence.toNat_lt
  have hobject : f.object.toNat < 1 <<< (8 * 4) := f.object.toNat_lt
  have hversion : f.version.toNat < 1 <<< (8 * 4) := f.version.toNat_lt
  have hdrop : f.bytes.drop 8 = Bytes.ofNat 4 f.object.toNat ++ Bytes.ofNat 4 f.version.toNat := by
    rw [bytes, List.append_assoc, List.drop_left' (Bytes.length_ofNat 8 _)]
  constructor
  case length => exact f.length_bytes
  case sequence =>
    rw [bytes, List.append_assoc, List.take_left' (Bytes.length_ofNat 8 _), Bytes.toNat_ofNat,
      Nat.mod_eq_of_lt hsequence]
  case object =>
    rw [hdrop, List.take_left' (Bytes.length_ofNat 4 _), Bytes.toNat_ofNat,
      Nat.mod_eq_of_lt hobject]
  case version =>
    have hlast : f.bytes.drop 12 = (f.bytes.drop 8).drop 4 := by rw [List.drop_drop]
    rw [hlast, hdrop, List.drop_left' (Bytes.length_ofNat 4 _), Bytes.toNat_ofNat,
      Nat.mod_eq_of_lt hversion]

namespace Extraction

open StripeTable (IsColumn columns)

/-! ## Keys -/

section Keys

variable {L : Type} {type : EntryType} {e : NativeEntry L} {part : Record}

theorem FidPart.keys (h : FidPart e part) : part.keys = ["fid"] := by
  cases h
  rfl

theorem ArchivePart.keys (h : ArchivePart type e part) :
    part.keys = if type = .regular then ["hsm_state", "hsm_archive_id"] else [] := by
  cases h with
  | known htype _ => rw [if_pos htype]; rfl
  | skipped htype => rw [if_neg htype]; rfl

theorem HeaderPart.keys (h : HeaderPart type e part) :
    part.keys = if type = .regular then ["magic", "gen"] else [] := by
  cases h with
  | decoded htype _ _ => rw [if_pos htype]; rfl
  | skipped htype => rw [if_neg htype]; rfl

theorem keys_of_isColumn {cs : List Component}
    {columns : List (String × (Component → Except Fault AttrValue))} {attributes : Record}
    (h : List.Forall₂ (IsColumn cs) columns attributes) :
    attributes.keys = columns.map Prod.fst := by
  induction h with
  | nil => rfl
  | cons hcolumn _ ih => rw [Record.keys, List.map_cons, List.map_cons, hcolumn.1, ← ih, Record.keys]

theorem TablePart.keys {composite : Bool} {cs : List Component} (h : TablePart composite cs part) :
    part.keys = tableKeys composite := by
  cases h with
  | tabulated hcolumns =>
    rw [Record.keys_append, keys_of_isColumn hcolumns]
    cases composite <;> rfl

theorem MetadataPart.keys (h : MetadataPart type e part) :
    part.keys = metadataKeys type e.isStriped := by
  unfold NativeEntry.isStriped
  cases h with
  | striped htype hstripe _ => rw [htype, hstripe]; rfl
  | unstriped htype hstripe => rw [htype, hstripe]; rfl
  | held htype _ => rcases htype with htype | htype <;> rw [htype] <;> rfl
  | skipped htype => rw [htype]; rfl

variable [LayoutAccess L] [HeedfulLayout L] {layout : L}

theorem ComponentsPart.keys (h : ComponentsPart layout part) :
    part.keys =
      (if LayoutAccess.isComposite layout then ["mirror_count"] else []) ++
        tableKeys (LayoutAccess.isComposite layout) := by
  cases h with
  | plain hc htable => rw [htable.keys, hc]; rfl
  | composite hc _ _ _ htable => rw [Record.keys, List.map_cons, ← Record.keys, htable.keys, hc]; rfl

theorem LayoutPart.keys (h : LayoutPart type e part) :
    part.keys = if type = .symlink then [] else layoutKeys type e.hasComposite := by
  cases h with
  | skipped htype => rw [if_pos htype]; rfl
  | laid htype hlayout _ hheader hcomponents =>
    rw [if_neg htype, Record.keys, List.map_cons, ← Record.keys, Record.keys_append, hheader.keys,
      hcomponents.keys]
    simp [layoutKeys, tableKeys, NativeEntry.hasComposite, hlayout]

theorem Parts.keys (h : Parts type e part) :
    part.keys = attributeKeys type e.hasComposite e.isStriped := by
  cases h with
  | joined hfid harchive hlayout hmetadata =>
    simp only [Record.keys_append, hfid.keys, harchive.keys, hlayout.keys, hmetadata.keys,
      attributeKeys, List.append_assoc]

end Keys

/-! ## Values -/

section Parts

variable {L : Type} {type : EntryType} {e : NativeEntry L} {part : Record}

theorem HeaderPart.describes (h : HeaderPart type e part) (htype : type = .regular) :
    ∃ raw header, e.xattr layoutXattr = .ok raw ∧ Layout.Header.decode raw = .ok header ∧
      ⟨"magic", .text header.format.name⟩ ∈ part ∧ ⟨"gen", .uint32 header.generation⟩ ∈ part := by
  cases h with
  | decoded _ hraw hheader => exact ⟨_, _, hraw, hheader, by simp, by simp⟩
  | skipped hother => exact absurd htype hother

theorem ArchivePart.describes (h : ArchivePart type e part) (htype : type = .regular) :
    ∃ state, e.archiveState = .ok state ∧ ⟨"hsm_state", .uint32 state.states⟩ ∈ part ∧
      ⟨"hsm_archive_id", .uint32 state.archive⟩ ∈ part := by
  cases h with
  | known _ hstate => exact ⟨_, hstate, by simp, by simp⟩
  | skipped hother => exact absurd htype hother

theorem MetadataPart.stripe (h : MetadataPart type e part) (htype : type = .directory)
    {stripe : DirectoryStripe} (hstripe : e.directoryStripe = .ok stripe) :
    ∃ count, ⟨"mdt_idx", .sequence (stripe.targets.map .uint32)⟩ ∈ part ∧
      ⟨"mdt_hash", .uint32 stripe.hash⟩ ∈ part ∧ ⟨"mdt_count", .uint32 count⟩ ∈ part ∧
      count.toNat = stripe.targets.length := by
  cases h with
  | @striped answered _ hanswer hshards =>
    obtain rfl : answered = stripe := Except.ok.inj (hanswer.symm.trans hstripe)
    have hcount := UInt32.toNat_ofNat_of_lt hshards
    exact ⟨.ofNat answered.targets.length, by simp, by simp, by simp, hcount⟩
  | unstriped _ hanswer => rw [hanswer] at hstripe; contradiction
  | held hother _ => rcases hother with hother | hother <;> simp [htype] at hother
  | skipped hother => simp [htype] at hother

theorem MetadataPart.target (h : MetadataPart type e part) (htype : type = .regular ∨ type = .other) :
    ∃ target, e.metadataTarget = .ok target ∧ ⟨"mdt_index", .int32 target⟩ ∈ part := by
  cases h with
  | held _ htarget => exact ⟨_, htarget, List.mem_cons_self⟩
  | striped hother => simp [hother] at htype
  | unstriped hother => simp [hother] at htype
  | skipped hother => simp [hother] at htype

end Parts

section Values

variable {L : Type} [LayoutAccess L] [LawfulLayout L]

def allComponents (layout : L) : List Component :=
  if LayoutAccess.isComposite layout then LawfulLayout.components layout
  else [LayoutAccess.current layout]

/-- The record has what the layout answers, and one item for each of its components in every column
of the table. -/
structure DescribesLayout (layout : L) (r : Record) : Prop where
  flags : ∃ flags, LayoutAccess.flags layout = .ok flags ∧ ⟨"flags", .uint32 flags⟩ ∈ r
  mirrors : LayoutAccess.isComposite layout = true →
    ∃ mirrors count, LayoutAccess.mirrorCount layout = .ok mirrors ∧
      ⟨"mirror_count", .uint32 count⟩ ∈ r ∧ count.toNat = mirrors.toNat
  columns : ∀ column ∈ columns (LayoutAccess.isComposite layout),
    ∃ items, ⟨column.1, .sequence items⟩ ∈ r ∧ items.length = (allComponents layout).length ∧
      (allComponents layout).map column.2 = items.map .ok
  targets : ∃ targets, ⟨"ost", .sequence (List.map .uint64 targets)⟩ ∈ r

/-- The record has what the entry answers to the queries that its type calls for. -/
structure Describes (type : EntryType) (e : NativeEntry L) (r : Record) : Prop where
  fid : ∃ fid octets, e.fid = .ok fid ∧ ⟨"fid", .binary octets⟩ ∈ r ∧ fid.StoredIn octets
  archive : type = .regular → ∃ state, e.archiveState = .ok state ∧
    ⟨"hsm_state", .uint32 state.states⟩ ∈ r ∧ ⟨"hsm_archive_id", .uint32 state.archive⟩ ∈ r
  header : type = .regular → ∃ raw header, e.xattr layoutXattr = .ok raw ∧
    Layout.Header.decode raw = .ok header ∧
    ⟨"magic", .text header.format.name⟩ ∈ r ∧ ⟨"gen", .uint32 header.generation⟩ ∈ r
  layout : type ≠ .symlink → ∃ layout, e.layout = .ok layout ∧ DescribesLayout layout r
  stripe : type = .directory → ∀ stripe, e.directoryStripe = .ok stripe →
    ∃ count, ⟨"mdt_idx", .sequence (stripe.targets.map .uint32)⟩ ∈ r ∧
      ⟨"mdt_hash", .uint32 stripe.hash⟩ ∈ r ∧ ⟨"mdt_count", .uint32 count⟩ ∈ r ∧
      count.toNat = stripe.targets.length
  target : type = .regular ∨ type = .other → ∃ target, e.metadataTarget = .ok target ∧
    ⟨"mdt_index", .int32 target⟩ ∈ r

variable {type : EntryType} {e : NativeEntry L} {layout : L} {part r : Record}

theorem exists_item_of_isColumn {cs : List Component}
    {columns : List (String × (Component → Except Fault AttrValue))} {attributes : Record}
    (h : List.Forall₂ (IsColumn cs) columns attributes) :
    ∀ column ∈ columns, ∃ items, ⟨column.1, .sequence items⟩ ∈ attributes ∧
      items.length = cs.length ∧ cs.map column.2 = items.map .ok := by
  induction h with
  | nil => exact nofun
  | @cons column a columns attributes hcolumn _ ih =>
    intro other hother
    rcases List.mem_cons.mp hother with rfl | hother
    · obtain ⟨hkey, items, hvalue, hitems⟩ := hcolumn
      have hlength := congrArg List.length hitems
      rw [List.length_map, List.length_map] at hlength
      refine ⟨items, ?_, hlength.symm, hitems⟩
      rw [← hkey, ← hvalue]
      exact List.mem_cons_self
    · obtain ⟨items, hmem, hitems⟩ := ih other hother
      exact ⟨items, List.mem_cons_of_mem _ hmem, hitems⟩

theorem visited_of_selected {last first : L} (hc : LayoutAccess.isComposite layout = true)
    (hlast : LayoutAccess.select .last layout = .ok last)
    (hfirst : LayoutAccess.select .first last = .ok first) :
    HeedfulLayout.visited first = allComponents layout := by
  rw [LawfulLayout.visited_of_first hfirst, LawfulLayout.components_of_select hfirst,
    LawfulLayout.components_of_select hlast, allComponents, if_pos hc]

theorem TablePart.columns {composite : Bool} {cs : List Component}
    (h : TablePart composite cs part) :
    ∀ column ∈ StripeTable.columns composite, ∃ items, ⟨column.1, .sequence items⟩ ∈ part ∧
      items.length = cs.length ∧ cs.map column.2 = items.map .ok := by
  cases h with
  | tabulated hcolumns =>
    intro column hcolumn
    obtain ⟨items, hmem, hitems⟩ := exists_item_of_isColumn hcolumns column hcolumn
    exact ⟨items, List.mem_append_left _ hmem, hitems⟩

theorem TablePart.targets {composite : Bool} {cs : List Component}
    (h : TablePart composite cs part) :
    ∃ targets, ⟨"ost", .sequence (List.map .uint64 targets)⟩ ∈ part := by
  cases h with
  | tabulated _ => exact ⟨_, List.mem_append_right _ List.mem_cons_self⟩

theorem ComponentsPart.describes (h : ComponentsPart layout part) (hpart : part ⊆ r)
    (hflags : ∃ flags, LayoutAccess.flags layout = .ok flags ∧ ⟨"flags", .uint32 flags⟩ ∈ r) :
    DescribesLayout layout r := by
  cases h with
  | plain hc htable =>
    obtain ⟨targets, htargets⟩ := htable.targets
    refine ⟨hflags, fun h => absurd h (by simp [hc]), ?_, targets, hpart htargets⟩
    intro column hcolumn
    rw [hc] at hcolumn
    obtain ⟨items, hmem, hitems⟩ := htable.columns column hcolumn
    have hcs : allComponents layout = [LayoutAccess.current layout] := by simp [allComponents, hc]
    rw [hcs]
    exact ⟨items, hpart hmem, hitems⟩
  | @composite mirrors last first table hc hmirrors hlast hfirst htable =>
    have htail : table ⊆ r := fun _ ha => hpart (List.mem_cons_of_mem _ ha)
    obtain ⟨targets, htargets⟩ := htable.targets
    refine ⟨hflags, fun _ => ?_, ?_, targets, htail htargets⟩
    · exact ⟨mirrors, mirrors.toUInt32, hmirrors, hpart List.mem_cons_self, rfl⟩
    · intro column hcolumn
      rw [hc] at hcolumn
      obtain ⟨items, hmem, hitems⟩ := htable.columns column hcolumn
      rw [visited_of_selected hc hlast hfirst] at hitems
      exact ⟨items, htail hmem, hitems⟩

theorem Parts.describes (h : Parts type e r) : Describes type e r := by
  cases h with
  | @joined fid archive layoutPart metadata hfid harchive hlayout hmetadata =>
    have hinArchive : archive ⊆ fid ++ (archive ++ (layoutPart ++ metadata)) :=
      List.subset_append_of_subset_right _ (List.subset_append_left _ _)
    have hinLayout : layoutPart ⊆ fid ++ (archive ++ (layoutPart ++ metadata)) :=
      List.subset_append_of_subset_right _
        (List.subset_append_of_subset_right _ (List.subset_append_left _ _))
    have hinMetadata : metadata ⊆ fid ++ (archive ++ (layoutPart ++ metadata)) :=
      List.subset_append_of_subset_right _
        (List.subset_append_of_subset_right _ (List.subset_append_right _ _))
    constructor
    case fid =>
      cases hfid with
      | stored hfid => exact ⟨_, _, hfid, List.mem_cons_self, Fid.storedIn_bytes _⟩
    case archive =>
      intro htype
      obtain ⟨state, hstate, hstates, hid⟩ := harchive.describes htype
      exact ⟨state, hstate, hinArchive hstates, hinArchive hid⟩
    case header =>
      intro htype
      cases hlayout with
      | skipped hother => simp [hother] at htype
      | @laid layout flags header components _ _ _ hheader _ =>
        obtain ⟨raw, decoded, hraw, hdecoded, hmagic, hgen⟩ := hheader.describes htype
        have hinHeader : header ⊆ ⟨"flags", .uint32 flags⟩ :: (header ++ components) :=
          List.subset_cons_of_subset _ (List.subset_append_left _ _)
        exact ⟨raw, decoded, hraw, hdecoded, hinLayout (hinHeader hmagic),
          hinLayout (hinHeader hgen)⟩
    case layout =>
      intro htype
      cases hlayout with
      | skipped hother => exact absurd hother htype
      | @laid layout flags header components _ hanswer hflags _ hcomponents =>
        have hinComponents : components ⊆ ⟨"flags", .uint32 flags⟩ :: (header ++ components) :=
          List.subset_cons_of_subset _ (List.subset_append_right _ _)
        refine ⟨layout, hanswer, hcomponents.describes (fun a ha => ?_) ⟨flags, hflags, ?_⟩⟩
        · exact hinLayout (hinComponents ha)
        · exact hinLayout List.mem_cons_self
    case stripe =>
      intro htype stripe hstripe
      obtain ⟨count, hidx, hhash, hcount, hlength⟩ := hmetadata.stripe htype hstripe
      exact ⟨count, hinMetadata hidx, hinMetadata hhash, hinMetadata hcount, hlength⟩
    case target =>
      intro htype
      obtain ⟨target, htarget, hmem⟩ := hmetadata.target htype
      exact ⟨target, htarget, hinMetadata hmem⟩

end Values

end Extraction

/-- A successful extraction appends as many attributes as it answers, within the most that an entry
has, under exactly the keys that the entry calls for and in their order, none of them twice. The
attributes hold what the entry has answered, with one item for each component where there is one
for components. -/
theorem record_shape {L : Type} [LayoutAccess L] [LawfulLayout L] {e : NativeEntry L}
    {mode : UInt32} {record : Record} {arena : Arena} {n : Nat} {after : Scan}
    (h : Scan.extract e mode ⟨record, arena⟩ = (.ok n, after)) :
    ∃ produced, after.record = record.settleExpiry.1 ++ produced ∧ produced.length = n ∧
      n ≤ Extraction.maxAttributes ∧
      produced.keys = Extraction.attributeKeys (.ofMode mode) e.hasComposite e.isStriped ∧
      produced.keys.Nodup ∧
      Extraction.Describes (.ofMode mode) e produced := by
  obtain ⟨alone, hrun, rfl, rfl⟩ := Extraction.emitAll_of_extract h
  obtain ⟨-, hparts⟩ := Extraction.emitAll_ok hrun
  have hkeys := hparts.keys
  have hle := Extraction.length_attributeKeys_le (.ofMode mode) e.hasComposite e.isStriped
  have hnodup := Extraction.nodup_attributeKeys (.ofMode mode) e.hasComposite e.isStriped
  rw [← hkeys, Record.length_keys] at hle
  rw [← hkeys] at hnodup
  exact ⟨alone.record, rfl, rfl, hle, hkeys, hnodup, hparts.describes⟩

/-- A file with two mirrors, of which only the first is bound to its targets. -/
def mirroredFile : NativeEntry Scripted.Layout where
  fid := .ok ⟨0x200000401, 7, 0⟩
  archiveState := .ok ⟨9, 1⟩
  layout := .ok
    { flags := .ok 0
      composite := true
      mirrorCount := .ok 2
      components :=
        [⟨.ok 1, StripeTable.reporting 0x10 #[3, 4]⟩, ⟨.ok 2, StripeTable.reporting 0 #[5]⟩]
      current := 0
      refusal := fun _ => none
      ending := .ok () }
  xattr _ := .ok [0xD0, 0x0B, 0xD6, 0x0B, 0, 0, 0, 0, 5, 0, 0, 0]
  directoryStripe := .error (.noData "dir_stripe")
  metadataTarget := .ok 1

theorem record_shape_of_mirrored_file :
    let run := Scan.extract mirroredFile 0o100644 ⟨[], Arena.empty none⟩
    run.1 = .ok 17 ∧
      ∃ produced, run.2.record = produced ∧ produced.length = 17 ∧
        produced.keys = Extraction.attributeKeys .regular true false ∧ produced.keys.Nodup ∧
        Extraction.Describes .regular mirroredFile produced := by
  intro run
  have hrun : run.1 = .ok 17 := by rfl
  have htype : EntryType.ofMode 0o100644 = .regular := by decide
  obtain ⟨produced, hproduced, hlength, -, hkeys, hnodup, hdescribes⟩ :=
    record_shape (n := 17) (Prod.ext hrun rfl)
  rw [htype] at hkeys hdescribes
  exact ⟨hrun, produced, hproduced, hlength, hkeys, hnodup, hdescribes⟩

end FileCatalog

import FileCatalog.Entry
import FileCatalog.Layout.Header
import FileCatalog.Layout.StripeTable
import FileCatalog.NativeEntry
import FileCatalog.Record.Expiry

/-!
# Extraction

The attributes of an entry come from four producers, which run in a fixed order: the fid, the
archive state, the layout and the metadata targets. Which of them ask the entry anything depends on
the entry's type alone. The first query that fails fails the entry, with one exception: a directory
that has no stripe to report simply has no metadata attributes.

Producers append to the record that the scan carries from entry to entry, one attribute after the
other, so a failing one may leave some behind; the record is then cut back to where the entry began.
Octets and texts are pushed onto the arena on the way, and a failing entry keeps its share of it.
-/

namespace FileCatalog

/-- What a scan carries from entry to entry. -/
structure Scan where
  record : Record
  arena : Arena

namespace Scan

/-- Append attributes to the record. -/
def emit (attributes : Record) : Attempt Scan Unit :=
  modify fun scan => { scan with record := scan.record ++ attributes }

/-- Work on the arena of a scan. -/
def onArena {α : Type} (work : Attempt Arena α) : Attempt Scan α := fun scan =>
  let (outcome, arena) := work scan.arena
  (outcome, { scan with arena })

/-- Cut the record back to what it was if some work fails. -/
def rollingBack {α : Type} (work : Attempt Scan α) : Attempt Scan α := fun scan =>
  match work scan with
  | (.ok a, after) => (.ok a, after)
  | (.error f, after) => (.error f, { after with record := after.record.take scan.record.length })

@[simp] theorem emit_apply (attributes : Record) (scan : Scan) :
    emit attributes scan = (.ok (), ⟨scan.record ++ attributes, scan.arena⟩) := rfl

@[simp] theorem onArena_apply {α : Type} (work : Attempt Arena α) (scan : Scan) :
    onArena work scan = ((work scan.arena).1, ⟨scan.record, (work scan.arena).2⟩) := rfl

end Scan

namespace Extraction

open Scan (emit onArena)

variable {L : Type}

/-- No entry has more attributes than this. -/
def maxAttributes : Nat := 19

/-- Append an attribute whose octets are pushed onto the arena. -/
def emitBinary (key : String) (octets : Bytes) : Attempt Scan Unit := do
  onArena (Arena.push octets)
  emit [⟨key, .binary octets⟩]

/-- Append an attribute whose text is pushed onto the arena. -/
def emitText (key : String) (s : String) : Attempt Scan Unit := do
  onArena (Arena.pushText s)
  emit [⟨key, .text s⟩]

def emitFid (e : NativeEntry L) : Attempt Scan Unit := do
  let fid ← e.fid
  emitBinary "fid" fid.bytes

def emitArchive (type : EntryType) (e : NativeEntry L) : Attempt Scan Unit :=
  match type with
  | .regular => do
    let state ← e.archiveState
    emit [⟨"hsm_state", .uint32 state.states⟩, ⟨"hsm_archive_id", .uint32 state.archive⟩]
  | _ => pure ()

/-- Format and generation of the stored layout, which only regular files have. -/
def emitHeader (type : EntryType) (e : NativeEntry L) : Attempt Scan Unit :=
  match type with
  | .regular => do
    let header ← Layout.Header.decode (← e.xattr layoutXattr)
    emitText "magic" header.format.name
    emit [⟨"gen", .uint32 header.generation⟩]
  | _ => pure ()

/-- Run a visitor over a fresh table and append its attributes. -/
def emitTable (table : StripeTable) (visit : Attempt (StripeTable × Arena) Unit) :
    Attempt Scan Unit := do
  let table ← onArena fun arena =>
    let (outcome, (table, arena)) := visit (table, arena)
    (outcome.map fun _ => table, arena)
  emit table.attributes

variable [LayoutAccess L]

/-- A plain layout is its own only component. -/
def emitPlain (layout : L) : Attempt Scan Unit := do
  let table ← StripeTable.withRoom 1 false
  emitTable table (StripeTable.record (LayoutAccess.current layout))

/-- The identifier of the last component gives the room that the table starts with. The first
component is made current before the components are visited. -/
def emitComposite (layout : L) : Attempt Scan Unit := do
  let mirrors ← LayoutAccess.mirrorCount layout
  emit [⟨"mirror_count", .uint32 mirrors.toUInt32⟩]
  let layout ← LayoutAccess.select .last layout
  let last ← LayoutAccess.componentId layout
  let layout ← LayoutAccess.select .first layout
  let table ← StripeTable.withRoom last.toNat true
  emitTable table (LayoutAccess.iterate layout StripeTable.record)

def emitLayout (type : EntryType) (e : NativeEntry L) : Attempt Scan Unit :=
  match type with
  | .symlink => pure ()
  | _ => do
    let layout ← e.layout
    let flags ← LayoutAccess.flags layout
    emit [⟨"flags", .uint32 flags⟩]
    emitHeader type e
    if LayoutAccess.isComposite layout then emitComposite layout else emitPlain layout

theorem emitLayout_of_ne_symlink {type : EntryType} (h : type ≠ .symlink) (e : NativeEntry L) :
    emitLayout type e = (do
      let layout ← e.layout
      let flags ← LayoutAccess.flags layout
      emit [⟨"flags", .uint32 flags⟩]
      emitHeader type e
      if LayoutAccess.isComposite layout then emitComposite layout else emitPlain layout) := by
  cases type with
  | symlink => exact absurd rfl h
  | _ => rfl

/-- The shards of a directory are counted in 32 bits. -/
def emitStripe (stripe : DirectoryStripe) : Attempt Scan Unit :=
  let shards := stripe.targets.length
  if shards < UInt32.size then
    emit [⟨"mdt_idx", .sequence (stripe.targets.map .uint32)⟩,
      ⟨"mdt_hash", .uint32 stripe.hash⟩,
      ⟨"mdt_count", .uint32 (.ofNat shards)⟩]
  else
    throw (.invalidFormat "directory striping" (toString shards ++ " shards"))

def emitMetadata (type : EntryType) (e : NativeEntry L) : Attempt Scan Unit :=
  match type with
  | .directory =>
    match e.directoryStripe with
    | .ok stripe => emitStripe stripe
    | .error f => if f.isNoData then pure () else throw f
  | .symlink => pure ()
  | _ => do
    let target ← e.metadataTarget
    emit [⟨"mdt_index", .int32 target⟩]

/-- All producers, one after the other. -/
def emitAll (type : EntryType) (e : NativeEntry L) : Attempt Scan Unit := do
  emitFid e
  emitArchive type e
  emitLayout type e
  emitMetadata type e

end Extraction

namespace Scan

/-- Append the attributes of an entry to the record, settle the expiration date, and return how many
attributes were added. -/
def extract {L : Type} [LayoutAccess L] (e : NativeEntry L) (mode : UInt32) :
    Attempt Scan Nat := do
  let start := (← get).record.length
  rollingBack (Extraction.emitAll (.ofMode mode) e)
  modify fun scan => { scan with record := scan.record.settleExpiry.1 }
  return (← get).record.length - start

end Scan

end FileCatalog

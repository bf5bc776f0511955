import FileCatalog.Arena
import FileCatalog.Layout.Access
import FileCatalog.Layout.TargetList
import FileCatalog.Record

/-!
# Stripe tables

The components of a layout are recorded as the rows of a table, and the storage targets of all of
them one after the other in a single list. A component takes as many places of that list as it
reports targets, or one place for the mark `notBound` if it is not bound to targets yet, so that the
list can be cut up again with the stripe counts and flags of the rows.

A component becomes a row only once all its calls have answered. The targets that a failing
component has reported before it failed stay in the list.
-/

namespace FileCatalog

/-- The part of a file that a component of a composite layout covers, and in which mirror. -/
structure Segment where
  start : UInt64
  stop : UInt64
  mirror : UInt32
  deriving DecidableEq, Repr

structure StripeTable.Row where
  stripeCount : UInt64
  stripeSize : UInt64
  pattern : UInt64
  flags : UInt32
  pool : String
  /-- Present in the rows of composite layouts. -/
  segment : Option Segment
  deriving DecidableEq, Repr

structure StripeTable where
  composite : Bool
  rows : Array StripeTable.Row
  targets : TargetList
  deriving DecidableEq, Repr

namespace StripeTable

/-- What is listed in place of the targets of a component that is not bound to any. -/
def notBound : UInt64 := 0xFFFFFFFFFFFFFFFF

/-- No component is striped over more targets than this, so that a larger stripe count, which may
be a mark of its own, asks for no more room ahead of its targets. -/
def maxStripeCount : UInt64 := 2000

/-- An empty table with room for the given number of components. -/
def withRoom (components : Nat) (composite : Bool) : Except Fault StripeTable := do
  return ⟨composite, #[], ← TargetList.withCapacity components⟩

/-- Whether the targets of a component with the given flags are listed. In a composite layout the
flags must be the bound flag and nothing else. -/
def isBound (composite : Bool) (flags : UInt32) : Bool :=
  flags = Component.boundFlag || !composite

/-- The calls made before anything is recorded, in their order. -/
def readRow (c : Component) : Except Fault Row := do
  let stripeCount ← c.stripeCount
  let stripeSize ← c.stripeSize
  let pattern ← c.pattern
  let flags ← c.flags
  let pool ← c.pool
  return { stripeCount, stripeSize, pattern, flags, pool, segment := none }

def readSegment (c : Component) : Except Fault Segment := do
  let (start, stop) ← c.extent
  let mirror ← c.mirror
  return { start, stop, mirror }

/-- Make room for more targets. -/
def reserve (required : Nat) : Attempt TargetList Unit := do
  set (← (← get).withRoom required)

/-- List one target. -/
def list (target : UInt64) : Attempt TargetList Unit := do
  reserve 1
  modify fun l => l.push target

/-- List the targets of the given number of stripes, from `stripe` on, up to the first stripe
that has none. -/
def listStripes (target : UInt64 → Except Fault (Option UInt64)) :
    (count : Nat) → (stripe : UInt64) → Attempt TargetList Unit
  | 0, _ => pure ()
  | count + 1, stripe => do
    match ← target stripe with
    | none => pure ()
    | some t =>
      list t
      listStripes target count (stripe + 1)

/-- List the targets of a component, or the mark that it has none. -/
def listTargets (composite : Bool) (row : Row) (c : Component) : Attempt TargetList Unit := do
  if isBound composite row.flags then
    reserve (min row.stripeCount maxStripeCount).toNat
    listStripes c.target row.stripeCount.toNat 0
  else
    list notBound

/-- Work on the arena beside a table. -/
def onArena {α : Type} (work : Attempt Arena α) : Attempt (StripeTable × Arena) α :=
  fun (table, arena) =>
    let (outcome, arena) := work arena
    (outcome, (table, arena))

/-- Work on the targets of a table. -/
def onTargets {α : Type} (work : Attempt TargetList α) : Attempt (StripeTable × Arena) α :=
  fun (table, arena) =>
    let (outcome, targets) := work table.targets
    (outcome, ({ table with targets }, arena))

/-- Record one component. -/
def record (c : Component) : Attempt (StripeTable × Arena) Unit := do
  let composite := (← get).1.composite
  let row ← readRow c
  onArena (Arena.pushText row.pool)
  onTargets (listTargets composite row c)
  let segment ← if composite then some <$> readSegment c else pure none
  modify fun (table, arena) =>
    ({ table with rows := table.rows.push { row with segment } }, arena)

/-- One value for each row. -/
def column (table : StripeTable) (value : Row → AttrValue) : AttrValue :=
  .sequence (table.rows.toList.map value)

/-- One value for each row that has a segment. -/
def segmentColumn (table : StripeTable) (value : Segment → AttrValue) : AttrValue :=
  .sequence (table.rows.toList.filterMap fun row => row.segment.map value)

/-- The columns that only composite layouts have. -/
def segmentAttributes (table : StripeTable) : Record :=
  if table.composite then
    [⟨"mirror_id", table.segmentColumn fun s => .uint32 s.mirror⟩,
      ⟨"begin", table.segmentColumn fun s => .uint64 s.start⟩,
      ⟨"end", table.segmentColumn fun s => .uint64 s.stop⟩]
  else []

/-- The table by columns, followed by the list of all targets. -/
def attributes (table : StripeTable) : Record :=
  [⟨"stripe_count", table.column fun row => .uint64 row.stripeCount⟩,
    ⟨"stripe_size", table.column fun row => .uint64 row.stripeSize⟩,
    ⟨"pattern", table.column fun row => .uint64 row.pattern⟩,
    ⟨"comp_flags", table.column fun row => .uint32 row.flags⟩,
    ⟨"pool", table.column fun row => .text row.pool⟩] ++
  table.segmentAttributes ++
  [⟨"ost", .sequence (table.targets.values.toList.map .uint64)⟩]

end StripeTable

end FileCatalog

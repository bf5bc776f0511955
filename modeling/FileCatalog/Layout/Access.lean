import FileCatalog.Attempt

/-!
# Access to layouts

A layout is reached through native calls, each of which may fail. It has one or more components, of
which one is current; the component calls on a layout answer for the current one. The components
of a composite layout are handed one after the other to a visitor, which may refuse one of them.
-/

namespace FileCatalog

/-- What the native calls answer for one component. -/
structure Component where
  stripeCount : Except Fault UInt64
  stripeSize : Except Fault UInt64
  pattern : Except Fault UInt64
  flags : Except Fault UInt32
  /-- The name of the pool, empty if there is none. -/
  pool : Except Fault String
  /-- The target that holds a stripe, or nothing when there are no more stripes to report, which
  may be before the stripe count is reached. -/
  target : UInt64 → Except Fault (Option UInt64)
  /-- The part of the file that the component covers. -/
  extent : Except Fault (UInt64 × UInt64)
  mirror : Except Fault UInt32

namespace Component

/-- The flag of a component that is bound to storage targets. -/
def boundFlag : UInt32 := 0x10

end Component

/-- The two components that can be made current. -/
inductive Layout.Place where
  | first
  | last
  deriving DecidableEq, Repr

/-- The native calls on a layout. Selecting a component yields the layout with that component
current. -/
class LayoutAccess (L : Type) where
  flags : L → Except Fault UInt32
  isComposite : L → Bool
  mirrorCount : L → Except Fault UInt16
  select : Layout.Place → L → Except Fault L
  componentId : L → Except Fault UInt32
  /-- The current component. -/
  current : L → Component
  /-- Hand the components to a visitor. -/
  iterate {σ : Type} : L → (Component → Attempt σ Unit) → Attempt σ Unit

/-- Visit components in order, up to the first that the visitor refuses. -/
def visitAll {σ : Type} (visit : Component → Attempt σ Unit) : List Component → Attempt σ Unit
  | [] => pure ()
  | c :: cs => do
    visit c
    visitAll visit cs

end FileCatalog

import FileCatalog.Layout.Access

/-!
# Scripted layouts

A scripted layout answers every native call from a list of components written down in advance. It
obeys the rules that readers of layouts rely on: selecting moves the current component, and the
components are visited from the current one to the last, up to the first that is refused.
-/

namespace FileCatalog.Scripted

structure LayoutComponent where
  id : Except Fault UInt32
  calls : Component

/-- What the calls answer when no component is current. -/
def noComponent : Fault := .noData "component"

def LayoutComponent.absent : LayoutComponent where
  id := .error noComponent
  calls :=
    { stripeCount := .error noComponent
      stripeSize := .error noComponent
      pattern := .error noComponent
      flags := .error noComponent
      pool := .error noComponent
      target := fun _ => .error noComponent
      extent := .error noComponent
      mirror := .error noComponent }

structure Layout where
  flags : Except Fault UInt32
  composite : Bool
  mirrorCount : Except Fault UInt16
  components : List LayoutComponent
  /-- The index of the current component. -/
  current : Nat
  /-- Why a selection fails, if it does. -/
  refusal : FileCatalog.Layout.Place → Option Fault
  /-- How a visit of all components ends. -/
  ending : Except Fault Unit

namespace Layout

def currentComponent (l : Layout) : LayoutComponent := l.components[l.current]?.getD .absent

def select (place : FileCatalog.Layout.Place) (l : Layout) : Except Fault Layout :=
  match l.refusal place with
  | some f => .error f
  | none =>
    if l.components.isEmpty then .error (.noData "select")
    else
      match place with
      | .first => .ok { l with current := 0 }
      | .last => .ok { l with current := l.components.length - 1 }

/-- The components that a visit hands over. -/
def visited (l : Layout) : List Component :=
  (l.components.drop l.current).map LayoutComponent.calls

def iterate {σ : Type} (l : Layout) (visit : Component → Attempt σ Unit) : Attempt σ Unit := do
  visitAll visit l.visited
  l.ending

instance : LayoutAccess Layout where
  flags := flags
  isComposite := composite
  mirrorCount := mirrorCount
  select := select
  componentId l := l.currentComponent.id
  current l := l.currentComponent.calls
  iterate := iterate

end Layout

/-- The targets written down for the first stripes, and none for the others. -/
def listedTargets (answers : Array (Except Fault (Option UInt64))) (stripe : UInt64) :
    Except Fault (Option UInt64) :=
  answers[stripe.toNat]?.getD (.ok none)

/-- Consecutive targets from `first` on for the first `count` stripes. -/
def consecutiveTargets (first count : UInt64) (stripe : UInt64) : Except Fault (Option UInt64) :=
  .ok (if stripe < count then some (first + stripe) else none)

end FileCatalog.Scripted

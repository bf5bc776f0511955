import FileCatalog.Scripted.Layout

/-!
# Tours of layouts

Handing components over is a conversation: the native side hands one over, hears whether the visitor
has refused it, and goes on or ends. A tour is such a conversation from the native side, and all
that a layout can do with a visitor is to follow one. What readers of layouts rely on is more: a tour
ends at the first refusal with that refusal, which `HeedfulLayout` says, and once the first component
is current it goes through all components in their order, which `LawfulLayout` adds. Scripted layouts
are lawful.
-/

namespace FileCatalog

/-- How components are handed over, by what the visitor answers to each. -/
inductive Tour where
  | ended (ending : Except Fault Unit)
  | handOver (c : Component) (onward : Except Fault Unit → Tour)

namespace Tour

variable {σ : Type}

def follow (visit : Component → Attempt σ Unit) : Tour → Attempt σ Unit
  | ended ending => liftM ending
  | handOver c onward => fun s =>
    let (answer, t) := visit c s
    follow visit (onward answer) t

theorem follow_handOver (visit : Component → Attempt σ Unit) (c : Component)
    (onward : Except Fault Unit → Tour) (s : σ) :
    (handOver c onward).follow visit s =
      (onward (visit c s).1).follow visit (visit c s).2 := rfl

/-- The tour of some components in their order, up to the first that is refused. -/
def through (ending : Except Fault Unit) : List Component → Tour
  | [] => ended ending
  | c :: cs => handOver c fun answer =>
    match answer with
    | .ok () => through ending cs
    | .error f => ended (.error f)

theorem follow_through (visit : Component → Attempt σ Unit) (ending : Except Fault Unit)
    (cs : List Component) :
    (through ending cs).follow visit = (do visitAll visit cs; liftM ending) := by
  induction cs with
  | nil => rfl
  | cons c cs ih =>
    funext s
    rw [through, follow_handOver]
    rcases hv : visit c s with ⟨f | ⟨⟩, t⟩
    · simp [follow, visitAll, hv]
    · simp [visitAll, hv, ih]

end Tour

class LayoutTours (L : Type) [LayoutAccess L] where
  /-- The tour from the current component on. -/
  tour : L → Tour
  iterate_eq {σ : Type} (layout : L) (visit : Component → Attempt σ Unit) :
    LayoutAccess.iterate layout visit = (tour layout).follow visit

/-- Layouts that end a tour at the first refusal, with that refusal. -/
class HeedfulLayout (L : Type) [LayoutAccess L] extends LayoutTours L where
  /-- What is handed over from the current component on if nothing is refused. -/
  visited : L → List Component
  /-- How a tour ends on which nothing is refused. -/
  ending : L → Except Fault Unit
  tour_eq (layout : L) : tour layout = .through (ending layout) (visited layout)

/-- Layouts whose tours from the first component on go through all components in their order. -/
class LawfulLayout (L : Type) [LayoutAccess L] extends HeedfulLayout L where
  /-- All components, whichever of them is current. -/
  components : L → List Component
  components_of_select {place : Layout.Place} {layout selected : L} :
    LayoutAccess.select place layout = .ok selected → components selected = components layout
  visited_of_first {layout first : L} :
    LayoutAccess.select .first layout = .ok first → visited first = components first

theorem HeedfulLayout.iterate_eq_visitAll {L σ : Type} [LayoutAccess L] [HeedfulLayout L]
    (layout : L) (visit : Component → Attempt σ Unit) :
    LayoutAccess.iterate layout visit =
      (do visitAll visit (visited layout); liftM (ending layout)) := by
  rw [LayoutTours.iterate_eq, tour_eq, Tour.follow_through]

namespace Scripted.Layout

theorem eq_of_select {place : FileCatalog.Layout.Place} {layout selected : Layout}
    (h : select place layout = .ok selected) :
    selected = { layout with
      current := match place with | .first => 0 | .last => layout.components.length - 1 } := by
  unfold select at h
  split at h
  · contradiction
  · split at h
    · contradiction
    · cases place <;> exact (Except.ok.inj h).symm

instance : LawfulLayout Layout where
  tour layout := .through layout.ending layout.visited
  iterate_eq layout visit := (Tour.follow_through visit layout.ending layout.visited).symm
  visited := visited
  ending := ending
  tour_eq _ := rfl
  components layout := layout.components.map LayoutComponent.calls
  components_of_select h := by
    rw [eq_of_select h]
  visited_of_first h := by
    rw [eq_of_select h]
    rfl

end Scripted.Layout

end FileCatalog

import FileCatalog.Fault
import FileCatalog.Size

/-!
# Lists of storage targets

The targets of a layout are collected in one growing list. Room is made before targets are added,
and the list keeps count of it: a request that does not fit adds all of itself to the capacity.
A list never holds more targets than its capacity says.
-/

namespace FileCatalog

structure TargetList where
  values : Array UInt64
  capacity : Nat
  deriving DecidableEq, Repr

namespace TargetList

def noMemory : Fault := .outOfMemory "layout"

/-- An empty list with the given room. -/
def withCapacity (capacity : Nat) : Except Fault TargetList :=
  if capacity < Size.slotLimit then .ok ⟨#[], capacity⟩ else .error noMemory

theorem eq_of_withCapacity {capacity : Nat} {l : TargetList} (h : withCapacity capacity = .ok l) :
    l = ⟨#[], capacity⟩ := by
  unfold withCapacity at h
  split at h <;> cases h
  rfl

def size (l : TargetList) : Nat := l.values.size

def isEmpty (l : TargetList) : Bool := l.values.isEmpty

/-- The list with room for `required` more targets, if there can be one. Memory is asked for the
slots that a larger capacity has beside the targets that are in the list, and is assumed to have
them below `slotLimit`. -/
def withRoom (l : TargetList) (required : Nat) : Except Fault TargetList :=
  match Size.add? l.size required with
  | none => .error noMemory
  | some needed =>
    if needed ≤ l.capacity then .ok l
    else
      match Size.add? l.capacity required with
      | none => .error noMemory
      | some capacity =>
        if l.size + Size.sub capacity l.size < Size.slotLimit then .ok ⟨l.values, capacity⟩
        else .error noMemory

def push (l : TargetList) (target : UInt64) : TargetList := ⟨l.values.push target, l.capacity⟩

@[simp] theorem values_push (l : TargetList) (target : UInt64) :
    (l.push target).values = l.values.push target := rfl

@[simp] theorem capacity_push (l : TargetList) (target : UInt64) :
    (l.push target).capacity = l.capacity := rfl

/-- Making room leaves the targets as they are. -/
theorem values_of_withRoom {l m : TargetList} {required : Nat}
    (h : l.withRoom required = .ok m) : m.values = l.values := by
  unfold withRoom at h
  grind

theorem capacity_of_withRoom {l m : TargetList} {required : Nat}
    (h : l.withRoom required = .ok m) :
    m.capacity = if l.size + required ≤ l.capacity then l.capacity else l.capacity + required := by
  unfold withRoom at h
  cases hn : Size.add? l.size required with
  | none => simp [hn] at h
  | some needed =>
    obtain ⟨rfl, -⟩ := Size.add?_eq_some_iff.mp hn
    cases hc : Size.add? l.capacity required with
    | none => grind
    | some capacity =>
      obtain ⟨rfl, -⟩ := Size.add?_eq_some_iff.mp hc
      grind

/-- Room for so many more targets cannot be had: together with those in the list they could not be
counted, or the list would have to grow to a capacity that cannot be counted or for which memory is
assumed to lack the slots. -/
def Refuses (l : TargetList) (required : Nat) : Prop :=
  Size.wordLimit ≤ l.size + required ∨
    l.capacity < l.size + required ∧
      (Size.wordLimit ≤ l.capacity + required ∨ Size.slotLimit ≤ l.capacity + required)

instance (l : TargetList) (required : Nat) : Decidable (l.Refuses required) :=
  inferInstanceAs (Decidable (_ ∨ _))

section Growing

variable {l : TargetList} {required : Nat}

/-- The targets in the list and the slots that memory is asked for make up the new capacity. -/
theorem size_add_sub (hl : l.size ≤ l.capacity) (h : l.capacity + required < Size.wordLimit) :
    l.size + Size.sub (l.capacity + required) l.size = l.capacity + required :=
  Size.add_sub_of_le (Nat.le_add_right_of_le hl) h

theorem withRoom_of_refuses (hl : l.size ≤ l.capacity) (h : l.Refuses required) :
    l.withRoom required = .error noMemory := by
  unfold withRoom
  cases hn : Size.add? l.size required with
  | none => rfl
  | some needed =>
    obtain ⟨rfl, hneeded⟩ := Size.add?_eq_some_iff.mp hn
    obtain ⟨hgrows, hfull⟩ := h.resolve_left (Nat.not_le.mpr hneeded)
    cases hc : Size.add? l.capacity required with
    | none => simp [Nat.not_le.mpr hgrows]
    | some capacity =>
      obtain ⟨rfl, hcapacity⟩ := Size.add?_eq_some_iff.mp hc
      have hslots := hfull.resolve_left (Nat.not_le.mpr hcapacity)
      simp [Nat.not_le.mpr hgrows, size_add_sub hl hcapacity, Nat.not_lt.mpr hslots]

/-- A list that has to grow gets as much room as was asked for on top of what it had. -/
theorem withRoom_of_not_refuses (hl : l.size ≤ l.capacity) (h : ¬ l.Refuses required) :
    l.withRoom required = .ok ⟨l.values,
      if l.size + required ≤ l.capacity then l.capacity else l.capacity + required⟩ := by
  obtain ⟨hneeded, hroom⟩ := not_or.mp h
  have hn : Size.add? l.size required = some (l.size + required) :=
    Size.add?_eq_some_iff.mpr ⟨rfl, Nat.not_le.mp hneeded⟩
  by_cases hfits : l.size + required ≤ l.capacity
  · simp [withRoom, hn, hfits]
  · obtain ⟨hcapacity, hslots⟩ := not_or.mp (not_and.mp hroom (Nat.not_le.mp hfits))
    have hcapacity := Nat.not_le.mp hcapacity
    have hc : Size.add? l.capacity required = some (l.capacity + required) :=
      Size.add?_eq_some_iff.mpr ⟨rfl, hcapacity⟩
    simp [withRoom, hn, hfits, hc, size_add_sub hl hcapacity, Nat.not_le.mp hslots]

theorem refuses_of_error {f : Fault} (hl : l.size ≤ l.capacity)
    (h : l.withRoom required = .error f) : f = noMemory ∧ l.Refuses required := by
  by_cases hr : l.Refuses required
  · rw [withRoom_of_refuses hl hr] at h
    cases h
    exact ⟨rfl, hr⟩
  · rw [withRoom_of_not_refuses hl hr] at h
    cases h

/-- Room is refused only when the list would get too large. -/
theorem withRoom_error {f : Fault} (hl : l.size ≤ l.capacity)
    (h : l.withRoom required = .error f) :
    f = noMemory ∧ Size.slotLimit ≤ l.capacity + required := by
  have hlimit : Size.slotLimit ≤ Size.wordLimit := by decide
  obtain ⟨rfl, hr⟩ := refuses_of_error hl h
  unfold Refuses at hr
  exact ⟨rfl, by omega⟩

end Growing

end TargetList

end FileCatalog

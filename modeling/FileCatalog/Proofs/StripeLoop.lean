import FileCatalog.Layout.StripeTable

/-!
# Listing targets stripe by stripe

The stripes of a component are asked for their targets one after the other, and each target is listed
before the next stripe is asked. What the component answers does not depend on the list, and what the
list refuses does not depend on the component. So the loop comes to an enumeration of targets that
knows no list (`enumerate`), and to listing them without asking for any (`listEach`). The first is
told by the stripe at which it stops, and the second by the requests that the list has granted.
Both together tell how listing the targets of a component goes, of whatever kind it is.
-/

namespace FileCatalog

namespace TargetList

/-- The second list is the first one with more targets behind it, and has room for all of them. -/
structure Grown (l : TargetList) (ts : List UInt64) (m : TargetList) : Prop where
  values : m.values.toList = l.values.toList ++ ts
  capacity : l.capacity ≤ m.capacity
  fits : m.size ≤ m.capacity

inductive Request where
  | makeRoom (required : Nat)
  | take (target : UInt64)
  deriving DecidableEq, Repr

def Request.targets : Request → List UInt64
  | makeRoom _ => []
  | take target => [target]

/-- The list grants the requests one after the other. It takes a target only where it has room. -/
inductive Grants : TargetList → List Request → TargetList → Prop
  | done {l} : Grants l [] l
  | roomMade {l m n required requests} : l.withRoom required = .ok m → Grants m requests n →
      Grants l (.makeRoom required :: requests) n
  | taken {l n target requests} : l.size < l.capacity → Grants (l.push target) requests n →
      Grants l (.take target :: requests) n

/-- Room is made for each target just before it is taken. -/
def oneByOne (targets : List UInt64) : List Request :=
  targets.flatMap fun target => [.makeRoom 1, .take target]

section Growing

variable {l m n : TargetList} {required : Nat} {ts us : List UInt64} {requests : List Request}

@[simp] theorem size_push (l : TargetList) (target : UInt64) : (l.push target).size = l.size + 1 :=
  Array.size_push target

theorem size_of_withRoom (h : l.withRoom required = .ok m) : m.size = l.size :=
  congrArg Array.size (values_of_withRoom h)

theorem Grown.refl (hl : l.size ≤ l.capacity) : l.Grown [] l := ⟨by simp, Nat.le_refl _, hl⟩

theorem Grown.trans (h : l.Grown ts m) (h' : m.Grown us n) : l.Grown (ts ++ us) n where
  values := by rw [h'.values, h.values, List.append_assoc]
  capacity := Nat.le_trans h.capacity h'.capacity
  fits := h'.fits

theorem Grown.size_eq (h : l.Grown ts m) : m.size = l.size + ts.length := by
  simpa [size] using congrArg List.length h.values

theorem grown_of_withRoom (hl : l.size ≤ l.capacity) (h : l.withRoom required = .ok m) :
    l.Grown [] m := by
  have hvalues := values_of_withRoom h
  have hcapacity := capacity_of_withRoom h
  have hsize := size_of_withRoom h
  refine ⟨by simp [hvalues], ?_, ?_⟩ <;> split at hcapacity <;> omega

theorem room_of_withRoom (hl : l.size ≤ l.capacity) (h : l.withRoom required = .ok m) :
    l.size + required ≤ m.capacity := by
  have hcapacity := capacity_of_withRoom h
  split at hcapacity <;> omega

theorem grown_push (target : UInt64) (hroom : l.size < l.capacity) :
    l.Grown [target] (l.push target) :=
  ⟨by simp, Nat.le_refl _, by rwa [size_push, capacity_push]⟩

theorem Grants.append {more : List Request} (h : l.Grants requests m) (h' : m.Grants more n) :
    l.Grants (requests ++ more) n := by
  induction h with
  | done => exact h'
  | roomMade hroom _ ih => exact .roomMade hroom (ih h')
  | taken hlt _ ih => exact .taken hlt (ih h')

theorem Grants.grown (h : l.Grants requests m) (hl : l.size ≤ l.capacity) :
    l.Grown (requests.flatMap Request.targets) m := by
  induction h with
  | done => exact .refl hl
  | roomMade hroom _ ih =>
    have hmade := grown_of_withRoom hl hroom
    exact hmade.trans (ih hmade.fits)
  | @taken _ _ target _ hlt _ ih =>
    have hpush := grown_push target hlt
    exact hpush.trans (ih hpush.fits)

/-- Room for one target is refused only to a list of nearly `slotLimit` targets. -/
theorem withRoom_one_error {f : Fault} (hl : l.size ≤ l.capacity)
    (h : l.withRoom 1 = .error f) : f = noMemory ∧ Size.slotLimit ≤ l.size + 1 := by
  have hlimit : Size.slotLimit ≤ Size.wordLimit := by decide
  obtain ⟨hf, hr⟩ := refuses_of_error hl h
  unfold Refuses at hr
  exact ⟨hf, by omega⟩

@[simp] theorem targets_oneByOne (ts : List UInt64) :
    (oneByOne ts).flatMap Request.targets = ts := by
  induction ts with
  | nil => rfl
  | cons t ts ih => simpa [oneByOne, Request.targets] using ih

/-- One by one, a list takes up the room that it has and then grows by what it takes. -/
theorem Grants.capacity_oneByOne (h : l.Grants (oneByOne ts) n) (hl : l.size ≤ l.capacity) :
    n.capacity = max l.capacity (l.size + ts.length) := by
  induction ts generalizing l with
  | nil =>
    cases h
    simp [hl]
  | cons t ts ih =>
    cases h with
    | @roomMade _ m _ _ _ hroom h =>
      cases h with
      | taken hlt h =>
        have hcapacity := capacity_of_withRoom hroom
        have hsize := size_of_withRoom hroom
        rw [ih h (grown_push t hlt).fits, capacity_push, size_push, List.length_cons]
        split at hcapacity <;> omega

end Growing

end TargetList

namespace StripeTable

open TargetList (Request Grants Grown noMemory oneByOne)

/-! ## The enumeration -/

/-- The targets of the stripes from `stripe` on, up to the first that has none, behind how asking for
them ends. -/
def enumerate (target : UInt64 → Except Fault (Option UInt64)) :
    (count : Nat) → (stripe : UInt64) → Except Fault Unit × List UInt64
  | 0, _ => (.ok (), [])
  | count + 1, stripe =>
    match target stripe with
    | .error f => (.error f, [])
    | .ok none => (.ok (), [])
    | .ok (some t) =>
      let (outcome, ts) := enumerate target count (stripe + 1)
      (outcome, t :: ts)

/-- Stripes have been asked for their targets up to where there are no more of them, or to the first
that has no target or fails. -/
structure Enumerates (target : UInt64 → Except Fault (Option UInt64)) (count : Nat)
    (stripe : UInt64) (outcome : Except Fault Unit) (ts : List UInt64) : Prop where
  reports : ∀ i (h : i < ts.length), target (stripe + .ofNat i) = .ok (some ts[i])
  stop : ts.length = count ∧ outcome = .ok () ∨
    ts.length < count ∧ (target (stripe + .ofNat ts.length) = .ok none ∧ outcome = .ok () ∨
      ∃ f, target (stripe + .ofNat ts.length) = .error f ∧ outcome = .error f)

section Enumerations

variable {target target' : UInt64 → Except Fault (Option UInt64)} {count : Nat}
  {stripe t : UInt64} {outcome : Except Fault Unit} {ts : List UInt64}

theorem add_ofNat_succ (s : UInt64) (i : Nat) : s + .ofNat (i + 1) = s + 1 + .ofNat i := by
  rw [UInt64.ofNat_add, UInt64.add_comm (.ofNat i), UInt64.add_assoc]
  rfl

theorem enumerates_cons :
    Enumerates target (count + 1) stripe outcome (t :: ts) ↔
      target stripe = .ok (some t) ∧ Enumerates target count (stripe + 1) outcome ts := by
  constructor
  · intro h
    have hstop := h.stop
    simp only [List.length_cons, add_ofNat_succ, Nat.succ_lt_succ_iff, Nat.succ_inj] at hstop
    refine ⟨by simpa using h.reports 0 (Nat.succ_pos _), ?_, hstop⟩
    intro i hi
    rw [← add_ofNat_succ]
    exact h.reports (i + 1) (Nat.succ_lt_succ hi)
  · rintro ⟨ht, h⟩
    constructor
    case reports =>
      intro i hi
      cases i with
      | zero => simpa using ht
      | succ i =>
        rw [add_ofNat_succ]
        exact h.reports i (Nat.lt_of_succ_lt_succ hi)
    case stop =>
      simp only [List.length_cons, add_ofNat_succ, Nat.succ_lt_succ_iff, Nat.succ_inj]
      exact h.stop

theorem enumerates_of_stop (hstop : 0 = count ∧ outcome = .ok () ∨
    0 < count ∧ (target stripe = .ok none ∧ outcome = .ok () ∨
      ∃ f, target stripe = .error f ∧ outcome = .error f)) :
    Enumerates target count stripe outcome [] :=
  ⟨fun _ h => absurd h (Nat.not_lt_zero _), by simpa using hstop⟩

theorem enumerates_enumerate (target : UInt64 → Except Fault (Option UInt64)) (count : Nat)
    (stripe : UInt64) :
    Enumerates target count stripe (enumerate target count stripe).1
      (enumerate target count stripe).2 := by
  -- by induction on the stripes that are left
  induction count generalizing stripe with
  | zero => exact enumerates_of_stop (.inl ⟨rfl, rfl⟩)
  | succ count ih =>
    rcases ht : target stripe with f | _ | t <;> simp only [enumerate, ht]
    · exact enumerates_of_stop (.inr ⟨Nat.succ_pos _, .inr ⟨f, ht, rfl⟩⟩)
    · exact enumerates_of_stop (.inr ⟨Nat.succ_pos _, .inl ⟨ht, rfl⟩⟩)
    · exact enumerates_cons.mpr ⟨ht, ih (stripe + 1)⟩

/-- Where an enumeration stops and how is settled by the answers up to there. -/
theorem Enumerates.eq_enumerate (h : Enumerates target count stripe outcome ts) :
    enumerate target count stripe = (outcome, ts) := by
  induction count generalizing stripe ts with
  | zero =>
    rcases h.stop with ⟨hlength, rfl⟩ | ⟨hlt, -⟩
    · rw [List.eq_nil_of_length_eq_zero hlength, enumerate]
    · exact absurd hlt (Nat.not_lt_zero _)
  | succ count ih =>
    cases ts with
    | nil =>
      have hstop := h.stop
      simp at hstop
      rcases hstop with ⟨ht, rfl⟩ | ⟨f, ht, rfl⟩ <;> rw [enumerate, ht]
    | cons t ts =>
      obtain ⟨ht, hrest⟩ := enumerates_cons.mp h
      simp [enumerate, ht, ih hrest]

/-- A target does not matter beyond the first stripe that has none. -/
theorem enumerate_congr (h : ∀ i < count, (∀ j < i, target (stripe + .ofNat j) ≠ .ok none) →
      target (stripe + .ofNat i) = target' (stripe + .ofNat i)) :
    enumerate target count stripe = enumerate target' count stripe := by
  have hsame := enumerates_enumerate target count stripe
  have hreported (i : Nat) (hi : i ≤ (enumerate target count stripe).2.length) (hcount : i < count) :
      target (stripe + .ofNat i) = target' (stripe + .ofNat i) := by
    apply h i hcount
    intro j hj
    simp [hsame.reports j (Nat.lt_of_lt_of_le hj hi)]
  have hwithin : (enumerate target count stripe).2.length ≤ count := by
    rcases hsame.stop with ⟨heq, -⟩ | ⟨hlt, -⟩ <;> omega
  symm
  apply Enumerates.eq_enumerate
  constructor
  case reports =>
    intro i hi
    rw [← hreported i (Nat.le_of_lt hi) (Nat.lt_of_lt_of_le hi hwithin)]
    exact hsame.reports i hi
  case stop =>
    apply hsame.stop.imp_right
    rintro ⟨hlt, hstop⟩
    rw [← hreported _ (Nat.le_refl _) hlt]
    exact ⟨hlt, hstop⟩

end Enumerations

/-! ## The loop -/

def listEach : List UInt64 → Attempt TargetList Unit
  | [] => pure ()
  | t :: ts => do
    list t
    listEach ts

/-- List all that has been enumerated, and end as the enumeration has ended. -/
def listAll (enumerated : Except Fault Unit × List UInt64) : Attempt TargetList Unit := do
  listEach enumerated.2
  liftM enumerated.1

/-- The loop lists what it would enumerate if there were no list. -/
theorem listStripes_eq (target : UInt64 → Except Fault (Option UInt64)) (count : Nat)
    (stripe : UInt64) :
    listStripes target count stripe = listAll (enumerate target count stripe) := by
  induction count generalizing stripe with
  | zero => rfl
  | succ count ih =>
    funext l
    rcases ht : target stripe with f | _ | t
    · simp [listStripes, enumerate, listAll, listEach, ht]
    · simp [listStripes, enumerate, listAll, listEach, ht]
    · rcases hl : list t l with ⟨f | _, m⟩ <;>
        simp [listStripes, enumerate, listAll, listEach, ht, hl, ih]

section Listing

variable {l m : TargetList} {f : Fault} {required : Nat}

theorem reserve_of_ok (h : l.withRoom required = .ok m) : reserve required l = (.ok (), m) := by
  simp [reserve, h]

theorem reserve_of_error (h : l.withRoom required = .error f) :
    reserve required l = (.error f, l) := by
  simp [reserve, h]

/-- Listing stops only before a target for which a list of nearly `slotLimit` targets has no room. -/
theorem listEach_course (ts : List UInt64) (hl : l.size ≤ l.capacity) :
    (∃ m, listEach ts l = (.ok (), m) ∧ l.Grants (oneByOne ts) m) ∨
    ∃ first t rest m, ts = first ++ t :: rest ∧ listEach ts l = (.error noMemory, m) ∧
      l.Grants (oneByOne first) m ∧ Size.slotLimit ≤ m.size + 1 := by
  induction ts generalizing l with
  | nil => exact .inl ⟨l, rfl, .done⟩
  | cons t ts ih =>
    cases hroom : l.withRoom 1 with
    | error f =>
      obtain ⟨rfl, hlarge⟩ := TargetList.withRoom_one_error hl hroom
      refine .inr ⟨[], t, ts, l, rfl, ?_, .done, hlarge⟩
      simp [listEach, list, reserve_of_error hroom]
    | ok m =>
      have hlt : m.size < m.capacity := by
        have := TargetList.room_of_withRoom hl hroom
        rwa [TargetList.size_of_withRoom hroom]
      have hstep : listEach (t :: ts) l = listEach ts (m.push t) := by
        simp [listEach, list, reserve_of_ok hroom]
      rw [hstep]
      rcases ih (TargetList.grown_push t hlt).fits with ⟨n, hrun, hgrants⟩ |
        ⟨first, u, rest, n, rfl, hrun, hgrants, hlarge⟩
      · exact .inl ⟨n, hrun, .roomMade hroom (.taken hlt hgrants)⟩
      · exact .inr ⟨t :: first, u, rest, n, rfl, hrun, .roomMade hroom (.taken hlt hgrants), hlarge⟩

end Listing

/-! ## Components -/

def places (composite : Bool) (row : Row) (c : Component) : Except Fault Unit × List UInt64 :=
  if isBound composite row.flags then enumerate c.target row.stripeCount.toNat 0
  else (.ok (), [notBound])

def requestsFor (composite : Bool) (row : Row) (ts : List UInt64) : List Request :=
  (if isBound composite row.flags then [.makeRoom (min row.stripeCount maxStripeCount).toNat]
    else []) ++ oneByOne ts

/-- How listing the targets of a component goes, with the targets that it lists and the list that it
leaves: all that there is to list finds room, or the room ahead is refused, or room for the next
target is. -/
inductive Placing (composite : Bool) (row : Row) (c : Component) (l : TargetList) :
    Except Fault Unit → List UInt64 → TargetList → Prop
  | placed {outcome ts m} : places composite row c = (outcome, ts) →
      l.Grants (requestsFor composite row ts) m → Placing composite row c l outcome ts m
  | refused : isBound composite row.flags = true →
      Size.slotLimit ≤ l.capacity + (min row.stripeCount maxStripeCount).toNat →
      Placing composite row c l (.error noMemory) [] l
  | crowded {first t rest m} : (places composite row c).2 = first ++ t :: rest →
      l.Grants (requestsFor composite row first) m → Size.slotLimit ≤ m.size + 1 →
      Placing composite row c l (.error noMemory) first m

section Placings

variable {composite : Bool} {row : Row} {c : Component} {l m : TargetList}
  {outcome : Except Fault Unit} {ts : List UInt64}

theorem listTargets_eq (composite : Bool) (row : Row) (c : Component) :
    listTargets composite row c =
      (do
        if isBound composite row.flags then
          reserve (min row.stripeCount maxStripeCount).toNat
        listAll (places composite row c)) := by
  funext l
  cases hbound : isBound composite row.flags with
  | true => simp [listTargets, places, hbound, listStripes_eq]
  | false =>
    rcases hl : list notBound l with ⟨f | _, m⟩ <;>
      simp [listTargets, places, listAll, listEach, hbound, hl]

/-- Once there is room ahead, all targets that are listed are requested one by one. -/
theorem placing_of_ahead {ahead : TargetList} (hfits : ahead.size ≤ ahead.capacity)
    (hrun : listTargets composite row c l = listAll (places composite row c) ahead)
    (hahead : ∀ {ts n}, ahead.Grants (oneByOne ts) n → l.Grants (requestsFor composite row ts) n) :
    ∃ ts, Placing composite row c l (listTargets composite row c l).1 ts
      (listTargets composite row c l).2 := by
  rw [hrun]
  rcases listEach_course (places composite row c).2 hfits with ⟨m, hlist, hgrants⟩ |
    ⟨first, t, rest, m, hts, hlist, hgrants, hlarge⟩
  · have hall : listAll (places composite row c) ahead = ((places composite row c).1, m) := by
      simp [listAll, hlist]
    rw [hall]
    exact ⟨_, .placed rfl (hahead hgrants)⟩
  · have hall : listAll (places composite row c) ahead = (.error noMemory, m) := by
      simp [listAll, hlist]
    rw [hall]
    exact ⟨first, .crowded hts (hahead hgrants) hlarge⟩

theorem listTargets_course (composite : Bool) (row : Row) (c : Component)
    (hl : l.size ≤ l.capacity) :
    ∃ ts, Placing composite row c l (listTargets composite row c l).1 ts
      (listTargets composite row c l).2 := by
  cases hbound : isBound composite row.flags with
  | false =>
    apply placing_of_ahead hl
    · simp [listTargets_eq, hbound]
    · intro ts n hgrants
      simpa [requestsFor, hbound] using hgrants
  | true =>
    cases hroom : l.withRoom (min row.stripeCount maxStripeCount).toNat with
    | error f =>
      obtain ⟨rfl, hlarge⟩ := TargetList.withRoom_error hl hroom
      have hrun : listTargets composite row c l = (.error noMemory, l) := by
        simp [listTargets_eq, hbound, reserve_of_error hroom]
      rw [hrun]
      exact ⟨[], .refused hbound hlarge⟩
    | ok ahead =>
      apply placing_of_ahead (TargetList.grown_of_withRoom hl hroom).fits
      · simp [listTargets_eq, hbound, reserve_of_ok hroom]
      · intro ts n hgrants
        rw [requestsFor, if_pos hbound]
        exact .roomMade hroom hgrants

theorem targets_requestsFor (composite : Bool) (row : Row) (ts : List UInt64) :
    (requestsFor composite row ts).flatMap Request.targets = ts := by
  unfold requestsFor
  split <;> simp [Request.targets]

theorem Placing.grown (h : Placing composite row c l outcome ts m) (hl : l.size ≤ l.capacity) :
    l.Grown ts m := by
  have hgranted {us : List UInt64} {n : TargetList}
      (hgrants : l.Grants (requestsFor composite row us) n) : l.Grown us n := by
    simpa only [targets_requestsFor] using hgrants.grown hl
  cases h with
  | placed _ hgrants => exact hgranted hgrants
  | refused _ _ => exact .refl hl
  | crowded _ hgrants _ => exact hgranted hgrants

end Placings

end StripeTable

end FileCatalog

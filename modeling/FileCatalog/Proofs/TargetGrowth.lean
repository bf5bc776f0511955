import FileCatalog.Proofs.TargetRoom

/-!
# Growth of target lists

Room is asked for at any time and for any number of targets, and what cannot be had is refused. The
client goes on after a refusal, and adds a target only where there is room for it. The main
statement says what a list has come to by then: it holds what was added, has room for all of it, and
has grown by the requests that were granted and did not fit, and by nothing else. It also says which
requests are refused and that these leave no trace, so that the next request finds the same list.

The slots asked of memory are a difference of words, which would wrap around if the capacity counted
fewer targets than there are. That it never does is what one request leaves to the next.
-/

namespace FileCatalog.TargetList

open StripeTable (reserve reserve_of_ok reserve_of_error)

namespace Request

/-- A target is added only where there is room for it. -/
def Fits (l : TargetList) : Request → Prop
  | makeRoom _ => True
  | take _ => l.size < l.capacity

instance (l : TargetList) : (r : Request) → Decidable (r.Fits l)
  | makeRoom _ => .isTrue trivial
  | take _ => inferInstanceAs (Decidable (l.size < l.capacity))

/-- What a request adds to the capacity: nothing if there is room already or can be none, and else
all that it asks for. -/
def growth (l : TargetList) : Request → Nat
  | makeRoom required =>
    if l.size + required ≤ l.capacity ∨ l.Refuses required then 0 else required
  | take _ => 0

end Request

/-- Serve a request. A refusal leaves the list as it has been. -/
def serve : Request → Attempt TargetList Unit
  | .makeRoom required => reserve required
  | .take target => modify fun l => l.push target

def afterEach (l : TargetList) : List Request → TargetList
  | [] => l
  | r :: rs => afterEach (serve r l).2 rs

def AllFit (l : TargetList) : List Request → Prop
  | [] => True
  | r :: rs => r.Fits l ∧ AllFit (serve r l).2 rs

instance decidableAllFit : (rs : List Request) → (l : TargetList) → Decidable (l.AllFit rs)
  | [], _ => .isTrue trivial
  | r :: rs, l =>
    have := decidableAllFit rs (serve r l).2
    inferInstanceAs (Decidable (r.Fits l ∧ AllFit (serve r l).2 rs))

/-- What the requests add to the capacity, each to what those before it have left. -/
def growth (l : TargetList) : List Request → Nat
  | [] => 0
  | r :: rs => r.growth l + growth (serve r l).2 rs

section Serving

variable {l : TargetList} {r : Request} {rs : List Request} {required : Nat}

theorem reserve_of_refuses (hl : l.size ≤ l.capacity) (h : l.Refuses required) :
    reserve required l = (.error noMemory, l) :=
  reserve_of_error (withRoom_of_refuses hl h)

theorem reserve_of_not_refuses (hl : l.size ≤ l.capacity) (h : ¬ l.Refuses required) :
    reserve required l = (.ok (), ⟨l.values,
      if l.size + required ≤ l.capacity then l.capacity else l.capacity + required⟩) :=
  reserve_of_ok (withRoom_of_not_refuses hl h)

/-- What is granted is all the room asked for. A list that has it already stays as it is. -/
theorem exists_granted (hl : l.size ≤ l.capacity) (h : ¬ l.Refuses required) :
    ∃ m, reserve required l = (.ok (), m) ∧ m.values = l.values ∧
      l.size + required ≤ m.capacity ∧ (l.size + required ≤ l.capacity → m.capacity = l.capacity) ∧
      (l.capacity < l.size + required → m.capacity = l.capacity + required) := by
  refine ⟨_, reserve_of_not_refuses hl h, rfl, ?_, fun hfits => if_pos hfits,
    fun hgrows => if_neg (Nat.not_le.mpr hgrows)⟩
  dsimp only
  split <;> omega

theorem grown_serve (hl : l.size ≤ l.capacity) (hr : r.Fits l) :
    l.Grown r.targets (serve r l).2 := by
  cases r with
  | makeRoom required =>
    by_cases h : l.Refuses required
    · rw [serve, reserve_of_refuses hl h]
      exact .refl hl
    · rw [serve, reserve_of_not_refuses hl h]
      exact grown_of_withRoom hl (withRoom_of_not_refuses hl h)
  | take target => exact grown_push target hr

theorem capacity_serve (hl : l.size ≤ l.capacity) :
    (serve r l).2.capacity = l.capacity + r.growth l := by
  cases r with
  | makeRoom required =>
    by_cases h : l.Refuses required
    · simp [serve, reserve_of_refuses hl h, Request.growth, h]
    -- what fits is granted as well, but adds nothing
    · by_cases hfits : l.size + required ≤ l.capacity <;>
        simp [serve, reserve_of_not_refuses hl h, Request.growth, h, hfits]
  | take target => rfl

/-- What the requests do to a list together. Each of them needs, and leaves behind, a list that has
room for all that is in it. -/
theorem grown_afterEach (hl : l.size ≤ l.capacity) (h : l.AllFit rs) :
    l.Grown (rs.flatMap Request.targets) (l.afterEach rs) ∧
      (l.afterEach rs).capacity = l.capacity + l.growth rs := by
  induction rs generalizing l with
  | nil => exact ⟨.refl hl, rfl⟩
  | cons r rs ih =>
    have hstep := grown_serve hl h.1
    obtain ⟨hrest, hcapacity⟩ := ih hstep.fits h.2
    constructor
    · exact hstep.trans hrest
    · rw [afterEach, growth, hcapacity, capacity_serve hl, Nat.add_assoc]

theorem allFit_take {ts : List UInt64} (h : l.size + ts.length ≤ l.capacity) :
    l.AllFit (ts.map .take) := by
  induction ts generalizing l with
  | nil => trivial
  | cons t ts ih =>
    rw [List.length_cons] at h
    refine ⟨(by omega : l.size < l.capacity), ih ?_⟩
    change (l.push t).size + ts.length ≤ l.capacity
    rw [size_push]
    omega

end Serving

/-- A new list is asked for room any number of times, with any outcome, and targets are added where
there is room for them. It then holds these, has room for them, and has grown by the requests that
did not fit. The next request for room is refused exactly if it cannot be had, with a fault that
says so and no change to the list. Otherwise the targets stay, as many more as were asked for can be
added, and the capacity stays as well if they had room before, or else grows by their number. A
capacity to grow to is never less than the number of targets, so the slots asked of memory are their
difference. -/
theorem room_accounted {capacity : Nat} {new : TargetList} (h : withCapacity capacity = .ok new)
    (before : List Request) (hfit : new.AllFit before) :
    let l := new.afterEach before
    l.size ≤ l.capacity ∧ l.values.toList = before.flatMap Request.targets ∧
    l.capacity = capacity + new.growth before ∧
    ∀ required,
      (l.Refuses required ∧ reserve required l = (.error (.outOfMemory "layout"), l) ∨
        ¬ l.Refuses required ∧ ∃ m, reserve required l = (.ok (), m) ∧ m.values = l.values ∧
          l.size + required ≤ m.capacity ∧
          (l.size + required ≤ l.capacity → m.capacity = l.capacity) ∧
          (l.capacity < l.size + required → m.capacity = l.capacity + required) ∧
          ∀ ts : List UInt64, ts.length ≤ required → m.AllFit (ts.map .take)) ∧
      (l.capacity + required < Size.wordLimit → l.size ≤ l.capacity + required ∧
        Size.sub (l.capacity + required) l.size = l.capacity + required - l.size) := by
  intro l
  obtain rfl := eq_of_withCapacity h
  have hempty : (⟨#[], capacity⟩ : TargetList).size ≤ capacity := Nat.zero_le capacity
  obtain ⟨hgrown, hcapacity⟩ := grown_afterEach hempty hfit
  have hl : l.size ≤ l.capacity := hgrown.fits
  refine ⟨hl, by simpa using hgrown.values, hcapacity, fun required => ⟨?_, fun hword => ?_⟩⟩
  · by_cases hr : l.Refuses required
    · exact .inl ⟨hr, reserve_of_refuses hl hr⟩
    · obtain ⟨m, hm, hvalues, hroom, hkept, hgrew⟩ := exists_granted hl hr
      have hsize : m.size = l.size := congrArg Array.size hvalues
      exact .inr ⟨hr, m, hm, hvalues, hroom, hkept, hgrew, fun ts hts => allFit_take (by omega)⟩
  · have hle : l.size ≤ l.capacity + required := Nat.le_add_right_of_le hl
    exact ⟨hle, Size.sub_of_le hle hword⟩

/-- Two targets in a list of one that has grown for them. The number of targets is no size, then the
capacity is none, then memory has too few slots; a third target finds room all the same. -/
theorem room_accounted_at_limits :
    let before : List Request := [.makeRoom 2, .take 5, .take 0xFFFFFFFFFFFFFFFF,
      .makeRoom 0xFFFFFFFFFFFFFFFE, .makeRoom 0xFFFFFFFFFFFFFFFD, .makeRoom 0x0FFFFFFFFFFFFFFD,
      .makeRoom 1, .take 7]
    let new : TargetList := ⟨#[], 1⟩
    let l := new.afterEach before
    withCapacity 1 = .ok new ∧ new.AllFit before ∧
      l.values.toList = [5, 0xFFFFFFFFFFFFFFFF, 7] ∧ l.capacity = 3 ∧
      reserve 0x0FFFFFFFFFFFFFFD l = (.error (.outOfMemory "layout"), l) ∧
      ∃ m, reserve 0x0FFFFFFFFFFFFFFC l = (.ok (), m) ∧ m.values = l.values ∧
        m.capacity = 0x0FFFFFFFFFFFFFFF := by
  intro before new l
  have hnew : withCapacity 1 = .ok new := rfl
  have hfit : new.AllFit before := by decide +kernel
  have hgrowth : new.growth before = 2 := by decide +kernel
  obtain ⟨-, hvalues, hcapacity, hnext⟩ := room_accounted hnew before hfit
  rw [hgrowth] at hcapacity
  have hrefused : l.Refuses 0x0FFFFFFFFFFFFFFD := by decide +kernel
  have hgranted : ¬ l.Refuses 0x0FFFFFFFFFFFFFFC := by decide +kernel
  have hgrows : l.capacity < l.size + 0x0FFFFFFFFFFFFFFC := by decide +kernel
  refine ⟨hnew, hfit, hvalues, hcapacity, ?_, ?_⟩
  · exact ((hnext _).1.resolve_right fun h => h.1 hrefused).2
  · obtain ⟨-, m, hm, hkept, -, -, hgrew, -⟩ := (hnext _).1.resolve_left fun h => hgranted h.1
    exact ⟨m, hm, hkept, by rw [hgrew hgrows, hcapacity]⟩

end FileCatalog.TargetList

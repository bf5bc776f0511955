import FileCatalog.Proofs.TargetBlocks
import Mathlib.Algebra.GroupWithZero.Nat

/-!
# Room for targets

Room is made ahead for as many targets as a component has stripes, but for no more than a component
can have, since a stripe count may be a mark of its own. Behind that, room is made for one target
after the other. The main statement adds this up over any run of visits: it bounds the capacity of
the list, and as long as the bound stays below `Size.slotLimit`, no room is wanting and every visit
lists what it would list if nothing were made ahead at all.
-/

namespace FileCatalog

namespace StripeTable

open TargetList (Request Grants oneByOne)

/-- What a visit answers and lists where room is never wanting. -/
def visitFreely (composite : Bool) (arena : Arena) (c : Component) :
    Except Fault Unit × List UInt64 :=
  match readRow c with
  | .error f => (.error f, [])
  | .ok row =>
    if arena.fits (Bytes.ofText row.pool).length then
      match places composite row c with
      | (.error f, ts) => (.error f, ts)
      | (.ok (), ts) =>
        match if composite then some <$> readSegment c else .ok none with
        | .error f => (.error f, ts)
        | .ok _ => (.ok (), ts)
    else (.error (.outOfMemory "arena"), [])

/-- The room that a component takes: as much as is made ahead of its targets, or one place for each
of them if they are more. One that is not bound takes the place of its mark. -/
def rowShare (composite : Bool) (row : Row) (listed : Nat) : Nat :=
  if isBound composite row.flags then max (min row.stripeCount maxStripeCount).toNat listed else 1

def share (composite : Bool) (c : Component) (listed : Nat) : Nat :=
  match readRow c with
  | .error _ => 0
  | .ok row => rowShare composite row listed

section Placings

variable {l m n : TargetList} {composite : Bool} {row : Row} {c : Component}
  {outcome : Except Fault Unit} {ts : List UInt64}

theorem rowShare_mono (composite : Bool) (row : Row) {m n : Nat} (h : m ≤ n) :
    rowShare composite row m ≤ rowShare composite row n := by
  unfold rowShare
  split <;> omega

/-- Only a component that is bound can list more than its mark. -/
theorem capacity_le_of_grants (h : l.Grants (requestsFor composite row ts) m)
    (hl : l.size ≤ l.capacity) (hmark : isBound composite row.flags = false → ts.length ≤ 1) :
    m.capacity ≤ l.capacity + rowShare composite row ts.length := by
  unfold requestsFor at h
  unfold rowShare
  cases hbound : isBound composite row.flags with
  | false =>
    rw [hbound] at h
    have hcapacity := TargetList.Grants.capacity_oneByOne h hl
    have hlength := hmark hbound
    simp only [Bool.false_eq_true, if_false]
    omega
  | true =>
    rw [hbound] at h
    cases h with
    | roomMade hroom h =>
      have hcapacity := TargetList.Grants.capacity_oneByOne h
        (TargetList.grown_of_withRoom hl hroom).fits
      rw [TargetList.size_of_withRoom hroom, TargetList.capacity_of_withRoom hroom] at hcapacity
      simp only [if_true]
      split at hcapacity <;> omega

/-- The requests are granted for all that is listed, unless room ahead is refused. -/
theorem Placing.granted (h : Placing composite row c l outcome ts m) :
    l.Grants (requestsFor composite row ts) m ∨ ts = [] ∧ m = l := by
  cases h with
  | placed _ hgrants => exact .inl hgrants
  | refused _ _ => exact .inr ⟨rfl, rfl⟩
  | crowded _ hgrants _ => exact .inl hgrants

theorem Placing.length_le (h : Placing composite row c l outcome ts m) :
    ts.length ≤ (places composite row c).2.length := by
  cases h with
  | placed hplaces _ => simp [hplaces]
  | refused _ _ => exact Nat.zero_le _
  | crowded hplaces _ _ => simp [hplaces]

theorem Placing.capacity_le (h : Placing composite row c l outcome ts m)
    (hl : l.size ≤ l.capacity) : m.capacity ≤ l.capacity + rowShare composite row ts.length := by
  rcases h.granted with hgrants | ⟨rfl, rfl⟩
  · apply capacity_le_of_grants hgrants hl
    intro hbound
    simpa [places, hbound] using h.length_le
  · exact Nat.le_add_right _ _

/-- A component lists all that it has to list, unless its share up to the next target takes more room
than there can be. -/
theorem Placing.free (h : Placing composite row c l outcome ts m) (hl : l.size ≤ l.capacity) :
    (outcome, ts) = places composite row c ∧ l.Grants (requestsFor composite row ts) m ∨
      Size.slotLimit ≤ l.capacity +
        rowShare composite row (min (ts.length + 1) (places composite row c).2.length) := by
  have hsize := (h.grown hl).size_eq
  cases h with
  | placed hplaces hgrants => exact .inl ⟨hplaces.symm, hgrants⟩
  | refused hbound hlarge =>
    right
    rw [rowShare, if_pos hbound]
    omega
  | @crowded _ t rest _ hplaces _ hlarge =>
    have hlength := congrArg List.length hplaces
    rw [List.length_append, List.length_cons] at hlength
    right
    unfold rowShare
    cases hbound : isBound composite row.flags with
    | true =>
      simp only [if_true]
      omega
    | false =>
      have hone : (places composite row c).2.length = 1 := by simp [places, hbound]
      simp only [Bool.false_eq_true, if_false]
      omega

end Placings

structure Passage where
  component : Component
  /-- The arena that the visit finds. -/
  arena : Arena
  before : TargetList
  outcome : Except Fault Unit
  after : TargetList

namespace Passage

def listed (p : Passage) : List UInt64 := p.after.values.toList.drop p.before.size

def requests (composite : Bool) (p : Passage) : List Request :=
  match readRow p.component with
  | .error _ => []
  | .ok row =>
    if p.arena.fits (Bytes.ofText row.pool).length then requestsFor composite row p.listed else []

def of (c : Component) (table : StripeTable) (arena : Arena) : Passage where
  component := c
  arena := arena
  before := table.targets
  outcome := (record c (table, arena)).1
  after := (record c (table, arena)).2.1.targets

/-- The visit answers and lists what it would if room were never wanting, and has found all the room
for it. -/
def Free (composite : Bool) (p : Passage) : Prop :=
  (p.outcome, p.listed) = visitFreely composite p.arena p.component ∧
    p.before.Grants (p.requests composite) p.after

/-- What a visit does to the list, whatever it answers. -/
structure Orderly (composite : Bool) (p : Passage) : Prop where
  fits : p.after.size ≤ p.after.capacity
  values : p.after.values.toList = p.before.values.toList ++ p.listed
  granted : p.before.Grants (p.requests composite) p.after ∨ p.listed = [] ∧ p.after = p.before
  capacity : p.after.capacity ≤ p.before.capacity + share composite p.component p.listed.length
  /-- Room is wanting only where the next target would have taken too much of it. -/
  free : p.Free composite ∨ Size.slotLimit ≤ p.before.capacity + share composite p.component
    (min (p.listed.length + 1) (visitFreely composite p.arena p.component).2.length)

section Visits

variable {composite : Bool} {p : Passage} {c : Component} {row : Row} {table : StripeTable}
  {arena : Arena} {ts : List UInt64}

theorem listed_eq (h : p.after.values.toList = p.before.values.toList ++ ts) : p.listed = ts := by
  rw [listed, h]
  exact List.drop_left

theorem orderly_of_idle (hfits : p.before.size ≤ p.before.capacity) (hafter : p.after = p.before)
    (hrequests : p.requests composite = [])
    (hfree : visitFreely composite p.arena p.component = (p.outcome, [])) :
    p.Orderly composite := by
  have hlisted : p.listed = [] := listed_eq (by rw [hafter, List.append_nil])
  have hgranted : p.before.Grants (p.requests composite) p.after := by
    rw [hrequests, hafter]
    exact .done
  constructor
  case fits => rwa [hafter]
  case values => rw [hafter, hlisted, List.append_nil]
  case granted => exact .inl hgranted
  case capacity =>
    rw [hafter]
    exact Nat.le_add_right _ _
  case free => exact .inl ⟨by rw [hfree, hlisted], hgranted⟩

theorem targets_record_of_begun (hb : Begun arena c row) :
    (record c (table, arena)).2.1.targets =
      (listTargets table.composite row c table.targets).2 := by
  rw [record_of_begun hb]
  rcases listTargets table.composite row c table.targets with ⟨f | ⟨⟩, l⟩
  · rfl
  · rcases (if table.composite then some <$> readSegment c else .ok none) with f | segment <;> rfl

theorem visitFreely_of_begun (hb : Begun arena c row) :
    (visitFreely composite arena c).2 = (places composite row c).2 := by
  simp only [visitFreely, hb.read, hb.kept, if_true]
  rcases places composite row c with ⟨f | ⟨⟩, ts⟩
  · rfl
  · rcases (if composite then some <$> readSegment c else .ok none) with f | segment <;> rfl

theorem outcome_record_of_begun (hb : Begun arena c row)
    (h : ((listTargets table.composite row c table.targets).1, ts) =
      places table.composite row c) :
    ((record c (table, arena)).1, ts) = visitFreely table.composite arena c := by
  rw [record_of_begun hb]
  simp only [visitFreely, hb.read, hb.kept, if_true, ← h]
  rcases listTargets table.composite row c table.targets with ⟨f | ⟨⟩, l⟩
  · rfl
  · rcases (if table.composite then some <$> readSegment c else .ok none) with f | segment <;> rfl

theorem orderly_of_begun (hb : Begun arena c row)
    (hl : table.targets.size ≤ table.targets.capacity) :
    (Passage.of c table arena).Orderly table.composite := by
  obtain ⟨ts, hplacing⟩ := listTargets_course table.composite row c hl
  have htargets : (record c (table, arena)).2.1.targets =
      (listTargets table.composite row c table.targets).2 := targets_record_of_begun hb
  have hgrown := hplacing.grown hl
  have hgranted := hplacing.granted
  have hcapacity := hplacing.capacity_le hl
  have hcourse := hplacing.free hl
  rw [← htargets] at hgrown hgranted hcapacity hcourse
  have hlisted : (Passage.of c table arena).listed = ts := listed_eq hgrown.values
  have hrequests : (Passage.of c table arena).requests table.composite =
      requestsFor table.composite row ts := by
    rw [requests, hlisted]
    simp only [Passage.of, hb.read, hb.kept, if_true]
  have hshare (n : Nat) : share table.composite c n = rowShare table.composite row n := by
    rw [share, hb.read]
  constructor
  case fits => exact hgrown.fits
  case values => rw [hlisted]; exact hgrown.values
  case granted => rw [hlisted, hrequests]; exact hgranted
  case capacity => rw [hlisted]; exact hshare _ ▸ hcapacity
  case free =>
    rw [Free, hlisted, hrequests]
    rcases hcourse with ⟨hfree, hgrants⟩ | hlarge
    · exact .inl ⟨outcome_record_of_begun hb hfree, hgrants⟩
    · right
      change Size.slotLimit ≤ table.targets.capacity +
        share table.composite c (min (ts.length + 1) (visitFreely table.composite arena c).2.length)
      rwa [hshare, visitFreely_of_begun hb]

/-- Every visit to a table is told by one of the courses above. -/
theorem orderly_of (c : Component) (arena : Arena)
    (hl : table.targets.size ≤ table.targets.capacity) :
    (Passage.of c table arena).Orderly table.composite := by
  rcases begun_cases c arena with ⟨f, hr⟩ | ⟨row, hr, ha⟩ | ⟨row, hb⟩
  · have hrecord : record c (table, arena) = (.error f, (table, arena)) := record_of_unread hr
    refine orderly_of_idle hl ?_ ?_ ?_
    · simp only [Passage.of, hrecord]
    · simp only [requests, Passage.of, hr]
    · simp only [visitFreely, Passage.of, hr, hrecord]
  · have hrecord : record c (table, arena) = (.error (.outOfMemory "arena"), (table, arena)) :=
      record_of_unkept hr ha
    refine orderly_of_idle hl ?_ ?_ ?_
    · simp only [Passage.of, hrecord]
    · simp only [requests, Passage.of, hr, ha, Bool.false_eq_true, if_false]
    · simp only [visitFreely, Passage.of, hr, ha, hrecord, Bool.false_eq_true, if_false]
  · exact orderly_of_begun hb hl

end Visits

end Passage

def passages : List Call → StripeTable × Arena → List Passage
  | [], _ => []
  | call :: calls, (table, arena) =>
    let found := call.meanwhile arena
    .of call.component table found :: passages calls (record call.component (table, found)).2

section Shares

variable {m n : Nat}

theorem share_mono (composite : Bool) (c : Component) (h : m ≤ n) :
    share composite c m ≤ share composite c n := by
  unfold share
  split
  · exact Nat.le_refl 0
  · exact rowShare_mono composite _ h

theorem share_succ_le (composite : Bool) (c : Component) (n : Nat) :
    share composite c (n + 1) ≤ share composite c n + 1 := by
  unfold share rowShare
  split
  · exact Nat.zero_le 1
  · split <;> omega

/-- A mark for a stripe count takes no more than the largest stripe count there is. -/
theorem share_le (composite : Bool) (c : Component) (n : Nat) :
    share composite c n ≤ maxStripeCount.toNat + n := by
  unfold share rowShare
  split
  · exact Nat.zero_le _
  · next row _ =>
    have hahead := toNat_min_maxStripeCount_le row.stripeCount
    have hone : 1 ≤ maxStripeCount.toNat := by decide
    split <;> omega

end Shares

def roomTaken (composite : Bool) (visits : List Passage) : Nat :=
  (visits.map fun v => share composite v.component v.listed.length).sum

def roomWanted (composite : Bool) (visits : List Passage) : Nat :=
  (visits.map fun v =>
    share composite v.component (visitFreely composite v.arena v.component).2.length).sum

/-- A run of visits, with what becomes of the list of targets. -/
structure Passing (table : StripeTable) (visits : List Passage) (after : StripeTable) : Prop where
  orderly : ∀ v ∈ visits, v.Orderly table.composite
  values : after.targets.values.toList =
    table.targets.values.toList ++ visits.flatMap Passage.listed
  fits : after.targets.size ≤ after.targets.capacity
  capacity : after.targets.capacity ≤ table.targets.capacity + roomTaken table.composite visits
  /-- The first visit that finds too little room finds what the visits before it have left. -/
  free : (∀ v ∈ visits, v.Free table.composite) ∨ ∃ first v rest, visits = first ++ v :: rest ∧
    (∀ u ∈ first, u.Free table.composite) ∧
    Size.slotLimit ≤ table.targets.capacity + roomTaken table.composite first +
      share table.composite v.component
        (min (v.listed.length + 1) (visitFreely table.composite v.arena v.component).2.length)

section Runs

variable {table next after : StripeTable} {v : Passage} {visits : List Passage}

theorem Passing.cons (hv : v.Orderly table.composite) (hbefore : v.before = table.targets)
    (hafter : v.after = next.targets) (hcomposite : next.composite = table.composite)
    (ht : Passing next visits after) : Passing table (v :: visits) after := by
  obtain ⟨horderly, hvalues, hfits, hcapacity, hfree⟩ := ht
  rw [hcomposite] at horderly hcapacity hfree
  have hgrown := hv.capacity
  rw [hbefore, hafter] at hgrown
  constructor
  case orderly => exact List.forall_mem_cons.mpr ⟨hv, horderly⟩
  case values =>
    rw [hvalues, ← hafter, hv.values, hbefore, List.flatMap_cons, List.append_assoc]
  case fits => exact hfits
  case capacity =>
    rw [roomTaken, List.map_cons, List.sum_cons]
    rw [roomTaken] at hcapacity
    omega
  case free =>
    rcases hv.free with hvfree | hlarge
    · rcases hfree with hrest | ⟨first, u, rest, rfl, hfirst, hlarge⟩
      · exact .inl (List.forall_mem_cons.mpr ⟨hvfree, hrest⟩)
      · refine .inr ⟨v :: first, u, rest, rfl, List.forall_mem_cons.mpr ⟨hvfree, hfirst⟩, ?_⟩
        rw [roomTaken, List.map_cons, List.sum_cons]
        rw [roomTaken] at hlarge
        omega
    · refine .inr ⟨[], v, visits, rfl, List.forall_mem_nil _, ?_⟩
      rwa [hbefore] at hlarge

/-- A run of visits, by induction on the calls. What the list keeps from one visit to the next is
that it has room for all that is in it. -/
theorem passing_passages (calls : List Call) (table : StripeTable) (arena : Arena)
    (hl : table.targets.size ≤ table.targets.capacity) :
    Passing table (passages calls (table, arena)) (recordEach calls (table, arena)).2.1 := by
  induction calls generalizing table arena with
  | nil =>
    exact ⟨List.forall_mem_nil _, (List.append_nil _).symm, hl, Nat.le_add_right _ _,
      .inl (List.forall_mem_nil _)⟩
  | cons call calls ih =>
    have hv := Passage.orderly_of call.component (call.meanwhile arena) hl
    obtain ⟨_, hstep⟩ := record_course call.component (call.meanwhile arena) hl
    have ht := ih (record call.component (table, call.meanwhile arena)).2.1
      (record call.component (table, call.meanwhile arena)).2.2 hv.fits
    exact .cons hv rfl rfl hstep.composite ht

theorem answers_passages (calls : List Call) (table : StripeTable) (arena : Arena) :
    (recordEach calls (table, arena)).1 =
      (passages calls (table, arena)).map fun v => (v.arena, v.outcome) := by
  induction calls generalizing table arena with
  | nil => rfl
  | cons call calls ih =>
    exact congrArg (List.cons _) (ih (record call.component (table, call.meanwhile arena)).2.1
      (record call.component (table, call.meanwhile arena)).2.2)

theorem components_passages (calls : List Call) (table : StripeTable) (arena : Arena) :
    (passages calls (table, arena)).map Passage.component = calls.map Call.component := by
  induction calls generalizing table arena with
  | nil => rfl
  | cons call calls ih =>
    exact congrArg (List.cons _) (ih (record call.component (table, call.meanwhile arena)).2.1
      (record call.component (table, call.meanwhile arena)).2.2)

theorem roomTaken_le (composite : Bool) (visits : List Passage) :
    roomTaken composite visits ≤
      maxStripeCount.toNat * visits.length + (visits.flatMap Passage.listed).length := by
  induction visits with
  | nil => exact Nat.zero_le _
  | cons v visits ih =>
    have hv := share_le composite v.component v.listed.length
    rw [roomTaken, List.map_cons, List.sum_cons, ← roomTaken, List.length_cons, Nat.mul_succ,
      List.flatMap_cons, List.length_append]
    omega

theorem roomTaken_append (composite : Bool) (first rest : List Passage) :
    roomTaken composite (first ++ rest) = roomTaken composite first + roomTaken composite rest := by
  simp [roomTaken]

theorem roomWanted_append (composite : Bool) (first rest : List Passage) :
    roomWanted composite (first ++ rest) =
      roomWanted composite first + roomWanted composite rest := by
  simp [roomWanted]

theorem roomTaken_eq_roomWanted {composite : Bool} (h : ∀ v ∈ visits, v.Free composite) :
    roomTaken composite visits = roomWanted composite visits := by
  refine congrArg List.sum (List.map_congr_left fun v hv => ?_)
  rw [← (h v hv).1]

/-- Room is not wanting below the limit, whether it is counted for what there is to list or for what
has been listed and one more target. -/
theorem Passing.all_free (ht : Passing table visits after)
    (h : table.targets.capacity + roomWanted table.composite visits < Size.slotLimit ∨
      table.targets.capacity + roomTaken table.composite visits + 1 < Size.slotLimit) :
    ∀ v ∈ visits, v.Free table.composite := by
  rcases ht.free with hfree | ⟨first, v, rest, rfl, hfirst, hlarge⟩
  · exact hfree
  · exfalso
    have hwanted := share_mono table.composite v.component (Nat.min_le_right (v.listed.length + 1)
      (visitFreely table.composite v.arena v.component).2.length)
    have hnext := share_mono table.composite v.component (Nat.min_le_left (v.listed.length + 1)
      (visitFreely table.composite v.arena v.component).2.length)
    have htaken := share_succ_le table.composite v.component v.listed.length
    rcases h with h | h
    · rw [roomWanted_append, ← roomTaken_eq_roomWanted hfirst, roomWanted, List.map_cons,
        List.sum_cons] at h
      omega
    · rw [roomTaken_append, roomTaken, roomTaken, List.map_cons, List.sum_cons] at h
      rw [roomTaken] at hlarge
      omega

end Runs

/-- Visits to a new table, whatever their stripe counts, fill its list with what each of them has
listed. Every target of the list has found room, the capacity is at most the sum of the room that the
table was made with and that the visits take, and while that is below `Size.slotLimit`, each
visit answers and lists what it would if no room were made ahead at all. -/
theorem targets_of_passages {room : Nat} {composite : Bool} {new : StripeTable}
    (h : withRoom room composite = .ok new) (calls : List Call) (arena : Arena) :
    let visits := passages calls (new, arena)
    let table := (recordEach calls (new, arena)).2.1
    visits.map Passage.component = calls.map Call.component ∧
    (recordEach calls (new, arena)).1 = visits.map (fun v => (v.arena, v.outcome)) ∧
    table.targets.values.toList = visits.flatMap Passage.listed ∧
    table.targets.size ≤ table.targets.capacity ∧
    table.targets.capacity ≤ room + roomTaken composite visits ∧
    roomTaken composite visits ≤ maxStripeCount.toNat * calls.length + table.targets.size ∧
    (∀ v ∈ visits, v.before.Grants (v.requests composite) v.after ∨
      v.listed = [] ∧ v.after = v.before) ∧
    (room + roomWanted composite visits < Size.slotLimit ∨
        room + roomTaken composite visits + 1 < Size.slotLimit →
      ∀ v ∈ visits, v.Free composite) := by
  cases eq_of_withRoom h
  have ht := passing_passages calls ⟨composite, #[], ⟨#[], room⟩⟩ arena (Nat.zero_le room)
  have hvalues := ht.values
  rw [List.nil_append] at hvalues
  have hcomponents := components_passages calls ⟨composite, #[], ⟨#[], room⟩⟩ arena
  have hlength : (passages calls (⟨composite, #[], ⟨#[], room⟩⟩, arena)).length = calls.length := by
    simpa using congrArg List.length hcomponents
  refine ⟨hcomponents, answers_passages calls _ arena, hvalues, ht.fits, ht.capacity, ?_,
    fun v hv => (ht.orderly v hv).granted, ht.all_free⟩
  have htaken := roomTaken_le composite (passages calls (⟨composite, #[], ⟨#[], room⟩⟩, arena))
  rwa [hlength, ← hvalues, Array.length_toList] at htaken

/-- Two components whose stripe counts are marks, with one between them that is not bound. -/
theorem targets_of_passages_of_marks :
    let calls := [{ reporting 0x10 #[8] with stripeCount := .ok 0xFFFFFFFFFFFFFFFF },
      reporting 0x11 #[5], { reporting 0x10 #[9] with stripeCount := .ok 0x1000000000000002 }].map
      (Call.mk id)
    let new : StripeTable := ⟨true, #[], ⟨#[], 2⟩⟩
    withRoom 2 true = .ok new ∧
      roomTaken true (passages calls (new, Arena.empty none)) = 4001 ∧
      (recordEach calls (new, Arena.empty none)).2.1.targets.values.toList = [8, notBound, 9] ∧
      ∀ v ∈ passages calls (new, Arena.empty none), v.Free true := by
  intro calls new
  have hroom : withRoom 2 true = .ok new := rfl
  have htaken : roomTaken true (passages calls (new, Arena.empty none)) = 4001 := by
    decide +kernel
  have hlisted : (passages calls (new, Arena.empty none)).flatMap Passage.listed =
      [8, notBound, 9] := by decide +kernel
  obtain ⟨-, -, hvalues, -, -, -, -, hfree⟩ := targets_of_passages hroom calls (Arena.empty none)
  refine ⟨hroom, htaken, hvalues.trans hlisted, hfree (.inr ?_)⟩
  rw [htaken]
  decide

end StripeTable

end FileCatalog

import FileCatalog.Proofs.StripeLoop
import Mathlib.Data.List.Forall2

/-!
# Stripe tables over any run of visits

Components are visited one after the other, and a visit may fail at any call, at the arena or for
want of room. The main statement says what the table holds after any such run: its columns have one
entry for each successful visit, in the order of the visits, and the list of targets is made of what
each visit has listed, failed visits included. The course of one visit is told first, by the point
at which it stopped, and the run is put together from these courses.
-/

namespace FileCatalog

namespace StripeTable

open TargetList (noMemory)

/-- Targets that the first stripes of a component report, in the order of the stripes. -/
def Reports (c : Component) (ts : List UInt64) : Prop :=
  ∀ i (h : i < ts.length), c.target (.ofNat i) = .ok (some ts[i])

/-- The targets of the stripes 0, 1 and so on, up to the stripe count or the first stripe that has
none. -/
structure Lists (c : Component) (count : UInt64) (ts : List UInt64) : Prop where
  reports : Reports c ts
  ended : ts.length = count.toNat ∨
    ts.length < count.toNat ∧ c.target (.ofNat ts.length) = .ok none

/-- A component of a plain layout is bound, and one of a composite layout if its flags say so and
nothing else. -/
def Bound (composite : Bool) (row : Row) : Prop :=
  composite = false ∨ row.flags = Component.boundFlag

def Places (composite : Bool) (row : Row) (c : Component) (ts : List UInt64) : Prop :=
  (Bound composite row → Lists c row.stripeCount ts) ∧ (¬Bound composite row → ts = [notBound])

structure Begun (arena : Arena) (c : Component) (row : Row) : Prop where
  read : readRow c = .ok row
  kept : arena.fits (Bytes.ofText row.pool).length = true

/-- How a visit goes that finds the given arena, by the point at which it stops, with what it has
listed by then. Room is wanting only for `Size.slotLimit` slots or more. -/
inductive Visited (composite : Bool) (capacity : Nat) (arena : Arena) (c : Component) :
    Except Fault Unit → List UInt64 → Prop
  | recorded {row ts} : Begun arena c row → Places composite row c ts →
      (composite = true → ∃ s, readSegment c = .ok s) →
      Visited composite capacity arena c (.ok ()) ts
  | unread {f} : readRow c = .error f → Visited composite capacity arena c (.error f) []
  | unkept {row} : readRow c = .ok row → arena.fits (Bytes.ofText row.pool).length = false →
      Visited composite capacity arena c (.error (.outOfMemory "arena")) []
  | broken {row ts f} : Begun arena c row → Bound composite row → Reports c ts →
      ts.length < row.stripeCount.toNat → c.target (.ofNat ts.length) = .error f →
      Visited composite capacity arena c (.error f) ts
  | crowded {row ts} : Begun arena c row →
      (ts = [] ∨ Bound composite row ∧ Reports c ts ∧ ts.length < row.stripeCount.toNat) →
      Size.slotLimit ≤ capacity + maxStripeCount.toNat →
      Visited composite capacity arena c (.error noMemory) ts
  | unplaced {row ts f} : Begun arena c row → Places composite row c ts → composite = true →
      readSegment c = .error f → Visited composite capacity arena c (.error f) ts

/-- Room that is wanting in a list is wanting in a longer one. -/
theorem Visited.mono {composite : Bool} {k m : Nat} {arena : Arena} {c : Component}
    {outcome : Except Fault Unit} {ts : List UInt64} (h : Visited composite k arena c outcome ts)
    (hkm : k ≤ m) : Visited composite m arena c outcome ts := by
  cases h with
  | recorded hb hp hs => exact .recorded hb hp hs
  | unread hr => exact .unread hr
  | unkept hr ha => exact .unkept hr ha
  | broken hb hbound hr hlt ht => exact .broken hb hbound hr hlt ht
  | crowded hb hts hfull =>
    exact .crowded hb hts (Nat.le_trans hfull (Nat.add_le_add_right hkm _))
  | unplaced hb hp hc hs => exact .unplaced hb hp hc hs

theorem isBound_iff {composite : Bool} {row : Row} :
    isBound composite row.flags = true ↔ Bound composite row := by
  cases composite <;> simp [isBound, Bound]

/-- How listing the targets of a component goes, once the calls before it have answered. -/
inductive Listing (composite : Bool) (row : Row) (c : Component) (capacity : Nat) :
    Except Fault Unit → List UInt64 → Prop
  | complete {ts} : Places composite row c ts → Listing composite row c capacity (.ok ()) ts
  | broken {ts f} : Bound composite row → Reports c ts → ts.length < row.stripeCount.toNat →
      c.target (.ofNat ts.length) = .error f → Listing composite row c capacity (.error f) ts
  | crowded {ts} :
      (ts = [] ∨ Bound composite row ∧ Reports c ts ∧ ts.length < row.stripeCount.toNat) →
      Size.slotLimit ≤ capacity + maxStripeCount.toNat →
      Listing composite row c capacity (.error noMemory) ts

theorem toNat_min_maxStripeCount_le (count : UInt64) :
    (min count maxStripeCount).toNat ≤ maxStripeCount.toNat := by
  change (if count ≤ maxStripeCount then count else maxStripeCount).toNat ≤ _
  by_cases h : count ≤ maxStripeCount
  · rw [if_pos h]
    exact UInt64.le_iff_toNat_le.mp h
  · exact Nat.le_of_eq (congrArg UInt64.toNat (if_neg h))

section Listings

variable {composite : Bool} {row : Row} {c : Component} {l m : TargetList}
  {outcome : Except Fault Unit} {ts : List UInt64}

theorem enumerates_places (hb : Bound composite row) :
    Enumerates c.target row.stripeCount.toNat 0 (places composite row c).1
      (places composite row c).2 := by
  rw [places, if_pos (isBound_iff.mpr hb)]
  exact enumerates_enumerate _ _ _

theorem places_of_unbound (hb : ¬Bound composite row) :
    places composite row c = (.ok (), [notBound]) :=
  if_neg (isBound_iff.not.mpr hb)

theorem listing_places (composite : Bool) (row : Row) (c : Component) (capacity : Nat) :
    Listing composite row c capacity (places composite row c).1 (places composite row c).2 := by
  by_cases hb : Bound composite row
  · have he := enumerates_places (c := c) hb
    have hreports : Reports c (places composite row c).2 := by simpa [Reports] using he.reports
    have hstop := he.stop
    simp only [UInt64.zero_add] at hstop
    rcases hstop with ⟨hall, hok⟩ | ⟨hlt, ⟨hnone, hok⟩ | ⟨f, hf, herror⟩⟩
    · exact hok ▸ .complete ⟨fun _ => ⟨hreports, .inl hall⟩, fun h => absurd hb h⟩
    · exact hok ▸ .complete ⟨fun _ => ⟨hreports, .inr ⟨hlt, hnone⟩⟩, fun h => absurd hb h⟩
    · exact herror ▸ .broken hb hreports hlt hf
  · rw [places_of_unbound hb]
    exact .complete ⟨fun h => absurd h hb, fun _ => rfl⟩

/-- What is listed before room is wanting is the beginning of all that there is to list. -/
theorem reports_of_places {first rest : List UInt64} {t : UInt64}
    (hplaces : (places composite row c).2 = first ++ t :: rest) :
    first = [] ∨ Bound composite row ∧ Reports c first ∧ first.length < row.stripeCount.toNat := by
  by_cases hb : Bound composite row
  · have he := enumerates_places (c := c) hb
    rw [hplaces] at he
    have hlength : (first ++ t :: rest).length ≤ row.stripeCount.toNat := by
      rcases he.stop with ⟨heq, -⟩ | ⟨hlt, -⟩ <;> omega
    rw [List.length_append, List.length_cons] at hlength
    refine .inr ⟨hb, ?_, by omega⟩
    intro i hi
    have hi' : i < (first ++ t :: rest).length := by
      rw [List.length_append]
      omega
    simpa [List.getElem_append_left hi] using he.reports i hi'
  · rw [places_of_unbound hb] at hplaces
    cases first with
    | nil => exact .inl rfl
    | cons u us => simp at hplaces

theorem Placing.listing (h : Placing composite row c l outcome ts m) (hl : l.size ≤ l.capacity) :
    Listing composite row c m.capacity outcome ts := by
  have hfits := (h.grown hl).fits
  cases h with
  | placed hplaces _ =>
    have hlisting := listing_places composite row c m.capacity
    rwa [hplaces] at hlisting
  | refused _ hlarge =>
    have hmin := toNat_min_maxStripeCount_le row.stripeCount
    exact .crowded (.inl rfl) (by omega)
  | crowded hplaces _ hlarge =>
    have hone : 1 ≤ maxStripeCount.toNat := by decide
    exact .crowded (reports_of_places hplaces) (by omega)

end Listings

structure Answers (composite : Bool) (c : Component) (row : Row) : Prop where
  stripeCount : c.stripeCount = .ok row.stripeCount
  stripeSize : c.stripeSize = .ok row.stripeSize
  pattern : c.pattern = .ok row.pattern
  flags : c.flags = .ok row.flags
  pool : c.pool = .ok row.pool
  segment : composite = true → ∃ s, row.segment = some s ∧ c.extent = .ok (s.start, s.stop) ∧
    c.mirror = .ok s.mirror

section Visits

variable {c : Component} {table : StripeTable} {arena : Arena} {row : Row} {f : Fault}
  {l : TargetList} {segment : Segment}

theorem answers_of_readRow (h : readRow c = .ok row) : Answers false c row := by
  unfold readRow at h
  cases hcount : c.stripeCount <;> rw [hcount] at h <;> try contradiction
  cases hsize : c.stripeSize <;> rw [hsize] at h <;> try contradiction
  cases hpattern : c.pattern <;> rw [hpattern] at h <;> try contradiction
  cases hflags : c.flags <;> rw [hflags] at h <;> try contradiction
  cases hpool : c.pool <;> rw [hpool] at h <;> try contradiction
  cases h
  exact ⟨hcount, hsize, hpattern, hflags, hpool, fun hc => nomatch hc⟩

theorem extent_of_readSegment (h : readSegment c = .ok segment) :
    c.extent = .ok (segment.start, segment.stop) ∧ c.mirror = .ok segment.mirror := by
  unfold readSegment at h
  cases hextent : c.extent <;> rw [hextent] at h <;> try contradiction
  cases hmirror : c.mirror <;> rw [hmirror] at h <;> try contradiction
  cases h
  exact ⟨rfl, rfl⟩

theorem answers_placed (hr : readRow c = .ok row) (hs : readSegment c = .ok segment) :
    Answers true c { row with segment := some segment } := by
  have h := answers_of_readRow hr
  exact ⟨h.stripeCount, h.stripeSize, h.pattern, h.flags, h.pool,
    fun _ => ⟨segment, rfl, extent_of_readSegment hs⟩⟩

theorem answers_plain (hr : readRow c = .ok row) :
    Answers false c { row with segment := none } := by
  have h := answers_of_readRow hr
  exact ⟨h.stripeCount, h.stripeSize, h.pattern, h.flags, h.pool, fun hc => nomatch hc⟩

theorem withRoom_of_lt {composite : Bool} {room : Nat} (h : room < Size.slotLimit) :
    withRoom room composite = .ok ⟨composite, #[], ⟨#[], room⟩⟩ := by
  simp [withRoom, TargetList.withCapacity, h, bind, Except.bind, pure, Except.pure]

theorem eq_of_withRoom {composite : Bool} {room : Nat} {new : StripeTable}
    (h : withRoom room composite = .ok new) : new = ⟨composite, #[], ⟨#[], room⟩⟩ := by
  unfold withRoom at h
  cases hl : TargetList.withCapacity room with
  | error f =>
    rw [hl] at h
    cases h
  | ok l =>
    rw [hl] at h
    cases h
    rw [TargetList.eq_of_withCapacity hl]

/-- A visit stops at the row or at the name of its pool, or it goes on to the targets. -/
theorem begun_cases (c : Component) (arena : Arena) :
    (∃ f, readRow c = .error f) ∨
      (∃ row, readRow c = .ok row ∧ arena.fits (Bytes.ofText row.pool).length = false) ∨
      ∃ row, Begun arena c row := by
  cases hr : readRow c with
  | error f => exact .inl ⟨f, rfl⟩
  | ok row =>
    right
    cases ha : arena.fits (Bytes.ofText row.pool).length with
    | false => exact .inl ⟨row, rfl, ha⟩
    | true => exact .inr ⟨row, hr, ha⟩

theorem record_of_unread (hr : readRow c = .error f) :
    record c (table, arena) = (.error f, (table, arena)) := by
  simp [record, hr]

theorem record_of_unkept (hr : readRow c = .ok row)
    (ha : arena.fits (Bytes.ofText row.pool).length = false) :
    record c (table, arena) = (.error (.outOfMemory "arena"), (table, arena)) := by
  simp [record, hr, onArena, Arena.pushText, Arena.push_of_not_fits ha]

/-- Once the name of the pool is kept, the targets are listed, and then the segment is read. -/
theorem record_of_begun (hb : Begun arena c row) :
    record c (table, arena) =
      match listTargets table.composite row c table.targets with
      | (.error f, l) =>
        (.error f, ({ table with targets := l }, arena.spend (Bytes.ofText row.pool).length))
      | (.ok (), l) =>
        match if table.composite then some <$> readSegment c else .ok none with
        | .error f =>
          (.error f, ({ table with targets := l }, arena.spend (Bytes.ofText row.pool).length))
        | .ok segment =>
          (.ok (), ({ table with targets := l, rows := table.rows.push { row with segment } },
            arena.spend (Bytes.ofText row.pool).length)) := by
  have hp : Arena.pushText row.pool arena = (.ok (), arena.spend (Bytes.ofText row.pool).length) :=
    Arena.push_of_fits hb.kept
  rcases hl : listTargets table.composite row c table.targets with ⟨f | ⟨⟩, l⟩
  · simp [record, hb.read, onArena, onTargets, hp, hl]
  · cases hc : table.composite with
    | false =>
      rw [hc] at hl
      simp [record, hb.read, onArena, onTargets, hp, hl, hc]
    | true =>
      rw [hc] at hl
      cases hs : readSegment c <;> simp [record, hb.read, onArena, onTargets, hp, hl, hc, hs]

structure Step (table : StripeTable) (arena : Arena) (c : Component) (outcome : Except Fault Unit)
    (ts : List UInt64) (after : StripeTable) : Prop where
  visited : Visited table.composite after.targets.capacity arena c outcome ts
  grown : table.targets.Grown ts after.targets
  composite : after.composite = table.composite
  rows : ∃ new, after.rows.toList = table.rows.toList ++ new ∧
    List.Forall₂ (Answers table.composite) (if outcome.isOk then [c] else []) new

theorem Step.of_failure {ts : List UInt64}
    (hv : Visited table.composite l.capacity arena c (.error f) ts)
    (hg : table.targets.Grown ts l) :
    Step table arena c (.error f) ts { table with targets := l } :=
  ⟨hv, hg, rfl, [], (List.append_nil _).symm, .nil⟩

theorem Step.of_success {ts : List UInt64}
    (hv : Visited table.composite l.capacity arena c (.ok ()) ts)
    (hg : table.targets.Grown ts l) (ha : Answers table.composite c row) :
    Step table arena c (.ok ()) ts { table with targets := l, rows := table.rows.push row } :=
  ⟨hv, hg, rfl, [row], Array.toList_push, .cons ha .nil⟩

/-- Every visit is one of the courses told above, wherever it stops. -/
theorem record_course (c : Component) (arena : Arena)
    (hl : table.targets.size ≤ table.targets.capacity) :
    ∃ ts, Step table arena c (record c (table, arena)).1 ts (record c (table, arena)).2.1 := by
  rcases begun_cases c arena with ⟨f, hr⟩ | ⟨row, hr, ha⟩ | ⟨row, hb⟩
  · rw [record_of_unread hr]
    exact ⟨[], .of_failure (.unread hr) (.refl hl)⟩
  · rw [record_of_unkept hr ha]
    exact ⟨[], .of_failure (.unkept hr ha) (.refl hl)⟩
  · obtain ⟨ts, hplacing⟩ := listTargets_course table.composite row c hl
    have hg := hplacing.grown hl
    have hlisting := hplacing.listing hl
    rw [record_of_begun hb]
    rcases hlist : listTargets table.composite row c table.targets with ⟨outcome, l⟩
    rw [hlist] at hg hlisting
    refine ⟨ts, ?_⟩
    cases hlisting with
    | broken hbound hreports hlt ht => exact .of_failure (.broken hb hbound hreports hlt ht) hg
    | crowded hts hfull => exact .of_failure (.crowded hb hts hfull) hg
    | complete hp =>
      obtain ⟨composite, rows, targets⟩ := table
      cases composite with
      | false => exact .of_success (.recorded hb hp nofun) hg (answers_plain hb.read)
      | true =>
        cases hs : readSegment c with
        | error f => exact .of_failure (.unplaced hb hp rfl hs) hg
        | ok segment =>
          exact .of_success (.recorded hb hp fun _ => ⟨segment, hs⟩) hg (answers_placed hb.read hs)

end Visits

/-- A component to visit, and what is done meanwhile to the arena, which others share. -/
structure Call where
  meanwhile : Arena → Arena
  component : Component

/-- Visit components one after the other and go on after failures, telling for each the arena that
the visit has found and what it has answered. -/
def recordEach : List Call → StripeTable × Arena →
    List (Arena × Except Fault Unit) × StripeTable × Arena
  | [], (table, arena) => ([], (table, arena))
  | call :: calls, (table, arena) =>
    let found := call.meanwhile arena
    let (outcome, state) := record call.component (table, found)
    let (rest, state) := recordEach calls state
    ((found, outcome) :: rest, state)

structure Visit where
  component : Component
  arena : Arena
  outcome : Except Fault Unit
  listed : List UInt64

def recorded (visits : List Visit) : List Component :=
  visits.flatMap fun v => if v.outcome.isOk then [v.component] else []

/-- A run of visits to a table, with the answers that were given. -/
structure Run (table : StripeTable) (calls : List Call) (answers : List (Arena × Except Fault Unit))
    (visits : List Visit) (after : StripeTable) : Prop where
  components : visits.map Visit.component = calls.map Call.component
  answers : visits.map (fun v => (v.arena, v.outcome)) = answers
  visited : ∀ v ∈ visits,
    Visited table.composite after.targets.capacity v.arena v.component v.outcome v.listed
  grown : table.targets.Grown (visits.flatMap Visit.listed) after.targets
  composite : after.composite = table.composite
  rows : ∃ new, after.rows.toList = table.rows.toList ++ new ∧
    List.Forall₂ (Answers table.composite) (recorded visits) new

theorem Run.cons {table next after : StripeTable} {arena : Arena} {call : Call} {calls : List Call}
    {outcome : Except Fault Unit} {answers : List (Arena × Except Fault Unit)} {ts : List UInt64}
    {visits : List Visit} (hs : Step table arena call.component outcome ts next)
    (hr : Run next calls answers visits after) :
    Run table (call :: calls) ((arena, outcome) :: answers)
      (⟨call.component, arena, outcome, ts⟩ :: visits) after := by
  obtain ⟨first, hfirst, hfirstRows⟩ := hs.rows
  obtain ⟨rest, hrest, hrestRows⟩ := hr.rows
  rw [hs.composite] at hrestRows
  constructor
  case components => rw [List.map_cons, List.map_cons, hr.components]
  case answers => rw [List.map_cons, hr.answers]
  case visited =>
    intro v hv
    rcases List.mem_cons.mp hv with rfl | hv
    · exact hs.visited.mono hr.grown.capacity
    · exact hs.composite ▸ hr.visited v hv
  case grown => exact hs.grown.trans hr.grown
  case composite => rw [hr.composite, hs.composite]
  case rows =>
    refine ⟨first ++ rest, ?_, List.rel_append hfirstRows hrestRows⟩
    rw [hrest, hfirst, List.append_assoc]

/-- A run of visits, by induction on the calls: what the list of targets keeps from one visit to
the next is that it has room for all that is in it. -/
theorem recordEach_course (calls : List Call) (table : StripeTable) (arena : Arena)
    (hl : table.targets.size ≤ table.targets.capacity) :
    ∃ visits, Run table calls (recordEach calls (table, arena)).1 visits
      (recordEach calls (table, arena)).2.1 := by
  induction calls generalizing table arena with
  | nil =>
    exact ⟨[], rfl, rfl, by simp, .refl hl, rfl, [], (List.append_nil _).symm, .nil⟩
  | cons call calls ih =>
    obtain ⟨ts, hs⟩ := record_course call.component (call.meanwhile arena) hl
    obtain ⟨visits, hr⟩ := ih _ (record call.component (table, call.meanwhile arena)).2.2
      hs.grown.fits
    exact ⟨_ :: visits, .cons hs hr⟩

/-- The columns of a table, each with its name and what it takes from a component. -/
def columns (composite : Bool) : List (String × (Component → Except Fault AttrValue)) :=
  [("stripe_count", fun c => .uint64 <$> c.stripeCount),
    ("stripe_size", fun c => .uint64 <$> c.stripeSize),
    ("pattern", fun c => .uint64 <$> c.pattern),
    ("comp_flags", fun c => .uint32 <$> c.flags),
    ("pool", fun c => .text <$> c.pool)] ++
  if composite then
    [("mirror_id", fun c => .uint32 <$> c.mirror),
      ("begin", fun c => (fun extent => .uint64 extent.1) <$> c.extent),
      ("end", fun c => (fun extent => .uint64 extent.2) <$> c.extent)]
  else []

/-- The attribute is the column of the given components: it has one item for each of them, in
their order, which is what the component answers. -/
def IsColumn (cs : List Component) (column : String × (Component → Except Fault AttrValue))
    (a : Attribute) : Prop :=
  a.key = column.1 ∧ ∃ items, a.value = .sequence items ∧ cs.map column.2 = items.map .ok

section Columns

variable {composite : Bool} {cs : List Component} {table : StripeTable}

theorem map_eq_of_answers {rows : List Row} {get : Component → Except Fault AttrValue}
    {value : Row → Option AttrValue}
    (hget : ∀ c row, Answers composite c row → ∃ item, value row = some item ∧ get c = .ok item)
    (h : List.Forall₂ (Answers composite) cs rows) :
    cs.map get = (rows.filterMap value).map .ok := by
  induction h with
  | nil => rfl
  | cons ha _ ih =>
    obtain ⟨item, hvalue, hc⟩ := hget _ _ ha
    rw [List.map_cons, ih, hc, List.filterMap_cons_some hvalue, List.map_cons]

theorem isColumn_column {name : String} {get : Component → Except Fault AttrValue}
    {value : Row → AttrValue} (h : List.Forall₂ (Answers composite) cs table.rows.toList)
    (hget : ∀ c row, Answers composite c row → get c = .ok (value row)) :
    IsColumn cs (name, get) ⟨name, table.column value⟩ := by
  refine ⟨rfl, _, rfl, ?_⟩
  have hmap := map_eq_of_answers (fun c row ha => ⟨value row, rfl, hget c row ha⟩) h
  rwa [List.filterMap_eq_map'] at hmap

theorem isColumn_segmentColumn {name : String} {get : Component → Except Fault AttrValue}
    {value : Segment → AttrValue} (h : List.Forall₂ (Answers true) cs table.rows.toList)
    (hget : ∀ c s, c.extent = .ok (s.start, s.stop) → c.mirror = .ok s.mirror →
      get c = .ok (value s)) :
    IsColumn cs (name, get) ⟨name, table.segmentColumn value⟩ := by
  refine ⟨rfl, _, rfl, map_eq_of_answers (fun c row ha => ?_) h⟩
  obtain ⟨s, hs, hextent, hmirror⟩ := ha.segment rfl
  exact ⟨value s, by rw [hs]; rfl, hget c s hextent hmirror⟩

theorem attributes_of_answers (h : List.Forall₂ (Answers table.composite) cs table.rows.toList) :
    ∃ as, table.attributes =
        as ++ [⟨"ost", .sequence (table.targets.values.toList.map .uint64)⟩] ∧
      List.Forall₂ (IsColumn cs) (columns table.composite) as := by
  refine ⟨_, rfl, List.rel_append ?_ ?_⟩
  · refine .cons ?_ (.cons ?_ (.cons ?_ (.cons ?_ (.cons ?_ .nil))))
    · exact isColumn_column h fun c row ha => by rw [ha.stripeCount]; rfl
    · exact isColumn_column h fun c row ha => by rw [ha.stripeSize]; rfl
    · exact isColumn_column h fun c row ha => by rw [ha.pattern]; rfl
    · exact isColumn_column h fun c row ha => by rw [ha.flags]; rfl
    · exact isColumn_column h fun c row ha => by rw [ha.pool]; rfl
  · unfold segmentAttributes
    cases hc : table.composite with
    | false => exact .nil
    | true =>
      rw [hc] at h
      refine .cons ?_ (.cons ?_ (.cons ?_ .nil))
      · exact isColumn_segmentColumn h fun c s _ hmirror => by rw [hmirror]; rfl
      · exact isColumn_segmentColumn h fun c s hextent _ => by rw [hextent]; rfl
      · exact isColumn_segmentColumn h fun c s hextent _ => by rw [hextent]; rfl

end Columns

/-- After any run of visits to a new table, each column has one item for each successful visit, in
the order of the visits, and the list of targets is what the visits have listed, one after the
other, where each visit has gone one of the ways there are. A new table is refused only with room
for `Size.slotLimit` components or more. -/
theorem recordEach_attributes (room : Nat) (composite : Bool) (arena : Arena)
    (calls : List Call) :
    match withRoom room composite with
    | .error f => f = noMemory ∧ Size.slotLimit ≤ room
    | .ok new =>
      ∃ visits : List Visit,
        let (answers, table, _) := recordEach calls (new, arena)
        visits.map Visit.component = calls.map Call.component ∧
        visits.map (fun v => (v.arena, v.outcome)) = answers ∧
        (∀ v ∈ visits, Visited composite table.targets.capacity v.arena v.component v.outcome
          v.listed) ∧
        (recorded visits).length = table.rows.size ∧
        ∃ as, table.attributes =
            as ++ [⟨"ost", .sequence ((visits.flatMap Visit.listed).map .uint64)⟩] ∧
          List.Forall₂ (IsColumn (recorded visits)) (columns composite) as := by
  unfold withRoom TargetList.withCapacity
  by_cases hroom : room < Size.slotLimit
  · rw [if_pos hroom]
    obtain ⟨visits, hr⟩ := recordEach_course calls ⟨composite, #[], ⟨#[], room⟩⟩ arena
      (Nat.zero_le _)
    obtain ⟨rows, hrows, hanswers⟩ := hr.rows
    rw [← hr.composite] at hanswers
    rw [List.nil_append] at hrows
    rw [← hrows] at hanswers
    obtain ⟨as, has, hcolumns⟩ := attributes_of_answers hanswers
    refine ⟨visits, hr.components, hr.answers, hr.visited, ?_, as, ?_, ?_⟩
    · rw [hanswers.length_eq, Array.length_toList]
    · rw [has, hr.grown.values]; rfl
    · rwa [hr.composite] at hcolumns
  · rw [if_neg hroom]
    exact ⟨rfl, Nat.le_of_not_lt hroom⟩

end StripeTable

end FileCatalog

import FileCatalog.Proofs.Spending
import FileCatalog.Proofs.TargetRoom

/-!
# Filling a stripe table

The components of a layout are recorded one after the other, up to the first that fails. This module
tells from the components alone how that goes: which queries are made, how many octets the names of
the pools take, and how much room the list of targets may need. The queries of a component are
listed in their order, each with its fault if it has one, and the first fault of the list is the one
that the table reports, unless the list of targets grows up to `Size.slotLimit`.
-/

namespace FileCatalog

def faultOf {α : Type} : Except Fault α → Option Fault
  | .ok _ => none
  | .error f => some f

@[simp] theorem faultOf_ok {α : Type} (a : α) : faultOf (.ok a) = none := rfl

@[simp] theorem faultOf_error {α : Type} (f : Fault) :
    faultOf (.error f : Except Fault α) = some f := rfl

def firstFault (queries : List (Option Fault)) : Option Fault := queries.findSome? id

@[simp] theorem firstFault_nil : firstFault [] = none := rfl

@[simp] theorem firstFault_cons (query : Option Fault) (queries : List (Option Fault)) :
    firstFault (query :: queries) = query.or (firstFault queries) := by
  cases query <;> rfl

@[simp] theorem firstFault_append (queries more : List (Option Fault)) :
    firstFault (queries ++ more) = (firstFault queries).or (firstFault more) :=
  List.findSome?_append

namespace StripeTable

def goesOn : Except Fault (Option UInt64) → Bool
  | .ok none => false
  -- a failure counts as more to ask for, since nothing behind the first fault can matter
  | _ => true

/-- What a component answers for its stripes, up to the first that has no target. -/
def stripeAnswers (c : Component) (count : UInt64) : List (Except Fault (Option UInt64)) :=
  ((List.range count.toNat).map fun i => c.target (.ofNat i)).takeWhile goesOn

def rowQueries (c : Component) : List (Option Fault) :=
  [faultOf c.stripeCount, faultOf c.stripeSize, faultOf c.pattern, faultOf c.flags, faultOf c.pool]

/-- Only a bound component is asked for targets. -/
def targetQueries (composite : Bool) (c : Component) : List (Option Fault) :=
  match c.stripeCount, c.flags with
  | .ok count, .ok flags =>
    if composite = false ∨ flags = Component.boundFlag then (stripeAnswers c count).map faultOf
    else []
  | _, _ => []

def segmentQueries (composite : Bool) (c : Component) : List (Option Fault) :=
  if composite then [faultOf c.extent, faultOf c.mirror] else []

def componentQueries (composite : Bool) (c : Component) : List (Option Fault) :=
  rowQueries c ++ targetQueries composite c ++ segmentQueries composite c

def poolOctets (c : Component) : Nat :=
  match c.pool with
  | .ok pool => pool.utf8ByteSize
  | .error _ => 0

/-- The room that a component may add to the list of targets: what is made ahead for its stripes,
and one place for each target that it reports. -/
def roomOf (composite : Bool) (c : Component) : Nat :=
  match c.stripeCount, c.flags with
  | .ok count, .ok flags =>
    if composite = false ∨ flags = Component.boundFlag then
      (min count maxStripeCount).toNat + (stripeAnswers c count).length
    else 1
  | _, _ => 0

instance (composite : Bool) (row : Row) : Decidable (Bound composite row) :=
  inferInstanceAs (Decidable (_ ∨ _))

section Queries

variable {composite : Bool} {c : Component} {row : Row} {ts : List UInt64} {count : UInt64}
  {f : Fault}

theorem firstFault_rowQueries (c : Component) : firstFault (rowQueries c) = faultOf (readRow c) := by
  unfold rowQueries readRow
  cases c.stripeCount with
  | error f => rfl
  | ok stripeCount =>
    cases c.stripeSize with
    | error f => rfl
    | ok stripeSize =>
      cases c.pattern with
      | error f => rfl
      | ok pattern =>
        cases c.flags with
        | error f => rfl
        | ok flags => cases c.pool <;> rfl

theorem firstFault_segmentQueries (composite : Bool) (c : Component) :
    firstFault (segmentQueries composite c) =
      faultOf (if composite then some <$> readSegment c else .ok none) := by
  cases composite with
  | false => rfl
  | true =>
    unfold segmentQueries readSegment
    cases c.extent with
    | error f => rfl
    | ok extent => cases c.mirror <;> rfl

theorem targetQueries_of_readRow (h : readRow c = .ok row) :
    targetQueries composite c =
      if Bound composite row then (stripeAnswers c row.stripeCount).map faultOf else [] := by
  have ha := answers_of_readRow h
  simp only [targetQueries, ha.stripeCount, ha.flags]
  rfl

theorem roomOf_of_readRow (h : readRow c = .ok row) :
    roomOf composite c =
      if Bound composite row then
        (min row.stripeCount maxStripeCount).toNat + (stripeAnswers c row.stripeCount).length
      else 1 := by
  have ha := answers_of_readRow h
  simp only [roomOf, ha.stripeCount, ha.flags]
  rfl

theorem poolOctets_of_readRow (h : readRow c = .ok row) :
    poolOctets c = (Bytes.ofText row.pool).length := by
  simp only [poolOctets, (answers_of_readRow h).pool, Bytes.length_ofText]

theorem stripeAnswers_of_reports (hr : Reports c ts) (hle : ts.length ≤ count.toNat) :
    stripeAnswers c count = ts.map (fun t => .ok (some t)) ++
      ((List.range (count.toNat - ts.length)).map fun i =>
        c.target (.ofNat (ts.length + i))).takeWhile goesOn := by
  have hrange : List.range count.toNat = List.range ts.length ++
      (List.range (count.toNat - ts.length)).map (ts.length + ·) := by
    rw [← List.range_add, Nat.add_sub_cancel' hle]
  have hfirst : (List.range ts.length).map (fun i => c.target (.ofNat i)) =
      ts.map fun t => .ok (some t) := by
    apply List.ext_getElem (by simp)
    intro i hi _
    have hi' : i < ts.length := by simpa using hi
    simpa using hr i hi'
  rw [stripeAnswers, hrange, List.map_append, hfirst, List.takeWhile_append_of_pos, List.map_map]
  · rfl
  · intro answer ha
    obtain ⟨t, -, rfl⟩ := List.mem_map.mp ha
    rfl

theorem length_le_stripeAnswers (hr : Reports c ts) (hle : ts.length ≤ count.toNat) :
    ts.length ≤ (stripeAnswers c count).length := by
  simp [stripeAnswers_of_reports hr hle]

theorem firstFault_reported (ts : List UInt64) :
    firstFault ((ts.map fun t => (.ok (some t) : Except Fault (Option UInt64))).map faultOf) =
      none := by
  induction ts with
  | nil => rfl
  | cons t ts ih => simpa using ih

theorem firstFault_stripeAnswers_of_lists (h : Lists c count ts) :
    firstFault ((stripeAnswers c count).map faultOf) = none := by
  -- either all stripes have targets, or the answers stop at the first that has none
  rcases h.ended with hlength | ⟨hlt, hnone⟩
  · rw [stripeAnswers_of_reports h.reports (by omega), hlength, Nat.sub_self, List.range_zero,
      List.map_nil, List.takeWhile_nil, List.append_nil, firstFault_reported]
  · rw [stripeAnswers_of_reports h.reports (by omega),
      ← Nat.succ_pred_eq_of_pos (Nat.sub_pos_of_lt hlt), List.range_succ_eq_map, List.map_cons,
      Nat.add_zero, hnone, List.takeWhile_cons_of_neg (by simp [goesOn]), List.append_nil,
      firstFault_reported]

theorem firstFault_stripeAnswers_of_broken (hr : Reports c ts) (hlt : ts.length < count.toNat)
    (ht : c.target (.ofNat ts.length) = .error f) :
    firstFault ((stripeAnswers c count).map faultOf) = some f := by
  rw [stripeAnswers_of_reports hr (by omega), ← Nat.succ_pred_eq_of_pos (Nat.sub_pos_of_lt hlt),
    List.range_succ_eq_map, List.map_cons, Nat.add_zero, ht,
    List.takeWhile_cons_of_pos (by simp [goesOn]), List.map_append, firstFault_append,
    firstFault_reported]
  rfl

/-- Listing the targets of a component fails as its queries do, unless room is wanting. -/
theorem Listing.firstFault {capacity : Nat} {outcome : Except Fault Unit}
    (h : Listing composite row c capacity outcome ts) (hr : readRow c = .ok row)
    (hroom : capacity + maxStripeCount.toNat < Size.slotLimit) :
    firstFault (targetQueries composite c) = faultOf outcome := by
  rw [targetQueries_of_readRow hr]
  cases h with
  | complete hp =>
    by_cases hb : Bound composite row
    · rw [if_pos hb]
      exact firstFault_stripeAnswers_of_lists (hp.1 hb)
    · rw [if_neg hb]
      rfl
  | broken hb hreports hlt ht =>
    rw [if_pos hb]
    exact firstFault_stripeAnswers_of_broken hreports hlt ht
  | crowded _ hfull => exact absurd hfull (Nat.not_le_of_lt hroom)

theorem Listing.length_le {capacity : Nat} {outcome : Except Fault Unit}
    (h : Listing composite row c capacity outcome ts) :
    ts.length ≤ if Bound composite row then (stripeAnswers c row.stripeCount).length else 1 := by
  by_cases hb : Bound composite row
  · rw [if_pos hb]
    cases h with
    | complete hp =>
      have hlists := hp.1 hb
      exact length_le_stripeAnswers hlists.reports (by rcases hlists.ended with h | h <;> omega)
    | broken _ hreports hlt _ => exact length_le_stripeAnswers hreports (Nat.le_of_lt hlt)
    | crowded hts _ =>
      rcases hts with rfl | ⟨_, hreports, hlt⟩
      · exact Nat.zero_le _
      · exact length_le_stripeAnswers hreports (Nat.le_of_lt hlt)
  · rw [if_neg hb]
    cases h with
    | complete hp => exact Nat.le_of_eq (congrArg List.length (hp.2 hb))
    | broken hbound _ _ _ => exact absurd hbound hb
    | crowded hts _ =>
      rcases hts with rfl | ⟨hbound, _, _⟩
      · exact Nat.zero_le _
      · exact absurd hbound hb

end Queries

/-- The room that a component may add is enough for its share. -/
theorem capacity_listTargets_le {composite : Bool} {row : Row} {c : Component} {l : TargetList}
    (hr : readRow c = .ok row) (hl : l.size ≤ l.capacity) :
    (listTargets composite row c l).2.capacity ≤ l.capacity + roomOf composite c := by
  obtain ⟨ts, hplacing⟩ := listTargets_course composite row c hl
  have hcapacity := hplacing.capacity_le hl
  have hlength := (hplacing.listing hl).length_le
  rw [roomOf_of_readRow hr]
  unfold rowShare at hcapacity
  by_cases hb : Bound composite row
  · rw [if_pos hb] at hlength ⊢
    rw [if_pos (isBound_iff.mpr hb)] at hcapacity
    omega
  · rw [if_neg hb]
    rwa [if_neg (isBound_iff.not.mpr hb)] at hcapacity

/-- What a table comes to once the row of a component is read and the name of its pool is kept. -/
def enter (table : StripeTable) (c : Component) (row : Row) : Except Fault Unit × StripeTable :=
  match listTargets table.composite row c table.targets with
  | (.error f, l) => (.error f, { table with targets := l })
  | (.ok (), l) =>
    match if table.composite then some <$> readSegment c else .ok none with
    | .error f => (.error f, { table with targets := l })
    | .ok segment => (.ok (), { table with targets := l, rows := table.rows.push { row with segment } })

/-- What recording some components comes to in every arena that takes the `n` octets of it, where the
queries are those that are made meanwhile. -/
structure Fills (table : StripeTable) (cs : List Component) (queries : List (Option Fault))
    (n : Nat) (outcome : Except Fault Unit) (after : StripeTable) : Prop where
  composite : after.composite = table.composite
  fits : after.targets.size ≤ after.targets.capacity
  capacity : after.targets.capacity ≤
    table.targets.capacity + (cs.map (roomOf table.composite)).sum
  octets_le : n ≤ (cs.map poolOctets).sum
  octets_eq : outcome = .ok () → n = (cs.map poolOctets).sum
  fault : table.targets.capacity + (cs.map (roomOf table.composite)).sum + maxStripeCount.toNat <
    Size.slotLimit → firstFault queries = faultOf outcome
  rows : outcome = .ok () → ∃ new, after.rows.toList = table.rows.toList ++ new ∧
    List.Forall₂ (Answers table.composite) cs new

section Filling

variable {table between after : StripeTable} {c : Component} {cs ds : List Component} {row : Row}
  {queries rest : List (Option Fault)} {m n : Nat} {outcome : Except Fault Unit} {f : Fault}

theorem record_of_unread_spends (h : readRow c = .error f) :
    Spends Prod.mk (record c) table 0 (.error f) table :=
  spends_nothing fun _ => record_of_unread h

theorem record_spends (h : readRow c = .ok row) :
    Spends Prod.mk (record c) table (Bytes.ofText row.pool).length (enter table c row).1
      (enter table c row).2 := by
  constructor
  · intro arena hfits
    rw [record_of_begun ⟨h, hfits⟩]
    unfold enter
    rcases listTargets table.composite row c table.targets with ⟨f | ⟨⟩, l⟩
    · rfl
    · rcases (if table.composite then some <$> readSegment c else .ok none) with f | segment <;> rfl
  · intro arena hzero hfits
    exact ⟨0, table, hzero, record_of_unkept h hfits⟩

theorem fills_of_unread (h : readRow c = .error f)
    (hl : table.targets.size ≤ table.targets.capacity) :
    Fills table [c] (componentQueries table.composite c) 0 (.error f) table where
  composite := rfl
  fits := hl
  capacity := Nat.le_add_right _ _
  octets_le := Nat.zero_le _
  octets_eq := nofun
  fault _ := by simp [componentQueries, firstFault_rowQueries, h]
  rows := nofun

theorem answers_entered {composite : Bool} {segment : Option Segment} (h : readRow c = .ok row)
    (hs : (if composite then some <$> readSegment c else .ok none) = .ok segment) :
    Answers composite c { row with segment } := by
  cases composite with
  | false =>
    cases hs
    exact answers_plain h
  | true =>
    cases hread : readSegment c with
    | error f => rw [hread] at hs; cases hs
    | ok segment =>
      rw [hread] at hs
      cases hs
      exact answers_placed h hread

/-- The row has been read, so that only the targets and the segment can still fail. -/
theorem fills_enter (h : readRow c = .ok row) (hl : table.targets.size ≤ table.targets.capacity) :
    Fills table [c] (componentQueries table.composite c) (Bytes.ofText row.pool).length
      (enter table c row).1 (enter table c row).2 := by
  obtain ⟨ts, hplacing⟩ := listTargets_course table.composite row c hl
  have hgrown := hplacing.grown hl
  have hlisting := hplacing.listing hl
  have hcapacity : (listTargets table.composite row c table.targets).2.capacity ≤
      table.targets.capacity + roomOf table.composite c := capacity_listTargets_le h hl
  have hpool : (Bytes.ofText row.pool).length = ([c].map poolOctets).sum := by
    simp [poolOctets_of_readRow h]
  have hsegment := firstFault_segmentQueries table.composite c
  unfold enter
  rcases hlist : listTargets table.composite row c table.targets with ⟨outcome, l⟩
  rw [hlist] at hgrown hlisting hcapacity
  -- the room and the faults are the same whether or not the segment can be read after the targets
  have hroom : l.capacity ≤
      table.targets.capacity + ([c].map (roomOf table.composite)).sum := by simpa using hcapacity
  have hfault (htotal : table.targets.capacity + ([c].map (roomOf table.composite)).sum +
      maxStripeCount.toNat < Size.slotLimit) :
      firstFault (componentQueries table.composite c) =
        (faultOf outcome).or (firstFault (segmentQueries table.composite c)) := by
    have htargets := hlisting.firstFault h (Nat.lt_of_le_of_lt (Nat.add_le_add_right hroom _) htotal)
    simp [componentQueries, firstFault_rowQueries, h, htargets]
  rcases outcome with f | ⟨⟩
  · exact ⟨rfl, hgrown.fits, hroom, Nat.le_of_eq hpool, nofun, hfault, nofun⟩
  · rcases hs : (if table.composite then some <$> readSegment c else .ok none) with f | segment <;>
      rw [hs] at hsegment
    · refine ⟨rfl, hgrown.fits, hroom, Nat.le_of_eq hpool, nofun, ?_, nofun⟩
      intro htotal
      rw [hfault htotal, hsegment]
      rfl
    · refine ⟨rfl, hgrown.fits, hroom, Nat.le_of_eq hpool, fun _ => hpool, ?_, fun _ => ?_⟩
      · intro htotal
        rw [hfault htotal, hsegment]
        rfl
      · exact ⟨[{ row with segment }], Array.toList_push, .cons (answers_entered h hs) .nil⟩

theorem record_fills (c : Component) (hl : table.targets.size ≤ table.targets.capacity) :
    ∃ n outcome after, Spends Prod.mk (record c) table n outcome after ∧
      Fills table [c] (componentQueries table.composite c) n outcome after := by
  cases h : readRow c with
  | error f => exact ⟨_, _, _, record_of_unread_spends h, fills_of_unread h hl⟩
  | ok row => exact ⟨_, _, _, record_spends h, fills_enter h hl⟩

/-- After a component that fails, no other is looked at. -/
theorem Fills.of_failure (h : Fills table cs queries n (.error f) after) (ds : List Component)
    (rest : List (Option Fault)) : Fills table (cs ++ ds) (queries ++ rest) n (.error f) after := by
  have hcapacity := h.capacity
  have hoctets := h.octets_le
  constructor
  case composite => exact h.composite
  case fits => exact h.fits
  case capacity =>
    rw [List.map_append, List.sum_append]
    omega
  case octets_le =>
    rw [List.map_append, List.sum_append]
    omega
  case octets_eq => exact nofun
  case fault =>
    intro hroom
    rw [List.map_append, List.sum_append] at hroom
    rw [firstFault_append, h.fault (by omega)]
    rfl
  case rows => exact nofun

theorem Fills.append (h : Fills table cs queries m (.ok ()) between)
    (hs : Fills between ds rest n outcome after) :
    Fills table (cs ++ ds) (queries ++ rest) (m + n) outcome after := by
  have hcapacity := h.capacity
  have hoctets := h.octets_eq rfl
  have hmore := hs.octets_le
  have hthen := hs.capacity
  obtain ⟨first, hfirst, hanswers⟩ := h.rows rfl
  rw [h.composite] at hthen
  constructor
  case composite => rw [hs.composite, h.composite]
  case fits => exact hs.fits
  case capacity =>
    rw [List.map_append, List.sum_append]
    omega
  case octets_le =>
    rw [List.map_append, List.sum_append]
    omega
  case octets_eq =>
    intro hok
    rw [List.map_append, List.sum_append, hoctets, hs.octets_eq hok]
  case fault =>
    -- the room that the first components have not taken is left for the others
    intro hroom
    have hrest := hs.fault
    rw [List.map_append, List.sum_append] at hroom
    rw [h.composite] at hrest
    rw [firstFault_append, h.fault (by omega), hrest (by omega)]
    rfl
  case rows =>
    intro hok
    obtain ⟨new, hnew, hothers⟩ := hs.rows hok
    rw [h.composite] at hothers
    refine ⟨first ++ new, ?_, List.rel_append hanswers hothers⟩
    rw [hnew, hfirst, List.append_assoc]

theorem fills_ending (ending : Except Fault Unit)
    (hl : table.targets.size ≤ table.targets.capacity) :
    Fills table [] [faultOf ending] 0 ending table where
  composite := rfl
  fits := hl
  capacity := Nat.le_refl _
  octets_le := Nat.le_refl _
  octets_eq _ := rfl
  fault _ := by cases ending <;> rfl
  rows _ := ⟨[], (List.append_nil _).symm, .nil⟩

/-- How any components are recorded one after the other, by induction on them: what carries from one
to the next is that the list of targets has room for all that is in it. -/
theorem visitAll_fills (cs : List Component) (table : StripeTable)
    (hl : table.targets.size ≤ table.targets.capacity) :
    ∃ n outcome after, Spends Prod.mk (visitAll record cs) table n outcome after ∧
      Fills table cs (cs.flatMap (componentQueries table.composite)) n outcome after := by
  induction cs generalizing table with
  | nil =>
    refine ⟨0, .ok (), table, spends_nothing fun _ => rfl, ?_⟩
    exact ⟨rfl, hl, Nat.le_refl _, Nat.le_refl _, fun _ => rfl, fun _ => rfl,
      fun _ => ⟨[], (List.append_nil _).symm, .nil⟩⟩
  | cons c cs ih =>
    obtain ⟨m, outcome, between, hspends, hfills⟩ := record_fills c hl
    rw [List.flatMap_cons]
    cases outcome with
    | error f => exact ⟨m, .error f, between, hspends.bind_error _, hfills.of_failure cs _⟩
    | ok _ =>
      obtain ⟨n, outcome, after, hrest, hothers⟩ := ih between hfills.fits
      rw [hfills.composite] at hothers
      exact ⟨m + n, outcome, after, hspends.bind hrest, hfills.append hothers⟩

/-- The end of a tour is the last query that is made. -/
theorem visitAll_then_fills (cs : List Component) (ending : Except Fault Unit)
    (hl : table.targets.size ≤ table.targets.capacity) :
    ∃ n outcome after,
      Spends Prod.mk (do visitAll record cs; liftM ending) table n outcome after ∧
      Fills table cs (cs.flatMap (componentQueries table.composite) ++ [faultOf ending]) n
        outcome after := by
  obtain ⟨n, outcome, after, hspends, hfills⟩ := visitAll_fills cs table hl
  rcases outcome with f | ⟨⟩
  · have hfailed := hfills.of_failure [] [faultOf ending]
    rw [List.append_nil] at hfailed
    exact ⟨n, .error f, after, hspends.bind_error _, hfailed⟩
  · have hend : Spends Prod.mk (liftM ending : Attempt (StripeTable × Arena) Unit) after 0 ending
        after := spends_nothing fun _ => rfl
    have hended := hfills.append (fills_ending ending hfills.fits)
    rw [List.append_nil] at hended
    exact ⟨n + 0, ending, after, hspends.bind hend, hended⟩

end Filling

end StripeTable

end FileCatalog

import FileCatalog.Proofs.StripeTable
import Mathlib.Algebra.GroupWithZero.Nat
import Mathlib.Data.List.SplitLengths

/-!
# Cutting the list of targets up again

The targets of all components stand in one list, with nothing between the targets of one component
and those of the next. A reader of the record has the stripe counts and the flags, and they tell how
many places of the list belong to each component. The main statement is that cutting the list at
these lengths uses it up and gives back the targets of each component, as long as every component
that is bound reports a target for each of its stripes. The flattened list has lost nothing.
-/

namespace FileCatalog.StripeTable

def blockLength (composite : Bool) (count : UInt64) (flags : UInt32) : Nat :=
  if composite = false ∨ flags = Component.boundFlag then count.toNat else 1

/-- The targets of a component: one for each stripe if it is bound, and else the mark alone. -/
structure Owns (composite : Bool) (c : Component) (block : List UInt64) : Prop where
  reports : composite = false ∨ c.flags = .ok Component.boundFlag → Reports c block
  length : composite = false ∨ c.flags = .ok Component.boundFlag →
    ∀ count, c.stripeCount = .ok count → block.length = count.toNat
  mark : ¬(composite = false ∨ c.flags = .ok Component.boundFlag) → block = [notBound]

/-- The record is what a new table comes to after visits to some components, all of them successful,
and the blocks are the targets of the components. -/
structure Tabulates (composite : Bool) (components : List Component) (blocks : List (List UInt64))
    (r : Record) : Prop where
  owns : List.Forall₂ (Owns composite) components blocks
  run : ∃ room new arena calls, withRoom room composite = .ok new ∧
    calls.map Call.component = components ∧
    (∀ answer ∈ (recordEach calls (new, arena)).1, answer.2 = .ok ()) ∧
    r = (recordEach calls (new, arena)).2.1.attributes

/-- The stripe counts and flags of the record tell the lengths at which its list of targets falls
into the blocks, with nothing left of it. -/
def CutsInto (composite : Bool) (r : Record) (blocks : List (List UInt64)) : Prop :=
  ∃ counts flags targets,
    r.find? "stripe_count" = some (.sequence (counts.map .uint64)) ∧
    r.find? "comp_flags" = some (.sequence (flags.map .uint32)) ∧
    r.find? "ost" = some (.sequence (targets.map .uint64)) ∧
    counts.length = blocks.length ∧ flags.length = blocks.length ∧
    (List.zipWith (blockLength composite) counts flags).sum = targets.length ∧
    (List.zipWith (blockLength composite) counts flags).splitLengths targets = blocks

section Blocks

variable {composite : Bool} {c : Component} {cs : List Component} {row : Row} {rows : List Row}
  {ts block : List UInt64} {blocks blocks' : List (List UInt64)} {r r' : Record}

theorem splitLengths_map_length {α : Type} (ls : List (List α)) :
    (ls.map List.length).splitLengths ls.flatten = ls := by
  induction ls with
  | nil => rfl
  | cons l ls ih => simp [ih]

theorem CutsInto.unique (h : CutsInto composite r blocks) (h' : CutsInto composite r' blocks')
    (hr : ∀ key ∈ ["stripe_count", "comp_flags", "ost"], r.find? key = r'.find? key) :
    blocks = blocks' := by
  obtain ⟨counts, flags, targets, hcounts, hflags, htargets, -, -, -, rfl⟩ := h
  obtain ⟨counts', flags', targets', hcounts', hflags', htargets', -, -, -, rfl⟩ := h'
  simp only [List.forall_mem_cons, hcounts, hflags, htargets, hcounts', hflags', htargets',
    Option.some.injEq, AttrValue.sequence.injEq] at hr
  obtain ⟨hc, hf, ht, -⟩ := hr
  have huint64 : Function.Injective AttrValue.uint64 := fun _ _ => AttrValue.uint64.inj
  have huint32 : Function.Injective AttrValue.uint32 := fun _ _ => AttrValue.uint32.inj
  rw [List.map_injective_iff.mpr huint64 hc, List.map_injective_iff.mpr huint32 hf,
    List.map_injective_iff.mpr huint64 ht]

theorem bound_iff_of_flags (h : c.flags = .ok row.flags) :
    Bound composite row ↔ composite = false ∨ c.flags = .ok Component.boundFlag := by
  simp [Bound, h]

/-- A component that reports a target for each stripe is listed up to the last one. -/
theorem Lists.eq_of_reports {count : UInt64} (hl : Lists c count ts) (hr : Reports c block)
    (hlength : block.length = count.toNat) : ts = block := by
  have hts : ts.length = block.length := by
    rcases hl.ended with hts | ⟨hlt, hnone⟩
    · exact hts.trans hlength.symm
    · have hsome := hr ts.length (hlength ▸ hlt)
      exact nomatch hnone.symm.trans hsome
  apply List.ext_getElem hts
  intro i hi hi'
  exact Option.some.inj (Except.ok.inj ((hl.reports i hi).symm.trans (hr i hi')))

theorem Visited.listed_eq {capacity : Nat} {arena : Arena}
    (hv : Visited composite capacity arena c (.ok ()) ts) (ho : Owns composite c block) :
    ts = block := by
  cases hv with
  | @recorded row _ hb hp _ =>
    have ha := answers_of_readRow hb.read
    by_cases hbound : Bound composite row
    · have hbound' := (bound_iff_of_flags ha.flags).mp hbound
      exact (hp.1 hbound).eq_of_reports (ho.reports hbound') (ho.length hbound' _ ha.stripeCount)
    · rw [hp.2 hbound, ho.mark (mt (bound_iff_of_flags ha.flags).mpr hbound)]

theorem Owns.blockLength_eq (ho : Owns composite c block) (ha : Answers composite c row) :
    blockLength composite row.stripeCount row.flags = block.length := by
  have hiff : composite = false ∨ row.flags = Component.boundFlag ↔ _ :=
    bound_iff_of_flags ha.flags
  by_cases hbound : composite = false ∨ row.flags = Component.boundFlag
  · rw [blockLength, if_pos hbound, ho.length (hiff.mp hbound) _ ha.stripeCount]
  · rw [blockLength, if_neg hbound, ho.mark (mt hiff.mpr hbound)]
    rfl

theorem map_blockLength_eq (ho : List.Forall₂ (Owns composite) cs blocks)
    (ha : List.Forall₂ (Answers composite) cs rows) :
    rows.map (fun row => blockLength composite row.stripeCount row.flags) =
      blocks.map List.length := by
  induction ha generalizing blocks with
  | nil =>
    cases ho
    rfl
  | cons hrow _ ih =>
    cases ho with
    | cons hblock hblocks =>
      rw [List.map_cons, List.map_cons, hblock.blockLength_eq hrow, ih hblocks]

theorem map_listed_eq {capacity : Nat} {visits : List Visit}
    (ho : List.Forall₂ (Owns composite) (visits.map Visit.component) blocks)
    (hv : ∀ v ∈ visits, Visited composite capacity v.arena v.component (.ok ()) v.listed) :
    visits.map Visit.listed = blocks := by
  induction visits generalizing blocks with
  | nil =>
    cases ho
    rfl
  | cons v visits ih =>
    rw [List.forall_mem_cons] at hv
    cases ho with
    | cons hblock hblocks => rw [List.map_cons, hv.1.listed_eq hblock, ih hblocks hv.2]

theorem recorded_of_ok {visits : List Visit} (h : ∀ v ∈ visits, v.outcome = .ok ()) :
    recorded visits = visits.map Visit.component := by
  induction visits with
  | nil => rfl
  | cons v visits ih =>
    rw [List.forall_mem_cons] at h
    rw [recorded, List.flatMap_cons, h.1, ← recorded, ih h.2]
    rfl

theorem cutsInto_attributes {table : StripeTable}
    (hrows : table.rows.toList.map (fun row => blockLength composite row.stripeCount row.flags) =
      blocks.map List.length)
    (htargets : table.targets.values.toList = blocks.flatten) :
    CutsInto composite table.attributes blocks := by
  have hlengths : List.zipWith (blockLength composite) (table.rows.toList.map Row.stripeCount)
      (table.rows.toList.map Row.flags) = blocks.map List.length := by
    rw [← hrows, List.zipWith_map, List.zipWith_self]
  have hcount : table.rows.toList.length = blocks.length := by
    simpa using congrArg List.length hrows
  refine ⟨table.rows.toList.map Row.stripeCount, table.rows.toList.map Row.flags,
    table.targets.values.toList, ?_, ?_, ?_, ?_, ?_, ?_, ?_⟩
  · simp [attributes, Record.find?, column, Function.comp_def]
  · simp [attributes, Record.find?, column, Function.comp_def]
  · cases hc : table.composite <;> simp [attributes, segmentAttributes, Record.find?, hc]
  · rw [List.length_map, hcount]
  · rw [List.length_map, hcount]
  · rw [hlengths, htargets, List.length_flatten]
  · rw [hlengths, htargets, splitLengths_map_length]

theorem Tabulates.cutsInto (h : Tabulates composite cs blocks r) : CutsInto composite r blocks := by
  obtain ⟨ho, room, new, arena, calls, hnew, rfl, hok, rfl⟩ := h
  obtain rfl := eq_of_withRoom hnew
  obtain ⟨visits, hr⟩ := recordEach_course calls ⟨composite, #[], ⟨#[], room⟩⟩ arena (Nat.zero_le _)
  obtain ⟨rows, hrows, hanswers⟩ := hr.rows
  rw [← hr.components] at ho
  have hsuccess : ∀ v ∈ visits, v.outcome = .ok () := by
    intro v hv
    exact hok (v.arena, v.outcome) (hr.answers ▸ List.mem_map_of_mem hv)
  have hlisted := map_listed_eq ho fun v hv => hsuccess v hv ▸ hr.visited v hv
  rw [recorded_of_ok hsuccess] at hanswers
  apply cutsInto_attributes
  · rw [hrows]
    exact map_blockLength_eq ho hanswers
  · rw [hr.grown.values, ← hlisted, List.flatMap_def]
    rfl

end Blocks

def reporting (flags : UInt32) (targets : Array UInt64) : Component where
  stripeCount := .ok (.ofNat targets.size)
  stripeSize := .ok 0x100000
  pattern := .ok 1
  flags := .ok flags
  pool := .ok "ssd"
  target stripe := .ok targets[stripe.toNat]?
  extent := .ok (0, 0x100000)
  mirror := .ok 0

theorem owns_reporting_bound {composite : Bool} {targets : Array UInt64}
    (h : targets.size < 2 ^ 64) :
    Owns composite (reporting Component.boundFlag targets) targets.toList where
  reports _ := by
    intro i hi
    have hsize : i < targets.size := by simpa using hi
    have hi' : (UInt64.ofNat i).toNat = i := UInt64.toNat_ofNat_of_lt' (Nat.lt_trans hsize h)
    simp [reporting, hi', hsize]
  length _ := by
    rintro _ ⟨⟩
    rw [UInt64.toNat_ofNat_of_lt' h, Array.length_toList]
  mark hunbound := absurd (.inr rfl) hunbound

theorem owns_reporting_unbound {flags : UInt32} (h : flags ≠ Component.boundFlag)
    (targets : Array UInt64) : Owns true (reporting flags targets) [notBound] where
  reports hbound := by simp [reporting, h] at hbound
  length hbound := by simp [reporting, h] at hbound
  mark _ := rfl

/-- Cutting the list of targets at the lengths that the stripe counts and flags tell gives back the
targets of each component, block by block, and nothing is left. So components of which a record has
the same stripe counts, flags and targets have the same targets each. -/
theorem targets_cut_back (composite : Bool) (components : List Component)
    (blocks : List (List UInt64)) (r : Record) (h : Tabulates composite components blocks r) :
    CutsInto composite r blocks ∧
      ∀ components' blocks' r', Tabulates composite components' blocks' r' →
        (∀ key ∈ ["stripe_count", "comp_flags", "ost"], r.find? key = r'.find? key) →
        blocks = blocks' := by
  refine ⟨h.cutsInto, ?_⟩
  intro components' blocks' r' h' hr
  exact h.cutsInto.unique h'.cutsInto hr

/-- A target that looks like the mark, a component without stripes, and flags that hold the bound
flag beside another one. -/
theorem targets_cut_back_of_three :
    let calls := [reporting 0x10 #[3, notBound], reporting 0x10 #[], reporting 0x11 #[5, 6]].map
      (Call.mk id)
    let r := (recordEach calls (⟨true, #[], ⟨#[], 3⟩⟩, Arena.empty none)).2.1.attributes
    Tabulates true (calls.map Call.component) [[3, notBound], [], [notBound]] r ∧
      CutsInto true r [[3, notBound], [], [notBound]] := by
  intro calls r
  have hanswers : (recordEach calls (⟨true, #[], ⟨#[], 3⟩⟩, Arena.empty none)).1.map Prod.snd =
      [.ok (), .ok (), .ok ()] := rfl
  have howns : List.Forall₂ (Owns true) (calls.map Call.component)
      [[3, notBound], [], [notBound]] :=
    .cons (owns_reporting_bound (by decide)) (.cons (owns_reporting_bound (by decide))
      (.cons (owns_reporting_unbound (by decide) _) .nil))
  have h : Tabulates true (calls.map Call.component) [[3, notBound], [], [notBound]] r := by
    refine ⟨howns, 3, _, Arena.empty none, calls, rfl, rfl, ?_, rfl⟩
    intro answer ha
    have hmem := List.mem_map_of_mem (f := Prod.snd) ha
    rw [hanswers] at hmem
    simpa using hmem
  exact ⟨h, (targets_cut_back _ _ _ _ h).1⟩

end FileCatalog.StripeTable

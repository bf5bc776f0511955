import FileCatalog.Proofs.Course
import Mathlib.Data.List.Nodup
import Mathlib.Data.List.Range

/-!
# Handle accounting

A resolution opens at most two handles, and its caller gets at most one of them. The main statement
is that the books balance whatever the parties answer: the handle that is returned stays live, and
every other handle that was opened is dropped once before the resolution returns. Clients that open
and drop handles in any order therefore hold just the handles that are live.
-/

namespace FileCatalog

variable {P B σ : Type}

namespace Resolution

def kept (outcome : Except ResolveFault (Handle B)) : List (Handle B) := outcome.toOption.toList

/-- Handles are told apart by their numbers. The handle that is returned has been opened and is not
dropped, all others that have been opened are dropped once, and nothing else is dropped. -/
structure Accounted (outcome : Except ResolveFault (Handle B)) (events : List (Event P B)) :
    Prop where
  distinct : ((openings events).map Handle.number).Nodup
  kept : ∀ h, outcome = .ok h → h ∈ openings events ∧ (drops events).count h.number = 0
  dropped : ∀ h ∈ openings events, outcome ≠ .ok h → (drops events).count h.number = 1
  own : ∀ n ∈ drops events, ∃ h ∈ openings events, h.number = n

/-- Every branch is asked of a handle that the same events have opened and not yet dropped. The next
thing that happens is the answer, which is the outcome, and the last thing is that the handle
is dropped. -/
def BranchesSettled (outcome : Except ResolveFault (Handle B)) (events : List (Event P B)) : Prop :=
  ∀ n id, .branch n id ∈ events →
    ∃ before b, .opened ⟨n, b⟩ ∈ before ∧ n ∉ drops before ∧
      events = before ++ .branch n id :: (kept outcome).map .opened ++ [.dropped n] ∧
      ∀ f, outcome = .error f → f.step = .branch

structure Silent (events : List (Event P B)) : Prop where
  openings : openings events = []
  drops : drops events = []
  branch : ∀ n id, .branch n id ∉ events

inductive Release (h : Handle B) (next : Nat) :
    Except ResolveFault (Handle B) → List (Event P B) → Prop
  | whole : Release h next (.ok h) []
  | missed {f query} : Silent query → Release h next (.error f) (query ++ [.dropped h.number])
  | branched {outcome query id} : Silent query → (∀ g, outcome = .ok g → g.number = next) →
      (∀ f, outcome = .error f → f.step = .branch) →
      Release h next outcome
        (query ++ (.branch h.number id :: (kept outcome).map .opened ++ [.dropped h.number]))

/-- A resolution opens no handle, or it opens one and lets go of it. -/
inductive Balance (next : Nat) : Except ResolveFault (Handle B) → List (Event P B) → Prop
  | unopened {f asked} : Silent asked → Balance next (.error f) asked
  | opened {b asked outcome rest} : Silent asked → Release ⟨next, b⟩ (next + 1) outcome rest →
      Balance next outcome (asked ++ .opened ⟨next, b⟩ :: rest)

section Shapes

variable {loader : Loader P σ} {storage : Storage P B σ}

theorem silent_nil : Silent ([] : List (Event P B)) := ⟨rfl, rfl, by simp⟩

theorem silent_lookup (n : Nat) (path : String) (mask : FieldMask) :
    Silent ([.lookup n path mask] : List (Event P B)) := ⟨rfl, rfl, by simp⟩

theorem Branching.shape {h : Handle B} {id : EntryId} {w : World P B σ}
    {outcome : Except ResolveFault (Handle B)} {es : List (Event P B)}
    (hb : Branching storage h id w outcome es) :
    es = .branch h.number id :: (kept outcome).map .opened ++ [.dropped h.number] ∧
      (∀ g, outcome = .ok g → g.number = w.opened) ∧
      ∀ f, outcome = .error f → f.step = .branch := by
  cases hb with
  | refused _ => exact ⟨rfl, by simp, by simp⟩
  | branched _ => exact ⟨rfl, by simp, by simp⟩

theorem Branching.release {h : Handle B} {id : EntryId} {w : World P B σ}
    {outcome : Except ResolveFault (Handle B)} {es query : List (Event P B)}
    (hq : Silent query) (hb : Branching storage h id w outcome es) :
    Release h w.opened outcome (query ++ es) := by
  obtain ⟨rfl, hg, hf⟩ := hb.shape
  exact .branched hq hg hf

theorem Narrowing.release {h : Handle B} {l : Locator} {w : World P B σ}
    {outcome : Except ResolveFault (Handle B)} {es : List (Event P B)}
    (hn : Narrowing storage h l w outcome es) : Release h w.opened outcome es := by
  cases hn with
  | whole _ _ => exact .whole
  | byId _ _ hb => exact hb.release silent_nil
  | undecodable _ _ => exact .missed silent_nil
  | notFound _ _ _ => exact .missed (silent_lookup _ _ _)
  | unidentified _ _ _ _ => exact .missed (silent_lookup _ _ _)
  | byPath _ _ _ _ hb => exact hb.release (silent_lookup _ _ _)

theorem OpeningText.balance {s : String} {w : World P B σ}
    {outcome : Except ResolveFault (Handle B)} {es : List (Event P B)}
    (ho : OpeningText loader storage s w outcome es) : Balance w.opened outcome es := by
  cases ho with
  | unparsed _ => exact .unopened silent_nil
  | @parsed l outcome es _ ho =>
    cases ho with
    | unloaded _ => exact .unopened ⟨rfl, rfl, by simp⟩
    | unopened _ _ => exact .unopened ⟨rfl, rfl, by simp⟩
    | @opened plugin b p p' w' outcome es _ _ hw hn =>
      have hr := hn.release
      rw [hw] at hr
      have hs : Silent ([.load l.backend, .instantiate plugin l.filesystem] : List (Event P B)) :=
        ⟨rfl, rfl, by simp⟩
      exact .opened hs hr

end Shapes

section Laws

variable {outcome : Except ResolveFault (Handle B)} {es : List (Event P B)} {h : Handle B}
  {next : Nat}

@[simp] theorem openings_opened (hs : List (Handle B)) :
    openings (hs.map Event.opened : List (Event P B)) = hs := by
  simp [openings, List.filterMap_map, Function.comp_def, Event.opened?]

@[simp] theorem drops_opened (hs : List (Handle B)) :
    drops (hs.map Event.opened : List (Event P B)) = [] := by
  simp [drops, List.filterMap_map, Function.comp_def, Event.dropped?]

theorem Silent.track {es : List (Event P B)} (hs : Silent es) (live : List (Handle B)) :
    es.foldl Event.track live = live := by
  induction es with
  | nil => rfl
  | cons e es ih =>
    have ho := hs.openings
    have hd := hs.drops
    rw [openings_cons, List.append_eq_nil_iff] at ho
    rw [drops_cons, List.append_eq_nil_iff] at hd
    have htail : Silent es :=
      ⟨ho.2, hd.2, fun n id hmem => hs.branch n id (List.mem_cons_of_mem e hmem)⟩
    have he : Event.track live e = live := by
      cases e with
      | opened h => simp at ho
      | dropped n => simp at hd
      | _ => rfl
    rw [List.foldl_cons, he, ih htail]

theorem track_opened (live hs : List (Handle B)) :
    (hs.map Event.opened : List (Event P B)).foldl Event.track live = live ++ hs := by
  induction hs generalizing live with
  | nil => simp
  | cons h hs ih => simp [ih, Event.track]

theorem track_dropped {live hs : List (Handle B)} (hl : ∀ g ∈ live, g.number ≠ h.number)
    (hh : ∀ g ∈ hs, g.number ≠ h.number) :
    Event.track (live ++ [h] ++ hs) (.dropped h.number : Event P B) = live ++ hs := by
  have h₁ := List.filter_eq_self.mpr fun g hg => decide_eq_true (hl g hg)
  have h₂ := List.filter_eq_self.mpr fun g hg => decide_eq_true (hh g hg)
  simp only [Event.track, List.filter_append, h₁, h₂]
  simp

theorem Release.books (hr : Release h next outcome es) :
    (outcome = .ok h ∧ openings es = [] ∧ drops es = []) ∨
    (openings es = kept outcome ∧ drops es = [h.number] ∧
      ∀ g, outcome = .ok g → g.number = next) := by
  cases hr with
  | whole => exact .inl ⟨rfl, rfl, rfl⟩
  | missed hq =>
    exact .inr ⟨by simp [hq.openings, kept, Except.toOption], by simp [hq.drops], by simp⟩
  | branched hq hg hf => exact .inr ⟨by simp [hq.openings], by simp [hq.drops], hg⟩

theorem Release.live (hr : Release h next outcome es) (hn : h.number < next)
    {live : List (Handle B)} (hl : ∀ g ∈ live, g.number < h.number) :
    es.foldl Event.track (live ++ [h]) = live ++ kept outcome := by
  have hne : ∀ g ∈ live, g.number ≠ h.number := fun g hg => (hl g hg).ne
  cases hr with
  | whole => rfl
  | missed hq =>
    rw [List.foldl_append, hq.track]
    simpa [kept, Except.toOption] using track_dropped (P := P) hne (List.forall_mem_nil _)
  | branched hq hg hf =>
    have hk : ∀ g ∈ kept outcome, g.number ≠ h.number := by
      intro g hmem
      rcases outcome with f | g'
      · simp [kept, Except.toOption] at hmem
      · have hg' := hg g' rfl
        simp only [kept, Except.toOption, Option.toList_some, List.mem_singleton] at hmem
        subst hmem
        omega
    have ho := track_opened (P := P) (live ++ [h]) (kept outcome)
    rw [List.foldl_append, hq.track, List.foldl_append, List.foldl_cons]
    exact (congrArg (Event.track · _) ho).trans (track_dropped hne hk)

theorem Balance.live (hb : Balance next outcome es) {live : List (Handle B)}
    (hl : ∀ g ∈ live, g.number < next) :
    es.foldl Event.track live = live ++ kept outcome := by
  cases hb with
  | unopened hs => simp [hs.track, kept, Except.toOption]
  | opened hs hr =>
    rw [List.foldl_append, hs.track, List.foldl_cons]
    exact hr.live (Nat.lt_succ_self next) hl

theorem Balance.accounted (hb : Balance next outcome es) : Accounted outcome es := by
  cases hb with
  | unopened hs =>
    refine ⟨?_, ?_, ?_, ?_⟩ <;> simp [hs.openings, hs.drops]
  | opened hs hr =>
    obtain ⟨rfl, ho, hd⟩ | ⟨ho, hd, hg⟩ := hr.books
    · refine ⟨?_, ?_, ?_, ?_⟩ <;> simp [hs.openings, hs.drops, ho, hd]
    · rcases outcome with f | g
      · refine ⟨?_, ?_, ?_, ?_⟩ <;>
          simp [hs.openings, hs.drops, ho, hd, kept, Except.toOption]
      · have hne : next ≠ g.number := by
          have := hg g rfl
          omega
        refine ⟨?_, ?_, ?_, ?_⟩ <;>
          simp [hs.openings, hs.drops, ho, hd, kept, Except.toOption, hne, List.count_singleton]

theorem Balance.kept_eq (hb : Balance next outcome es) :
    (openings es).filter (fun g => g.number ∉ drops es) = kept outcome := by
  cases hb with
  | unopened hs => simp [hs.openings, kept, Except.toOption]
  | opened hs hr =>
    obtain ⟨rfl, ho, hd⟩ | ⟨ho, hd, hg⟩ := hr.books
    · simp [hs.openings, hs.drops, ho, hd, kept, Except.toOption]
    · rcases outcome with f | g
      · simp [hs.openings, hs.drops, ho, hd, kept, Except.toOption]
      · have := hg g rfl
        simp [hs.openings, hs.drops, ho, hd, kept, Except.toOption, this]

theorem Balance.numbers (hb : Balance next outcome es) :
    (openings es).map Handle.number = List.range' next (openings es).length := by
  cases hb with
  | unopened hs => simp [hs.openings]
  | opened hs hr =>
    obtain ⟨rfl, ho, hd⟩ | ⟨ho, hd, hg⟩ := hr.books
    · simp [hs.openings, ho]
    · rcases outcome with f | g
      · simp [hs.openings, ho, kept, Except.toOption]
      · simp [hs.openings, ho, kept, Except.toOption, hg g rfl, List.range']

theorem Accounted.drops_nodup (ha : Accounted outcome es) : (drops es).Nodup := by
  rw [List.nodup_iff_count_le_one]
  intro n
  by_cases hn : n ∈ drops es
  · obtain ⟨g, hg, rfl⟩ := ha.own n hn
    by_cases hk : outcome = .ok g
    · exact (ha.kept g hk).2.le.trans (Nat.zero_le 1)
    · exact (ha.dropped g hg hk).le
  · rw [List.count_eq_zero_of_not_mem hn]
    exact Nat.zero_le 1

theorem Balance.branchesSettled (hb : Balance next outcome es) : BranchesSettled outcome es := by
  intro n id hmem
  cases hb with
  | unopened hs => exact absurd hmem (hs.branch n id)
  | @opened b asked outcome rest hs hr =>
    have hrest : .branch n id ∈ rest := by
      simpa [hs.branch n id] using hmem
    cases hr with
    | whole => simp at hrest
    | missed hq => simp [hq.branch n id] at hrest
    | @branched outcome query id' hq hg hf =>
      obtain ⟨rfl, rfl⟩ : n = next ∧ id = id' := by
        simpa [hq.branch n id] using hrest
      refine ⟨asked ++ .opened ⟨n, b⟩ :: query, b, by simp, ?_, by simp, hf⟩
      simp [hs.drops, hq.drops]

end Laws

end Resolution

namespace World

open Resolution

/-- The books of a world agree with its log: handles are numbered in the order in which they were
opened, none is dropped twice, and the live ones are those that have not been dropped. -/
structure Sound (w : World P B σ) : Prop where
  numbers : (openings w.log).map Handle.number = List.range w.opened
  drops_lt : ∀ n ∈ drops w.log, n < w.opened
  drops_nodup : (drops w.log).Nodup
  live : w.live = (openings w.log).filter fun h => h.number ∉ drops w.log

variable {w w' : World P B σ}

theorem sound_start (parties : σ) : (World.start parties : World P B σ).Sound :=
  ⟨rfl, by simp [start], by simp [start], rfl⟩

theorem Sound.number_lt (hw : w.Sound) {h : Handle B} (hh : h ∈ openings w.log) :
    h.number < w.opened := by
  have hm := List.mem_map_of_mem (f := Handle.number) hh
  rw [hw.numbers] at hm
  exact List.mem_range.mp hm

theorem Sound.mem_live_iff (hw : w.Sound) {h : Handle B} :
    h ∈ w.live ↔ h ∈ openings w.log ∧ h.number ∉ drops w.log := by
  rw [hw.live, List.mem_filter, decide_eq_true_iff]

theorem Sound.live_nodup (hw : w.Sound) : (w.live.map Handle.number).Nodup := by
  have hall : ((openings w.log).map Handle.number).Nodup := by
    rw [hw.numbers]
    exact List.nodup_range
  rw [hw.live]
  exact hall.sublist (List.filter_sublist.map _)

/-- In a sound world a handle that was opened is live and has not been dropped, or it is not live
and was dropped once. -/
theorem Sound.live_or_dropped (hw : w.Sound) {h : Handle B} (hh : h ∈ openings w.log) :
    (h ∈ w.live ∧ (drops w.log).count h.number = 0) ∨
      (h ∉ w.live ∧ (drops w.log).count h.number = 1) := by
  rw [hw.mem_live_iff]
  by_cases hd : h.number ∈ drops w.log
  · exact .inr ⟨fun hl => hl.2 hd, List.count_eq_one_of_mem hw.drops_nodup hd⟩
  · exact .inl ⟨⟨hh, hd⟩, List.count_eq_zero_of_not_mem hd⟩

theorem Sound.drop (hw : w.Sound) {h : Handle B} (hl : h ∈ w.live) : (w.drop h.number).Sound := by
  obtain ⟨ho, hd⟩ := hw.mem_live_iff.mp hl
  refine ⟨?_, ?_, ?_, ?_⟩
  · simpa [World.drop, note] using hw.numbers
  · intro n hn
    obtain hn | rfl : n ∈ drops w.log ∨ n = h.number := by
      simpa [World.drop, note] using hn
    · exact hw.drops_lt n hn
    · exact hw.number_lt ho
  · simpa [World.drop, note, List.nodup_append, hw.drops_nodup] using
      fun n hn (he : n = h.number) => hd (he ▸ hn)
  · simp only [World.drop, note, hw.live, List.filter_filter, openings_append, drops_append]
    simp [and_comm]

/-- A resolution keeps the books, and adds the handle that it returns to the live ones. -/
theorem Sound.resolution (hw : w.Sound) {outcome : Except ResolveFault (Handle B)}
    {es : List (Event P B)} (hb : Balance w.opened outcome es) (ha : w.Advances es w') :
    w'.Sound ∧ w'.live = w.live ++ kept outcome := by
  have hacc := hb.accounted
  have hlive : w'.live = w.live ++ kept outcome := by
    rw [ha.live]
    exact hb.live fun g hg => hw.number_lt (hw.mem_live_iff.mp hg).1
  -- The handles of this resolution have later numbers than all handles before it.
  have hnew : ∀ h ∈ openings es, w.opened ≤ h.number ∧ h.number < w'.opened := by
    intro h hh
    have hm := List.mem_map_of_mem (f := Handle.number) hh
    rw [hb.numbers, List.mem_range'_1] at hm
    rw [ha.opened]
    exact hm
  have hdrop : ∀ n ∈ drops es, w.opened ≤ n ∧ n < w'.opened := by
    intro n hn
    obtain ⟨g, hg, rfl⟩ := hacc.own n hn
    exact hnew g hg
  refine ⟨⟨?_, ?_, ?_, ?_⟩, hlive⟩
  · have hr := List.range'_append_1 (s := 0) (m := w.opened) (n := (openings es).length)
    rw [ha.log, openings_append, List.map_append, hw.numbers, hb.numbers, ha.opened,
      List.range_eq_range', List.range_eq_range', ← hr, Nat.zero_add]
  · intro n hn
    rw [ha.log, drops_append, List.mem_append] at hn
    rcases hn with hn | hn
    · have := hw.drops_lt n hn
      have := ha.opened
      omega
    · exact (hdrop n hn).2
  · rw [ha.log, drops_append]
    apply hw.drops_nodup.append hacc.drops_nodup
    intro n hn hn'
    have := hw.drops_lt n hn
    have := (hdrop n hn').1
    omega
  · rw [hlive, hw.live, ← hb.kept_eq, ha.log, openings_append, drops_append, List.filter_append]
    congr 1
    · apply List.filter_congr
      intro h hh
      have hlt := hw.number_lt hh
      have : h.number ∉ drops es := by
        intro hm
        have := (hdrop _ hm).1
        omega
      simp [this]
    · apply List.filter_congr
      intro h hh
      have hge := (hnew h hh).1
      have : h.number ∉ drops w.log := by
        intro hm
        have := hw.drops_lt _ hm
        omega
      simp [this]

end World

/-- A client of resolutions, with the handles that it was given and has not dropped, oldest
first. -/
structure Client (P B σ : Type) where
  world : World P B σ
  held : List (Handle B)

namespace Client

open Resolution

/-- What a client does next: it opens a locator with a loader of its choice, or drops the handle at
some position of those that it holds. -/
inductive Move (P σ : Type) where
  | resolve (loader : Loader P σ) (locator : String)
  | drop (position : Nat)

def start (parties : σ) : Client P B σ := ⟨.start parties, []⟩

variable (storage : Storage P B σ)

def move (c : Client P B σ) : Move P σ → Client P B σ
  | .resolve loader locator =>
    match openText loader storage locator c.world with
    | (.ok h, world) => ⟨world, c.held ++ [h]⟩
    | (.error _, world) => ⟨world, c.held⟩
  | .drop position =>
    match c.held[position]? with
    | some h => ⟨c.world.drop h.number, c.held.eraseIdx position⟩
    | none => c

def run (c : Client P B σ) (moves : List (Move P σ)) : Client P B σ := moves.foldl (move storage) c

structure Balanced (c : Client P B σ) : Prop where
  sound : c.world.Sound
  live : c.world.live = c.held

theorem filter_ne_eq_eraseIdx {hs : List (Handle B)} {h : Handle B} {i : Nat}
    (hn : (hs.map Handle.number).Nodup) (hi : hs[i]? = some h) :
    hs.filter (fun g => g.number ≠ h.number) = hs.eraseIdx i := by
  induction hs generalizing i with
  | nil => simp at hi
  | cons g hs ih =>
    rw [List.map_cons, List.nodup_cons] at hn
    cases i with
    | zero =>
      obtain rfl : g = h := by simpa using hi
      have hrest : hs.filter (fun k => k.number ≠ g.number) = hs := by
        rw [List.filter_eq_self]
        intro k hk
        apply decide_eq_true
        intro he
        exact hn.1 (he ▸ List.mem_map_of_mem hk)
      rw [List.filter_cons_of_neg (by simp), hrest, List.eraseIdx_cons_zero]
    | succ i =>
      rw [List.getElem?_cons_succ] at hi
      have hne : g.number ≠ h.number := by
        intro he
        exact hn.1 (he ▸ List.mem_map_of_mem (List.mem_of_getElem? hi))
      rw [List.filter_cons_of_pos (by simpa using hne), ih hn.2 hi, List.eraseIdx_cons_succ]

theorem Balanced.move {c : Client P B σ} (hc : c.Balanced) (m : Move P σ) :
    (c.move storage m).Balanced := by
  cases m with
  | resolve loader locator =>
    obtain ⟨es, hes, hw⟩ := openText_course loader storage locator c.world
    obtain ⟨hsound, hlive⟩ := hc.sound.resolution hes.balance hw
    rw [hc.live] at hlive
    simp only [Client.move]
    rcases hr : openText loader storage locator c.world with ⟨f | h, w⟩ <;>
      rw [hr] at hsound hlive
    · exact ⟨hsound, by simpa [kept, Except.toOption] using hlive⟩
    · exact ⟨hsound, by simpa [kept, Except.toOption] using hlive⟩
  | drop position =>
    simp only [Client.move]
    cases hi : c.held[position]? with
    | none => exact hc
    | some h =>
      have hmem : h ∈ c.world.live := hc.live ▸ List.mem_of_getElem? hi
      have hnodup := hc.live ▸ hc.sound.live_nodup
      refine ⟨hc.sound.drop hmem, ?_⟩
      simpa only [World.drop, World.note, hc.live] using filter_ne_eq_eraseIdx hnodup hi

theorem Balanced.run {c : Client P B σ} (hc : c.Balanced) (moves : List (Move P σ)) :
    (c.run storage moves).Balanced := by
  induction moves generalizing c with
  | nil => exact hc
  | cons m moves ih => exact ih (hc.move storage m)

theorem balanced_start (parties : σ) : (start parties : Client P B σ).Balanced :=
  ⟨World.sound_start parties, rfl⟩

end Client

/-- A resolution in any world, with any loader and whatever the parties answer, accounts for each
handle that it opens: the returned one stays live and all others are dropped once, an unscoped
handle right after the branch that was asked of it. In a whole session of resolutions and drops the
live handles are therefore those that the client was given and has not dropped, and every other
handle that was ever opened has been dropped once. -/
theorem handles_accounted (storage : Storage P B σ) :
    (∀ (loader : Loader P σ) (locator : String) (w : World P B σ),
      ∃ events, (Resolution.openText loader storage locator w).2.log = w.log ++ events ∧
        Resolution.Accounted (Resolution.openText loader storage locator w).1 events ∧
        Resolution.BranchesSettled (Resolution.openText loader storage locator w).1 events) ∧
    ∀ (parties : σ) (moves : List (Client.Move P σ)),
      let c : Client P B σ := (Client.start parties).run storage moves
      c.world.live = c.held ∧
        ∀ h ∈ openings c.world.log,
          (h ∈ c.held ∧ (drops c.world.log).count h.number = 0) ∨
            (h ∉ c.held ∧ (drops c.world.log).count h.number = 1) := by
  constructor
  · intro loader locator w
    obtain ⟨es, hes, hw⟩ := Resolution.openText_course loader storage locator w
    exact ⟨es, hw.log, hes.balance.accounted, hes.balance.branchesSettled⟩
  · intro parties moves
    have hc := (Client.balanced_start (P := P) (B := B) parties).run storage moves
    refine ⟨hc.live, ?_⟩
    intro h hh
    rw [← hc.live]
    exact hc.sound.live_or_dropped hh

end FileCatalog

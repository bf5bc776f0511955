import FileCatalog.Proofs.Spending
import FileCatalog.Scripted.Region
import Mathlib.Algebra.GroupWithZero.Nat
import Mathlib.Data.List.DropRight

/-!
# Histories of an arena

Pushes and resets come in any order, and pushes fail on the way. What a ledger is after all of them
is told by the exchanges behind the last reset alone: the contents of the pushes that were granted,
with the slices that came back. Of the allocator that makes the copies it is only known that a copy
reads as what was copied, and goes on to do so while more copies are made; what slices it hands out,
and how its memory looks after a reset, is its own affair. A ledger can therefore be told from a
fresh one by its slices, but not by anything that is read from them.
-/

namespace FileCatalog.Arena

variable {M S : Type} {allocator : Allocator M S}

namespace Allocator

/-- The memory has come about by copies and resets, and these slices have been handed out since the
last reset. -/
inductive HandedOut (allocator : Allocator M S) : M → List S → Prop
  | new (chunk : Nat) : HandedOut allocator (allocator.withChunk chunk) []
  | copied {memory slices} (c : Content) : HandedOut allocator memory slices →
      HandedOut allocator (allocator.copy c memory).2 (slices ++ [(allocator.copy c memory).1])
  | reset {memory slices} : HandedOut allocator memory slices →
      HandedOut allocator (allocator.reset memory) []

/-- A copy reads as what was copied, and the slices that are out are not touched by more copies. -/
structure Lawful (allocator : Allocator M S) : Prop where
  read_copy : ∀ c memory,
    allocator.read (allocator.copy c memory).2 (allocator.copy c memory).1 = c
  read_kept : ∀ {memory slices}, allocator.HandedOut memory slices → ∀ c, ∀ slice ∈ slices,
    allocator.read (allocator.copy c memory).2 slice = allocator.read memory slice

section Regions

open Scripted (Slice region)

variable {octets : Array UInt8}

theorem read_region_append {slice : Slice} (h : slice.span.stop ≤ octets.size) (bs : Bytes) :
    region.read (octets ++ bs) slice = region.read octets slice := by
  have hread : slice.span.read (octets.toList ++ bs) = slice.span.read octets.toList :=
    Span.read_append_of_stop_le h bs
  cases slice <;> simp only [Slice.span] at hread <;> simp [region, hread]

theorem read_region_copy (c : Content) (octets : Array UInt8) :
    region.read (region.copy c octets).2 (region.copy c octets).1 = c := by
  have hread (bs : Bytes) :
      (Span.mk octets.size bs.length).read (octets.toList ++ bs) = bs := Span.read_last _ _
  cases c with
  | octets bs => simp [region, hread]
  | text s => simp [region, ← Bytes.length_ofText, hread]

theorem copy_region (c : Content) (octets : Array UInt8) : ∃ bs : Bytes,
    (region.copy c octets).2 = octets ++ bs ∧
      (region.copy c octets).1.span.stop = octets.size + bs.length := by
  cases c with
  | octets bs => exact ⟨bs, rfl, rfl⟩
  | text s => exact ⟨.ofText s, rfl, by simp [region, Slice.span, Span.stop]⟩

theorem stop_le_of_handedOut {slices : List Slice} (h : region.HandedOut octets slices) :
    ∀ slice ∈ slices, slice.span.stop ≤ octets.size := by
  induction h with
  | new => simp
  | reset => simp
  | @copied octets slices c _ ih =>
    obtain ⟨bs, hoctets, hstop⟩ := copy_region c octets
    have hsize : (octets ++ bs).size = octets.size + bs.length := by
      rw [← Array.length_toList, Array.toList_appendList, List.length_append, Array.length_toList]
    intro slice hslice
    rw [hoctets, hsize]
    rcases List.mem_append.mp hslice with hold | hnew
    · exact Nat.le_add_right_of_le (ih slice hold)
    · rw [List.mem_singleton.mp hnew, hstop]

theorem lawful_region : region.Lawful where
  read_copy := read_region_copy
  read_kept h c slice hslice := by
    obtain ⟨bs, hoctets, -⟩ := copy_region c _
    rw [hoctets]
    exact read_region_append (stop_le_of_handedOut h slice hslice) bs

end Regions

end Allocator

def Overruns (limit : Option Nat) (n : Nat) : Prop := Size.wordLimit ≤ n ∨ ∃ m ∈ limit, m < n

theorem fits_eq_false_iff {a : Arena} {n : Nat} :
    a.fits n = false ↔ Overruns a.limit (a.used + n) := by
  rw [← Bool.not_eq_true, fits_iff, Overruns, not_and_or, Nat.not_lt]
  simp only [not_forall, Nat.not_le, exists_prop]

namespace Ledger

def serveEach (allocator : Allocator M S) :
    List Request → Ledger M S → List (Except Fault (Option S)) × Ledger M S
  | [], l => ([], l)
  | r :: rs, l =>
    let (outcome, l) := serve allocator r l
    let (outcomes, l) := serveEach allocator rs l
    (outcome :: outcomes, l)

abbrev Exchange (S : Type) := Request × Except Fault (Option S)

def granted? : Exchange S → Option (Content × S)
  | (.push c, .ok (some slice)) => some (c, slice)
  | _ => none

/-- The pushes that have been granted since the last reset, oldest first. -/
def grants (history : List (Exchange S)) : List (Content × S) :=
  (history.rtakeWhile fun x => x.1 ≠ .reset).filterMap granted?

def total (contents : List Content) : Nat := (contents.map Content.size).sum

/-- All that a client can tell of a ledger after a request. -/
structure View where
  outcome : Except Fault (Option Content)
  limit : Option Nat
  used : Nat
  contents : List Content

def view (allocator : Allocator M S) (outcome : Except Fault (Option S)) (l : Ledger M S) : View where
  outcome := outcome.map fun slice => slice.map (allocator.read l.memory)
  limit := l.arena.limit
  used := l.arena.used
  contents := l.contents allocator

def viewEach (allocator : Allocator M S) : List Request → Ledger M S → List View
  | [], _ => []
  | r :: rs, l =>
    view allocator (serve allocator r l).1 (serve allocator r l).2 ::
      viewEach allocator rs (serve allocator r l).2

section Serving

variable {l l' : Ledger M S} {c : Content} {limit : Option Nat} {history : List (Exchange S)}

def pushed (allocator : Allocator M S) (l : Ledger M S) (c : Content) : Ledger M S :=
  ⟨l.arena.spend c.size, (allocator.copy c l.memory).2,
    l.slices ++ [(allocator.copy c l.memory).1]⟩

theorem serve_push_of_fits (allocator : Allocator M S) (h : l.arena.fits c.size = true) :
    serve allocator (.push c) l =
      (.ok (some (allocator.copy c l.memory).1), l.pushed allocator c) := by
  simp [serve, push, claim_of_fits h, pushed]

theorem serve_push_of_not_fits (allocator : Allocator M S) (h : l.arena.fits c.size = false) :
    serve allocator (.push c) l = (.error (.outOfMemory "arena"), l) := by
  simp [serve, push, claim_of_not_fits h]

theorem serve_reset (allocator : Allocator M S) (l : Ledger M S) :
    serve allocator .reset l = (.ok none, l.reset allocator) := rfl

theorem contents_pushed (hlawful : allocator.Lawful) (h : allocator.HandedOut l.memory l.slices)
    (c : Content) : (l.pushed allocator c).contents allocator = l.contents allocator ++ [c] := by
  have hold : l.slices.map (allocator.read (allocator.copy c l.memory).2) =
      l.slices.map (allocator.read l.memory) :=
    List.map_congr_left (hlawful.read_kept h c)
  simp [contents, pushed, hold, hlawful.read_copy]

theorem handedOut_serve (h : allocator.HandedOut l.memory l.slices) (r : Request) :
    allocator.HandedOut (serve allocator r l).2.memory (serve allocator r l).2.slices := by
  cases r with
  | reset => exact h.reset
  | push c =>
    cases hfits : l.arena.fits c.size with
    | true =>
      rw [serve_push_of_fits _ hfits]
      exact h.copied c
    | false =>
      rw [serve_push_of_not_fits _ hfits]
      exact h

/-- Ledgers of one allocator that agree in all but their slices and what stands behind them. -/
structure Alike (allocator : Allocator M S) (l l' : Ledger M S) : Prop where
  arena : l.arena = l'.arena
  contents : l.contents allocator = l'.contents allocator
  handedOut : allocator.HandedOut l.memory l.slices
  handedOut' : allocator.HandedOut l'.memory l'.slices

theorem Alike.serve (hlawful : allocator.Lawful) (h : Alike allocator l l') (r : Request) :
    Alike allocator (serve allocator r l).2 (serve allocator r l').2 ∧
      view allocator (serve allocator r l).1 (serve allocator r l).2 =
        view allocator (serve allocator r l').1 (serve allocator r l').2 := by
  have hout := handedOut_serve h.handedOut r
  have hout' := handedOut_serve h.handedOut' r
  cases r with
  | reset =>
    refine ⟨⟨?_, rfl, hout, hout'⟩, ?_⟩
    · simp [serve_reset, reset, h.arena]
    · simp [serve_reset, reset, view, h.arena, Ledger.contents, Except.map]
  | push c =>
    cases hfits : l.arena.fits c.size with
    | true =>
      have hfits' : l'.arena.fits c.size = true := h.arena ▸ hfits
      have hboth : (l.pushed allocator c).contents allocator =
          (l'.pushed allocator c).contents allocator := by
        rw [contents_pushed hlawful h.handedOut, contents_pushed hlawful h.handedOut', h.contents]
      rw [serve_push_of_fits _ hfits] at hout ⊢
      rw [serve_push_of_fits _ hfits'] at hout' ⊢
      refine ⟨⟨by simp [pushed, h.arena], hboth, hout, hout'⟩, ?_⟩
      simp only [view, hboth]
      simp [pushed, h.arena, hlawful.read_copy, Except.map]
    | false =>
      have hfits' : l'.arena.fits c.size = false := h.arena ▸ hfits
      rw [serve_push_of_not_fits _ hfits, serve_push_of_not_fits _ hfits']
      exact ⟨h, by simp [view, h.arena, h.contents, Except.map]⟩

theorem Alike.viewEach (hlawful : allocator.Lawful) (h : Alike allocator l l')
    (rs : List Request) : viewEach allocator rs l = viewEach allocator rs l' := by
  induction rs generalizing l l' with
  | nil => rfl
  | cons r rs ih =>
    obtain ⟨hafter, hview⟩ := h.serve hlawful r
    simp only [Ledger.viewEach, hview, ih hafter]

theorem grants_concat (c : Content) (outcome : Except Fault (Option S)) :
    grants (history ++ [(.push c, outcome)]) =
      grants history ++ (granted? (.push c, outcome)).toList := by
  have hbehind : (history ++ [(Request.push c, outcome)]).rtakeWhile (fun x => x.1 ≠ .reset) =
      history.rtakeWhile (fun x => x.1 ≠ .reset) ++ [(Request.push c, outcome)] :=
    List.rtakeWhile_concat_pos _ _ _ (by simp)
  rw [grants, hbehind, List.filterMap_append, grants]
  cases hg : granted? (.push c, outcome) <;> simp [hg]

theorem grants_reset (outcome : Except Fault (Option S)) :
    grants (history ++ [(.reset, outcome)]) = [] := by
  rw [grants, List.rtakeWhile_concat_neg _ _ _ (by simp), List.filterMap_nil]

/-- The ledger is what an arena with that limit has come to by these exchanges. -/
structure Holds (allocator : Allocator M S) (limit : Option Nat) (history : List (Exchange S))
    (l : Ledger M S) : Prop where
  limit : l.arena.limit = limit
  fits : l.arena.fits 0 = true
  used : l.arena.used = total ((grants history).map Prod.fst)
  slices : l.slices = (grants history).map Prod.snd
  contents : l.contents allocator = (grants history).map Prod.fst
  handedOut : allocator.HandedOut l.memory l.slices

theorem fits_empty (limit : Option Nat) : (empty limit).fits 0 = true :=
  fits_iff.mpr ⟨(by decide : 0 < Size.wordLimit), fun _ _ => Nat.zero_le _⟩

theorem holds_new (allocator : Allocator M S) (chunk : Nat) (limit : Option Nat) :
    Holds allocator limit [] (new allocator chunk limit) where
  limit := rfl
  fits := fits_empty limit
  used := rfl
  slices := rfl
  contents := rfl
  handedOut := .new chunk

theorem Holds.reset (h : Holds allocator limit history l) :
    Holds allocator limit (history ++ [(.reset, .ok none)]) (l.reset allocator) := by
  constructor
  case limit => exact h.limit
  case fits => exact fits_empty _
  case used => simp [grants_reset, Ledger.reset, total]
  case slices => simp [grants_reset, Ledger.reset]
  case contents => simp [grants_reset, Ledger.reset, Ledger.contents]
  case handedOut => exact h.handedOut.reset

theorem Holds.refused (h : Holds allocator limit history l) (c : Content) (f : Fault) :
    Holds allocator limit (history ++ [(.push c, .error f)]) l := by
  have hgrants : grants (history ++ [(.push c, .error f)]) = grants history := by
    simp [grants_concat, granted?]
  exact ⟨h.limit, h.fits, hgrants ▸ h.used, hgrants ▸ h.slices, hgrants ▸ h.contents, h.handedOut⟩

theorem Holds.granted (hlawful : allocator.Lawful) (h : Holds allocator limit history l)
    (hfits : l.arena.fits c.size = true) :
    Holds allocator limit (history ++ [(.push c, .ok (some (allocator.copy c l.memory).1))])
      (l.pushed allocator c) := by
  constructor
  case limit => exact h.limit
  case fits => simpa [pushed, fits_spend] using hfits
  case used => simp [grants_concat, granted?, pushed, h.used, total]
  case slices => simp [grants_concat, granted?, pushed, h.slices]
  case contents => simp [grants_concat, granted?, contents_pushed hlawful h.handedOut, h.contents]
  case handedOut => exact h.handedOut.copied c

theorem Holds.serve (hlawful : allocator.Lawful) (h : Holds allocator limit history l)
    (r : Request) :
    Holds allocator limit (history ++ [(r, (serve allocator r l).1)]) (serve allocator r l).2 := by
  cases r with
  | reset => exact h.reset
  | push c =>
    cases hfits : l.arena.fits c.size with
    | true => simpa [serve_push_of_fits _ hfits] using h.granted hlawful hfits
    | false => simpa [serve_push_of_not_fits _ hfits] using h.refused c _

theorem serveEach_cons (allocator : Allocator M S) (r : Request) (rs : List Request)
    (l : Ledger M S) :
    serveEach allocator (r :: rs) l =
      ((Ledger.serve allocator r l).1 :: (serveEach allocator rs (Ledger.serve allocator r l).2).1,
        (serveEach allocator rs (Ledger.serve allocator r l).2).2) := rfl

theorem Holds.serveEach (hlawful : allocator.Lawful) (h : Holds allocator limit history l)
    (rs : List Request) :
    Holds allocator limit (history ++ rs.zip (serveEach allocator rs l).1)
      (serveEach allocator rs l).2 := by
  induction rs generalizing history l with
  | nil => simpa [Ledger.serveEach] using h
  | cons r rs ih => simpa [serveEach_cons] using ih (h.serve hlawful r)

theorem length_serveEach (allocator : Allocator M S) (rs : List Request) (l : Ledger M S) :
    (Ledger.serveEach allocator rs l).1.length = rs.length := by
  induction rs generalizing l with
  | nil => rfl
  | cons r rs ih => simp [serveEach_cons, ih]

theorem Holds.fits_eq_false_iff (h : Holds allocator limit history l) {n : Nat} :
    l.arena.fits n = false ↔ Overruns limit (l.arena.used + n) := by
  rw [Arena.fits_eq_false_iff, h.limit]

theorem Holds.serve_of_overruns (h : Holds allocator limit history l)
    (hover : Overruns limit (l.arena.used + c.size)) :
    Ledger.serve allocator (.push c) l = (.error (.outOfMemory "arena"), l) :=
  serve_push_of_not_fits _ (h.fits_eq_false_iff.mpr hover)

theorem Holds.serve_of_not_overruns (h : Holds allocator limit history l)
    (hroom : ¬ Overruns limit (l.arena.used + c.size)) :
    Ledger.serve allocator (.push c) l =
      (.ok (some (allocator.copy c l.memory).1), l.pushed allocator c) := by
  rw [← h.fits_eq_false_iff, Bool.not_eq_false] at hroom
  exact serve_push_of_fits _ hroom

theorem Holds.not_overruns (h : Holds allocator limit history l) :
    ¬ Overruns limit l.arena.used := by
  have hzero := h.fits_eq_false_iff (n := 0)
  simpa [h.fits] using hzero

theorem Holds.used_le (h : Holds allocator limit history l) {m : Nat} (hm : m ∈ limit) :
    l.arena.used ≤ m := by
  by_contra hlt
  exact h.not_overruns (.inr ⟨m, hm, Nat.lt_of_not_le hlt⟩)

theorem Holds.alike_reset (h : Holds allocator limit history l) (chunk : Nat) :
    Alike allocator (l.reset allocator) (new allocator chunk limit) :=
  ⟨by simp [Ledger.reset, new, Arena.reset, h.limit], rfl, h.handedOut.reset, .new chunk⟩

end Serving

/-- Requests of all kinds are served in a fresh arena, whatever allocator it has. Its octets are those
of the pushes that were granted since the last reset, within the limit, and each slice that came back
still reads what was pushed. The next push is refused exactly if it goes beyond the limit or cannot be
counted; it then changes nothing, and otherwise a slice of what was pushed comes back. An empty push
is always granted, a short one also behind a long one that is refused, and an arena that is reset
cannot be told from a fresh one. -/
theorem pushes_accounted (hlawful : allocator.Lawful) (chunk : Nat) (limit : Option Nat)
    (before : List Request) :
    let outcomes := (serveEach allocator before (new allocator chunk limit)).1
    let l := (serveEach allocator before (new allocator chunk limit)).2
    let held := grants (before.zip outcomes)
    outcomes.length = before.length ∧
      l.arena.used = total (held.map Prod.fst) ∧ (∀ m ∈ limit, l.arena.used ≤ m) ∧
      l.slices = held.map Prod.snd ∧ l.contents allocator = held.map Prod.fst ∧
      (∀ c,
        (Overruns limit (l.arena.used + c.size) ∧
          serve allocator (.push c) l = (.error (.outOfMemory "arena"), l)) ∨
        ¬ Overruns limit (l.arena.used + c.size) ∧ ∃ slice after,
          serve allocator (.push c) l = (.ok (some slice), after) ∧
            after.arena.used = l.arena.used + c.size ∧
            allocator.read after.memory slice = c ∧
            after.contents allocator = l.contents allocator ++ [c]) ∧
      (∀ c, c.size = 0 → ∃ slice after, serve allocator (.push c) l = (.ok (some slice), after) ∧
        after.arena.used = l.arena.used) ∧
      (∀ long short, Overruns limit (l.arena.used + long.size) →
        ¬ Overruns limit (l.arena.used + short.size) →
        ∃ slice after, serveEach allocator [.push long, .push short] l =
          ([.error (.outOfMemory "arena"), .ok (some slice)], after)) ∧
      ∀ rest other,
        let renewed := (serve allocator .reset l).2
        renewed.arena = .empty limit ∧ renewed.contents allocator = [] ∧
          viewEach allocator rest renewed = viewEach allocator rest (new allocator other limit) := by
  intro outcomes l held
  have hl : Holds allocator limit (before.zip outcomes) l :=
    (holds_new allocator chunk limit).serveEach hlawful before
  refine ⟨length_serveEach _ _ _, hl.used, fun _ => hl.used_le, hl.slices, hl.contents, ?_, ?_, ?_,
    ?_⟩
  · intro c
    by_cases hover : Overruns limit (l.arena.used + c.size)
    · exact .inl ⟨hover, hl.serve_of_overruns hover⟩
    · exact .inr ⟨hover, _, _, hl.serve_of_not_overruns hover, rfl, hlawful.read_copy c _,
        contents_pushed hlawful hl.handedOut c⟩
  · intro c hempty
    have hroom : ¬ Overruns limit (l.arena.used + c.size) := by
      rw [hempty]
      exact hl.not_overruns
    exact ⟨_, _, hl.serve_of_not_overruns hroom, by simp [pushed, hempty]⟩
  · intro long short hover hroom
    refine ⟨(allocator.copy short l.memory).1, l.pushed allocator short, ?_⟩
    simp [serveEach, hl.serve_of_overruns hover, hl.serve_of_not_overruns hroom]
  · intro rest other
    have halike := hl.alike_reset other
    exact ⟨halike.arena, halike.contents, halike.viewEach hlawful rest⟩

/-- Three octets and a text of three, one that is refused, a reset, and the text again. -/
theorem pushes_accounted_in_six :
    let before : List Request :=
      [.push (.octets [1, 2, 3]), .push (.text "né"), .push (.octets [9]), .reset, .push (.text "né")]
    let l := (serveEach Scripted.region before (new Scripted.region 4096 (some 6))).2
    Scripted.region.Lawful ∧ l.arena.used = 3 ∧ l.contents Scripted.region = [.text "né"] ∧
      Overruns (some 6) (l.arena.used + 4) ∧ ¬ Overruns (some 6) (l.arena.used + 3) ∧
      serve Scripted.region (.push (.octets [1, 2, 3, 4])) l = (.error (.outOfMemory "arena"), l) ∧
      (∃ slice after,
        serveEach Scripted.region [.push (.octets [1, 2, 3, 4]), .push (.text "fou")] l =
          ([.error (.outOfMemory "arena"), .ok (some slice)], after)) ∧
      viewEach Scripted.region before (serve Scripted.region .reset l).2 =
        viewEach Scripted.region before (new Scripted.region 8 (some 6)) := by
  intro before l
  have hused : l.arena.used = 3 := by decide +kernel
  have hover : Overruns (some 6) (l.arena.used + 4) := .inr ⟨6, rfl, by rw [hused]; decide⟩
  have hroom : ¬ Overruns (some 6) (l.arena.used + 3) := by
    rw [hused]
    rintro (h | ⟨m, hm, h⟩)
    · exact absurd h (by decide)
    · cases hm
      exact absurd h (by decide)
  obtain ⟨-, -, -, -, hcontents, hnext, -, hlater, hreset⟩ :=
    pushes_accounted Allocator.lawful_region 4096 (some 6) before
  have hheld : grants (before.zip
        (serveEach Scripted.region before (new Scripted.region 4096 (some 6))).1) =
      [(.text "né", .text ⟨0, 3⟩)] := by decide +kernel
  rw [hheld] at hcontents
  refine ⟨Allocator.lawful_region, hused, hcontents, hover, hroom, ?_, ?_, (hreset before 8).2.2⟩
  · exact ((hnext (.octets [1, 2, 3, 4])).resolve_right fun h => h.1 hover).2
  · exact hlater (.octets [1, 2, 3, 4]) (.text "fou") hover hroom

end Ledger

end FileCatalog.Arena

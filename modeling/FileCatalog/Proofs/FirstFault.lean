import FileCatalog.Proofs.Producers
import FileCatalog.Proofs.TargetBlocks

/-!
# The first fault decides

About twenty queries can fail in an extraction, some of them once for each component or stripe. They
are made in a fixed order, and the first that fails decides the outcome. Missing data is a fault like
any other, except where a directory has no stripe. With memory enough just one thing can go wrong
besides: a directory may answer every query and have more shards than can be counted.
-/

namespace FileCatalog

open Extraction

section Queries

variable {queries : List (Option Fault)} {f : Fault}

theorem firstFault_eq_some_iff :
    firstFault queries = some f ↔
      ∃ earlier later, queries = earlier ++ some f :: later ∧ ∀ query ∈ earlier, query = none := by
  rw [firstFault, List.findSome?_eq_some_iff]
  constructor
  · rintro ⟨earlier, query, later, hqueries, rfl, hearlier⟩
    exact ⟨earlier, later, hqueries, hearlier⟩
  · rintro ⟨earlier, later, hqueries, hearlier⟩
    exact ⟨earlier, some f, later, hqueries, rfl, hearlier⟩

theorem firstFault_eq_none_iff : firstFault queries = none ↔ ∀ query ∈ queries, query = none := by
  simp [firstFault, List.findSome?_eq_none_iff]

theorem exists_firstFault_iff :
    (∃ f, firstFault queries = some f) ↔ ∃ f, some f ∈ queries := by
  rw [← Option.ne_none_iff_exists', Ne, firstFault_eq_none_iff]
  simp [Option.ne_none_iff_exists']

end Queries

section Faults

variable {L : Type} [LayoutAccess L] [HeedfulLayout L] {e : NativeEntry L} {mode : UInt32}
  {arena : Arena} {f : Fault}

theorem extract_eq_error_iff (hlimit : arena.limit = none)
    (hword : arena.used + octets (.ofMode mode) e < Size.wordLimit) (hroomy : Roomy e)
    (record : Record) :
    (Scan.extract e mode ⟨record, arena⟩).1 = .error f ↔
      firstFault (queries (.ofMode mode) e) = some f ∨
        firstFault (queries (.ofMode mode) e) = none ∧ shardFault (.ofMode mode) e = some f := by
  obtain ⟨spent, outcome, part, hspends, hyields⟩ := produces_emitAll (.ofMode mode) e []
  have hfits : arena.fits spent = true := by
    refine Arena.fits_iff.mpr ⟨?_, by simp [hlimit]⟩
    exact Nat.lt_of_le_of_lt (Nat.add_le_add_left hyields.spent_le _) hword
  have hfault := hyields.fault hroomy
  rw [Scan.extract_apply, hspends.afforded arena hfits, ← Option.or_eq_some_iff]
  rw [firstFault_append, firstFault_cons, firstFault_nil, Option.or_none] at hfault
  rw [hfault]
  rcases outcome with g | ⟨⟩ <;> simp

end Faults

/-- With an arena that has no limit, and room in it and in memory for all that is collected, the
outcome of an extraction is decided by its queries, in the order in which they are made: if some query
fails, the extraction fails with the fault of the first that does. If none does, it fails only for a
directory that has more shards than 32 bits can count. -/
theorem first_fault_decides {L : Type} [LayoutAccess L] [HeedfulLayout L] {e : NativeEntry L}
    {mode : UInt32} {arena : Arena} (hlimit : arena.limit = none)
    (hword : arena.used + octets (.ofMode mode) e < Size.wordLimit) (hroomy : Roomy e)
    (record : Record) :
    (∀ f, (Scan.extract e mode ⟨record, arena⟩).1 = .error f ↔
      (∃ earlier later, queries (.ofMode mode) e = earlier ++ some f :: later ∧
        ∀ query ∈ earlier, query = none) ∨
      (∀ query ∈ queries (.ofMode mode) e, query = none) ∧ shardFault (.ofMode mode) e = some f) ∧
    ((∃ f, (Scan.extract e mode ⟨record, arena⟩).1 = .error f) ↔
      (∃ f, some f ∈ queries (.ofMode mode) e) ∨ ∃ f, shardFault (.ofMode mode) e = some f) := by
  have hfault (f : Fault) := extract_eq_error_iff (f := f) hlimit hword hroomy record
  constructor
  · intro f
    rw [hfault, firstFault_eq_some_iff, firstFault_eq_none_iff]
  · simp only [hfault, ← exists_firstFault_iff]
    cases firstFault (queries (.ofMode mode) e) <;> simp

/-- A file of two components, the second of which has nothing to report of its second stripe. Its
metadata target, which is asked for later, is not known either. -/
def brokenFile : NativeEntry Scripted.Layout where
  fid := .ok ⟨0x200000401, 7, 0⟩
  archiveState := .ok ⟨0, 0⟩
  layout := .ok
    { flags := .ok 0
      composite := true
      mirrorCount := .ok 1
      components :=
        [⟨.ok 1, StripeTable.reporting 0x10 #[3]⟩,
          ⟨.ok 2, { StripeTable.reporting 0x10 #[4, 5] with
            target := Scripted.listedTargets #[.ok (some 4), .error (.noData "ost_index")] }⟩]
      current := 0
      refusal := fun _ => none
      ending := .ok () }
  xattr _ := .ok [0xD0, 0x0B, 0xD6, 0x0B, 0, 0, 0, 0, 5, 0, 0, 0]
  directoryStripe := .error (.noData "dir_stripe")
  metadataTarget := .error (.backend "mdt_index")

theorem first_fault_decides_of_broken_file :
    (Scan.extract brokenFile 0o100644 ⟨[], Arena.empty none⟩).1 = .error (.noData "ost_index") ∧
      ∃ earlier later,
        queries (.ofMode 0o100644) brokenFile = earlier ++ some (.noData "ost_index") :: later ∧
        ∀ query ∈ earlier, query = none := by
  have hrun : (Scan.extract brokenFile 0o100644 ⟨[], Arena.empty none⟩).1 =
      .error (.noData "ost_index") := by rfl
  have hroomy : Roomy brokenFile := by
    rintro layout ⟨⟩
    decide
  have hword : (Arena.empty none).used + octets (.ofMode 0o100644) brokenFile < Size.wordLimit := by
    decide
  exact ⟨hrun, (((first_fault_decides rfl hword hroomy []).1 _).mp hrun).resolve_right (nomatch ·.2)⟩

/-- A directory whose layout is plain, with what it has to say at the end of a tour of its components
and of its stripe. -/
def plainDirectory (ending : Except Fault Unit) (stripe : Except Fault DirectoryStripe) :
    NativeEntry Scripted.Layout where
  fid := .ok ⟨0x200000401, 7, 0⟩
  archiveState := .ok ⟨0, 0⟩
  layout := .ok
    { flags := .ok 0
      composite := false
      mirrorCount := .ok 1
      components := [⟨.ok 1, StripeTable.reporting 0 #[3]⟩]
      current := 0
      refusal := fun _ => none
      ending }
  xattr _ := .ok []
  directoryStripe := stripe
  metadataTarget := .ok 0

/-- Not every fault is that of a query: a directory that has answered all of them fails for its
4294967296 shards. Nor does every call count: how a tour of the components ends makes no difference to
a plain layout, which is not toured. -/
theorem shards_decide_without_fault :
    let crowded := plainDirectory (.ok ()) (.ok ⟨2, List.replicate UInt32.size 0⟩)
    let untoured := plainDirectory (.error (.backend "iterate")) (.error (.noData "dir_stripe"))
    ((∀ query ∈ queries (.ofMode 0o40755) crowded, query = none) ∧
      (Scan.extract crowded 0o40755 ⟨[], Arena.empty none⟩).1 =
        .error (.invalidFormat "directory striping" "4294967296 shards")) ∧
    (∀ layout, untoured.layout = .ok layout →
      HeedfulLayout.ending layout = .error (.backend "iterate")) ∧
      (Scan.extract untoured 0o40755 ⟨[], Arena.empty none⟩).1 = .ok 8 := by
  intro crowded untoured
  have hroomy : Roomy crowded := by
    rintro layout ⟨⟩
    decide
  have hword : (Arena.empty none).used + octets (.ofMode 0o40755) crowded < Size.wordLimit := by
    decide
  have hqueries : firstFault (queries (.ofMode 0o40755) crowded) = none := by rfl
  have htype : EntryType.ofMode 0o40755 = .directory := by decide
  have hcount : toString UInt32.size ++ " shards" = "4294967296 shards" := by decide
  have hshards : shardFault (.ofMode 0o40755) crowded =
      some (.invalidFormat "directory striping" "4294967296 shards") := by
    simp only [htype, shardFault, crowded, plainDirectory, List.length_replicate, Nat.lt_irrefl,
      if_false, hcount]
  refine ⟨⟨firstFault_eq_none_iff.mp hqueries, ?_⟩, ?_, by rfl⟩
  · exact (extract_eq_error_iff rfl hword hroomy []).mpr (.inr ⟨hqueries, hshards⟩)
  · rintro layout ⟨⟩
    rfl

end FileCatalog

import FileCatalog.Proofs.Producers
import FileCatalog.Proofs.TargetBlocks

/-!
# Budgets of arenas

Octets are kept by three producers, and once for each component, and a limited arena may refuse any
of them. Where it does, nothing but the arena shows it: the extraction runs out of memory and leaves
the record as it was. Where it does not, the extraction cannot be told from one without a limit. How
many octets decide between the two is known from the answers of the entry.
-/

namespace FileCatalog

open Extraction

section Budget

variable {L : Type} [LayoutAccess L] {e : NativeEntry L} {mode : UInt32} {n : Nat}
  {part : Record} {arena : Arena}

theorem Scan.extract_afforded (h : Spends Scan.mk (emitAll (.ofMode mode) e) [] n (.ok ()) part)
    (record : Record) (hfits : arena.fits n = true) :
    Scan.extract e mode ⟨record, arena⟩ =
      (.ok part.length, ⟨record.settleExpiry.1 ++ part, arena.spend n⟩) := by
  rw [Scan.extract_apply, h.afforded arena hfits]

theorem Scan.extract_refused {outcome : Except Fault Unit}
    (h : Spends Scan.mk (emitAll (.ofMode mode) e) [] n outcome part) (record : Record)
    (hzero : arena.fits 0 = true) (hfits : arena.fits n = false) :
    ∃ taken, arena.fits taken = true ∧ Scan.extract e mode ⟨record, arena⟩ =
      (.error (.outOfMemory "arena"), ⟨record, arena.spend taken⟩) := by
  obtain ⟨taken, left, htaken, hrun⟩ := h.refused arena hzero hfits
  refine ⟨taken, htaken, ?_⟩
  rw [Scan.extract_apply, hrun]

theorem Arena.fits_iff_of_limit {limit : UInt64} (hlimit : arena.limit = some limit.toNat) (n : Nat) :
    arena.fits n = true ↔ arena.used + n ≤ limit.toNat := by
  have hword : limit.toNat < Size.wordLimit := limit.toNat_lt
  rw [Arena.fits_iff, hlimit]
  simp only [Option.mem_some_iff, forall_eq']
  omega

end Budget

/-- An extraction that succeeds in some arena succeeds in the same way in every other one that has
room for its octets, and takes up just these. In one that has not, it runs out of memory, leaves the
record alone and stays within the limit. -/
theorem budget_decides_success {L : Type} [LayoutAccess L] [HeedfulLayout L] {e : NativeEntry L}
    {mode : UInt32} {record : Record} {ample : Arena} {n : Nat} {after : Scan}
    (h : Scan.extract e mode ⟨record, ample⟩ = (.ok n, after)) {limited : Arena} {limit : UInt64}
    (hlimit : limited.limit = some limit.toNat) (hused : limited.used ≤ limit.toNat) :
    (limited.used + octets (.ofMode mode) e ≤ limit.toNat →
      ∃ left, Scan.extract e mode ⟨record, limited⟩ = (.ok n, ⟨after.record, left⟩) ∧
        left.used = limited.used + octets (.ofMode mode) e) ∧
    (limit.toNat < limited.used + octets (.ofMode mode) e →
      ∃ left, Scan.extract e mode ⟨record, limited⟩ =
          (.error (.outOfMemory "arena"), ⟨record, left⟩) ∧
        limited.used ≤ left.used ∧ left.used ≤ limit.toNat) := by
  obtain ⟨alone, hrun, rfl, rfl⟩ := emitAll_of_extract h
  have hspends := (emitAll_ok hrun).1
  have hfits := Arena.fits_iff_of_limit hlimit
  constructor
  · intro hle
    exact ⟨_, Scan.extract_afforded hspends record ((hfits _).mpr hle), Arena.used_spend _ _⟩
  · intro hlt
    have hrefused : limited.fits (octets (.ofMode mode) e) = false := by
      simp [← Bool.not_eq_true, hfits, hlt]
    obtain ⟨taken, htaken, hout⟩ :=
      Scan.extract_refused hspends record ((hfits 0).mpr hused) hrefused
    exact ⟨_, hout, by simp, (hfits taken).mp htaken⟩

/-- A pooled file, whose arena takes sixteen octets for the fid, and seventeen and five for the names
of the format and of the pool. -/
def pooledFile : NativeEntry Scripted.Layout where
  fid := .ok ⟨0x200000401, 7, 0⟩
  archiveState := .ok ⟨0, 0⟩
  layout := .ok
    { flags := .ok 0
      composite := false
      mirrorCount := .ok 1
      components := [⟨.ok 1, { StripeTable.reporting 0 #[3] with pool := .ok "flash" }⟩]
      current := 0
      refusal := fun _ => none
      ending := .ok () }
  xattr _ := .ok ([0xD0, 0x0B, 0xD3, 0x0B] ++ List.replicate 28 0)
  directoryStripe := .error (.noData "dir_stripe")
  metadataTarget := .ok 0

theorem budget_decides_success_of_pooled_file :
    let scan (arena : Arena) := Scan.extract pooledFile 0o100644 ⟨[], arena⟩
    (∃ left, scan (Arena.empty (some 38)) =
        (.ok 13, ⟨(scan (Arena.empty none)).2.record, left⟩) ∧ left.used = 38) ∧
      ∃ left, scan (Arena.empty (some 37)) = (.error (.outOfMemory "arena"), ⟨[], left⟩) ∧
        left.used ≤ 37 := by
  intro scan
  have hrun : scan (Arena.empty none) = (.ok 13, (scan (Arena.empty none)).2) := by rfl
  have hoctets : octets (.ofMode 0o100644) pooledFile = 38 := by decide
  have henough : (Arena.empty (some 38)).limit = some (38 : UInt64).toNat := by rfl
  have hshort : (Arena.empty (some 37)).limit = some (37 : UInt64).toNat := by rfl
  constructor
  · obtain ⟨left, hout, hused⟩ := (budget_decides_success hrun henough (Nat.zero_le _)).1
      (by rw [hoctets]; decide)
    rw [hoctets] at hused
    exact ⟨left, hout, hused⟩
  · obtain ⟨left, hout, -, hused⟩ := (budget_decides_success hrun hshort (Nat.zero_le _)).2
      (by rw [hoctets]; decide)
    exact ⟨left, hout, hused⟩

end FileCatalog

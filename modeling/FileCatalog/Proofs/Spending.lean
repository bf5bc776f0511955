import FileCatalog.Arena

/-!
# Spending an arena

Producers of attributes push octets onto an arena, and all that the arena can do to them is to
refuse a push. `Spends` says of some work how many octets it pushes if none is refused, and that the
limit of the arena decides nothing else: where the octets fit, the work goes the same way in every
arena, and where they do not, some push is refused and the work stops there. Work that is done one
after the other spends the octets of both.
-/

namespace FileCatalog

namespace Arena

variable {a : Arena} {m n : Nat}

theorem fits_mono (hmn : m ≤ n) (h : a.fits n = true) : a.fits m = true := by
  obtain ⟨hword, hlimit⟩ := fits_iff.mp h
  refine fits_iff.mpr ⟨by omega, ?_⟩
  intro limit hl
  exact Nat.le_trans (Nat.add_le_add_left hmn _) (hlimit limit hl)

theorem fits_spend (a : Arena) (m n : Nat) : (a.spend m).fits n = a.fits (m + n) := by
  rw [Bool.eq_iff_iff]
  simp [fits_iff, Nat.add_assoc]

end Arena

/-- In every arena that takes `n` octets, the work goes the same way and takes up these. In any other
arena, unless it is over its limit from the start, the work runs out of memory. The part of the state
beside the arena is made into a state by `put`. -/
structure Spends {τ σ α : Type} (put : τ → Arena → σ) (work : Attempt σ α) (before : τ) (n : Nat)
    (outcome : Except Fault α) (after : τ) : Prop where
  afforded : ∀ arena, arena.fits n = true →
    work (put before arena) = (outcome, put after (arena.spend n))
  refused : ∀ arena, arena.fits 0 = true → arena.fits n = false →
    ∃ part left, arena.fits part = true ∧
      work (put before arena) = (.error (.outOfMemory "arena"), put left (arena.spend part))

section Work

variable {τ σ α β : Type} {put : τ → Arena → σ} {before between after : τ}
  {outcome : Except Fault α} {m n : Nat}

theorem spends_nothing {work : Attempt σ α}
    (h : ∀ arena, work (put before arena) = (outcome, put after arena)) :
    Spends put work before 0 outcome after where
  afforded arena _ := h arena
  refused arena hzero hfits := by simp [hzero] at hfits

theorem Spends.bind {x : Attempt σ α} {f : α → Attempt σ β} {a : α} {outcome : Except Fault β}
    (hx : Spends put x before m (.ok a) between) (hf : Spends put (f a) between n outcome after) :
    Spends put (x >>= f) before (m + n) outcome after := by
  constructor
  · intro arena hfits
    have hfirst : arena.fits m = true := Arena.fits_mono (by omega) hfits
    have hthen : (arena.spend m).fits n = true := by rwa [Arena.fits_spend]
    simp [hx.afforded arena hfirst, hf.afforded _ hthen]
  · intro arena hzero hfits
    -- the push that is refused is one of the first work, or one of the second on what is left
    cases hfirst : arena.fits m with
    | false =>
      obtain ⟨part, left, hpart, hrun⟩ := hx.refused arena hzero hfirst
      exact ⟨part, left, hpart, by simp [hrun]⟩
    | true =>
      have hthen : (arena.spend m).fits n = false := by rwa [Arena.fits_spend]
      have hnow : (arena.spend m).fits 0 = true := by rwa [Arena.fits_spend]
      obtain ⟨part, left, hpart, hrun⟩ := hf.refused _ hnow hthen
      rw [Arena.fits_spend] at hpart
      exact ⟨m + part, left, hpart, by simp [hx.afforded arena hfirst, hrun]⟩

theorem Spends.bind_error {x : Attempt σ α} {f : Fault} (hx : Spends put x before n (.error f) after)
    (next : α → Attempt σ β) : Spends put (x >>= next) before n (.error f) after := by
  constructor
  · intro arena hfits
    simp [hx.afforded arena hfits]
  · intro arena hzero hfits
    obtain ⟨part, left, hpart, hrun⟩ := hx.refused arena hzero hfits
    exact ⟨part, left, hpart, by simp [hrun]⟩

end Work

end FileCatalog

import FileCatalog.Proofs.Extraction

/-!
# Dates settled in rounds

Every round of settling turns one date of the record into a number, and what has been turned is no
candidate of the next round. Rounds therefore work through the candidates from the front, and stop
for good at the first one that cannot be read. The lemmas follow the record: what any number of rounds
does to its first attribute and leaves to do behind it depends on that attribute alone.
-/

namespace FileCatalog

namespace Expiry

variable {a : Attribute} {raw : Bytes}

def IsCandidate (a : Attribute) (raw : Bytes) : Prop :=
  a = ⟨"user.ccc_expires_at", .binary raw⟩ ∧ raw.length < 22

theorem candidate?_eq_some_iff : candidate? a = some raw ↔ IsCandidate a raw := by
  obtain ⟨key, value⟩ := a
  by_cases hkey : key = Expiry.key
  · subst hkey
    cases value <;> simp [candidate?, IsCandidate, AttrValue.asBinary?, Expiry.key, sizeLimit]
    rintro rfl
    exact decide_eq_true_iff
  · have hkey' : key ≠ "user.ccc_expires_at" := hkey
    simp [candidate?, IsCandidate, hkey, hkey']

theorem candidate?_eq_none_iff : candidate? a = none ↔ ∀ raw, ¬IsCandidate a raw := by
  simp only [← candidate?_eq_some_iff, Option.eq_none_iff_forall_ne_some, ne_eq]

theorem candidate_cases (a : Attribute) : candidate? a = none ∨
    (∃ raw date, candidate? a = some raw ∧ read? raw = some date) ∨
    ∃ raw, candidate? a = some raw ∧ read? raw = none := by
  cases ha : candidate? a with
  | none => exact .inl rfl
  | some raw =>
    cases hdate : read? raw with
    | none => exact .inr (.inr ⟨raw, rfl, hdate⟩)
    | some date => exact .inr (.inl ⟨raw, date, rfl, hdate⟩)

theorem candidate?_uint64 (key : String) (date : UInt64) : candidate? ⟨key, .uint64 date⟩ = none := by
  simp [candidate?, AttrValue.asBinary?]

end Expiry

open Expiry (candidate? read? IsCandidate)

namespace Record

def candidates (r : Record) : List Bytes := r.filterMap candidate?

/-- The number of candidates in front of the first one that cannot be read. -/
def legible (r : Record) : Nat := (r.candidates.takeWhile fun raw => (read? raw).isSome).length

/-- In `s` the first `count` candidates of `r` are the numbers they were read as, and everything else
is as in `r`. -/
structure SettledUpTo (count : Nat) (r s : Record) : Prop where
  length : s.length = r.length
  settled {i a raw} : r[i]? = some a → IsCandidate a raw → (candidates (r.take i)).length < count →
    ∃ date, read? raw = some date ∧ s[i]? = some ⟨a.key, .uint64 date⟩
  kept {i a} : r[i]? = some a → (∀ raw, ¬IsCandidate a raw) ∨ count ≤ (candidates (r.take i)).length →
    s[i]? = some a

section Rounds

variable {a : Attribute} {raw : Bytes} {date : UInt64} {count : Nat} {r s : Record}

theorem candidates_cons_of_none (h : candidate? a = none) : candidates (a :: r) = candidates r :=
  List.filterMap_cons_none h

theorem candidates_cons_of_some (h : candidate? a = some raw) :
    candidates (a :: r) = raw :: candidates r :=
  List.filterMap_cons_some h

theorem legible_cons_of_none (h : candidate? a = none) : legible (a :: r) = legible r := by
  rw [legible, candidates_cons_of_none h, legible]

theorem legible_cons_of_read (h : candidate? a = some raw) (hdate : read? raw = some date) :
    legible (a :: r) = legible r + 1 := by
  simp [legible, candidates_cons_of_some h, hdate]

theorem legible_cons_of_unread (h : candidate? a = some raw) (hdate : read? raw = none) :
    legible (a :: r) = 0 := by
  simp [legible, candidates_cons_of_some h, hdate]

theorem settleExpiry_cons_of_none (h : candidate? a = none) :
    settleExpiry (a :: r) = (a :: r.settleExpiry.1, r.settleExpiry.2) := by
  rw [settleExpiry, h]

theorem settleExpiry_cons_of_read (h : candidate? a = some raw) (hdate : read? raw = some date) :
    settleExpiry (a :: r) = (⟨a.key, .uint64 date⟩ :: r, true) := by
  simp only [settleExpiry, h, hdate]

theorem settleExpiry_cons_of_unread (h : candidate? a = some raw) (hdate : read? raw = none) :
    settleExpiry (a :: r) = (a :: r, false) := by
  simp only [settleExpiry, h, hdate]

theorem settleExpiry_of_not_done (h : r.settleExpiry.2 = false) : r.settleExpiry.1 = r := by
  induction r with
  | nil => rfl
  | cons a r ih =>
    obtain ha | ⟨raw, date, ha, hdate⟩ | ⟨raw, ha, hdate⟩ := Expiry.candidate_cases a
    · rw [settleExpiry_cons_of_none ha] at h ⊢
      exact congrArg (a :: ·) (ih h)
    · rw [settleExpiry_cons_of_read ha hdate] at h
      contradiction
    · rw [settleExpiry_cons_of_unread ha hdate]

/-- One round changes one attribute at most. -/
theorem exists_settleExpiry_eq (r : Record) : ∃ i : Nat, ∀ j, j ≠ i → r.settleExpiry.1[j]? = r[j]? := by
  induction r with
  | nil => exact ⟨0, fun j _ => rfl⟩
  | cons a r ih =>
    obtain ha | ⟨raw, date, ha, hdate⟩ | ⟨raw, ha, hdate⟩ := Expiry.candidate_cases a
    · obtain ⟨i, hi⟩ := ih
      rw [settleExpiry_cons_of_none ha]
      refine ⟨i + 1, fun j hj => ?_⟩
      cases j with
      | zero => rfl
      | succ j => exact hi j (ne_of_apply_ne Nat.succ hj)
    · rw [settleExpiry_cons_of_read ha hdate]
      refine ⟨0, fun j hj => ?_⟩
      cases j with
      | zero => exact absurd rfl hj
      | succ j => rfl
    · rw [settleExpiry_cons_of_unread ha hdate]
      exact ⟨0, fun j _ => rfl⟩

theorem settledUpTo_zero (r : Record) : SettledUpTo 0 r r where
  length := rfl
  settled _ _ h := absurd h (Nat.not_lt_zero _)
  kept h _ := h

theorem SettledUpTo.cons_of_none (h : candidate? a = none) (hs : SettledUpTo count r s) :
    SettledUpTo count (a :: r) (a :: s) where
  length := congrArg Nat.succ hs.length
  settled {i b raw} hb hraw hrank := by
    cases i with
    | zero =>
      obtain rfl := Option.some.inj hb
      exact absurd hraw (Expiry.candidate?_eq_none_iff.mp h raw)
    | succ i =>
      rw [List.take_succ_cons, candidates_cons_of_none h] at hrank
      exact hs.settled hb hraw hrank
  kept {i b} hb hkept := by
    cases i with
    | zero => exact hb
    | succ i =>
      rw [List.take_succ_cons, candidates_cons_of_none h] at hkept
      exact hs.kept hb hkept

theorem SettledUpTo.cons_of_read (h : candidate? a = some raw) (hdate : read? raw = some date)
    (hs : SettledUpTo count r s) :
    SettledUpTo (count + 1) (a :: r) (⟨a.key, .uint64 date⟩ :: s) where
  length := congrArg Nat.succ hs.length
  settled {i b raw'} hb hraw hrank := by
    cases i with
    | zero =>
      obtain rfl := Option.some.inj hb
      obtain rfl := Option.some.inj (h.symm.trans (Expiry.candidate?_eq_some_iff.mpr hraw))
      exact ⟨date, hdate, rfl⟩
    | succ i =>
      rw [List.take_succ_cons, candidates_cons_of_some h] at hrank
      exact hs.settled hb hraw (Nat.lt_of_succ_lt_succ hrank)
  kept {i b} hb hkept := by
    cases i with
    | zero =>
      obtain rfl := Option.some.inj hb
      obtain hnone | hrank := hkept
      · exact absurd (Expiry.candidate?_eq_some_iff.mp h) (hnone raw)
      · exact absurd hrank (Nat.not_succ_le_zero _)
    | succ i =>
      rw [List.take_succ_cons, candidates_cons_of_some h] at hkept
      exact hs.kept hb (hkept.imp_right Nat.le_of_succ_le_succ)

end Rounds

end Record

namespace Scan

open Record (legible SettledUpTo)

section Rounds

variable {a : Attribute} {raw : Bytes} {date : UInt64} {r : Record}

theorem settled_zero (r : Record) : settled 0 r = r := rfl

theorem settled_succ (times : Nat) (r : Record) :
    settled (times + 1) r = settled times r.settleExpiry.1 :=
  Function.iterate_succ_apply _ _ _

theorem settled_cons_of_none (h : candidate? a = none) (times : Nat) (r : Record) :
    settled times (a :: r) = a :: settled times r := by
  induction times generalizing r with
  | zero => rfl
  | succ times ih => rw [settled_succ, settled_succ, ← ih, Record.settleExpiry_cons_of_none h]

theorem settled_cons_of_read (h : candidate? a = some raw) (hdate : read? raw = some date)
    (times : Nat) (r : Record) :
    settled (times + 1) (a :: r) = ⟨a.key, .uint64 date⟩ :: settled times r := by
  -- The number that the first round leaves in front is passed over by the other ones.
  rw [settled_succ, ← settled_cons_of_none (Expiry.candidate?_uint64 a.key date),
    Record.settleExpiry_cons_of_read h hdate]

/-- A candidate that cannot be read shields what is behind it, in every round. -/
theorem settled_cons_of_unread (h : candidate? a = some raw) (hdate : read? raw = none)
    (times : Nat) (r : Record) : settled times (a :: r) = a :: r := by
  induction times with
  | zero => rfl
  | succ times ih =>
    rw [settled_succ, Record.settleExpiry_cons_of_unread h hdate]
    exact ih

theorem settled_nil (times : Nat) : settled times [] = [] := by
  induction times with
  | zero => rfl
  | succ times ih => exact ih

theorem settled_append_unread (h : candidate? a = some raw) (hdate : read? raw = none)
    (times : Nat) (before after : Record) :
    settled times (before ++ a :: after) = settled times before ++ a :: after := by
  induction before generalizing times with
  | nil => rw [settled_nil, List.nil_append, settled_cons_of_unread h hdate]
  | cons b before ih =>
    rw [List.cons_append]
    obtain hb | ⟨raw, date, hb, hdate⟩ | ⟨raw, hb, hdate⟩ := Expiry.candidate_cases b
    · rw [settled_cons_of_none hb, settled_cons_of_none hb, ih, List.cons_append]
    · cases times with
      | zero => rfl
      | succ times =>
        rw [settled_cons_of_read hb hdate, settled_cons_of_read hb hdate, ih, List.cons_append]
    · rw [settled_cons_of_unread hb hdate, settled_cons_of_unread hb hdate, List.cons_append]

/-- Rounds settle the legible candidates one after the other. -/
theorem settledUpTo_settled (times : Nat) (r : Record) :
    SettledUpTo (min times (legible r)) r (settled times r) := by
  induction r generalizing times with
  | nil =>
    rw [settled_nil]
    exact Nat.min_zero times ▸ Record.settledUpTo_zero []
  | cons a r ih =>
    obtain ha | ⟨raw, date, ha, hdate⟩ | ⟨raw, ha, hdate⟩ := Expiry.candidate_cases a
    · rw [Record.legible_cons_of_none ha, settled_cons_of_none ha]
      exact (ih times).cons_of_none ha
    · cases times with
      | zero =>
        rw [Nat.zero_min]
        exact Record.settledUpTo_zero (a :: r)
      | succ times =>
        rw [Record.legible_cons_of_read ha hdate, Nat.add_min_add_right,
          settled_cons_of_read ha hdate]
        exact (ih times).cons_of_read ha hdate
    · rw [Record.legible_cons_of_unread ha hdate, Nat.min_zero, settled_cons_of_unread ha hdate]
      exact Record.settledUpTo_zero (a :: r)

theorem settleExpiry_settled (times : Nat) (r : Record) :
    (settled times r).settleExpiry.2 = true ↔ times < legible r := by
  induction r generalizing times with
  | nil =>
    rw [settled_nil]
    exact iff_of_false Bool.false_ne_true (Nat.not_lt_zero times)
  | cons a r ih =>
    obtain ha | ⟨raw, date, ha, hdate⟩ | ⟨raw, ha, hdate⟩ := Expiry.candidate_cases a
    · rw [Record.legible_cons_of_none ha, settled_cons_of_none ha, Record.settleExpiry_cons_of_none ha]
      exact ih times
    · rw [Record.legible_cons_of_read ha hdate]
      cases times with
      | zero =>
        rw [settled_zero, Record.settleExpiry_cons_of_read ha hdate]
        exact iff_of_true rfl (Nat.zero_lt_succ _)
      | succ times =>
        rw [settled_cons_of_read ha hdate,
          Record.settleExpiry_cons_of_none (Expiry.candidate?_uint64 a.key date),
          Nat.add_lt_add_iff_right]
        exact ih times
    · rw [Record.legible_cons_of_unread ha hdate, settled_cons_of_unread ha hdate,
        Record.settleExpiry_cons_of_unread ha hdate]
      exact iff_of_false Bool.false_ne_true (Nat.not_lt_zero times)

theorem settleExpiry_settled_of_le {times : Nat} (h : legible r ≤ times) :
    (settled times r).settleExpiry.1 = settled times r := by
  apply Record.settleExpiry_of_not_done
  rw [← Bool.not_eq_true, settleExpiry_settled]
  exact Nat.not_lt_of_le h

end Rounds

end Scan

open Record (SettledUpTo)

/-- After any number of rounds as many candidates are settled as there were rounds, but none from the
first one on that cannot be read, and nothing else has changed. A round tells whether it has settled
a date. Hence a single round changes one attribute at most, a candidate that cannot be read shields
what is behind it, and with one candidate at most a second round changes nothing. -/
theorem dates_settled_in_turn (r : Record) :
    (∀ times, SettledUpTo (min times r.legible) r (Scan.settled times r)) ∧
      (∀ times, (Scan.settled times r).settleExpiry.2 = true ↔ times < r.legible) ∧
      (∃ i : Nat, ∀ j, j ≠ i → r.settleExpiry.1[j]? = r[j]?) ∧
      (∀ before a raw after, r = before ++ a :: after → IsCandidate a raw → read? raw = none →
        ∀ times, Scan.settled times r = Scan.settled times before ++ a :: after) ∧
      (r.candidates.length ≤ 1 → r.settleExpiry.1.settleExpiry.1 = r.settleExpiry.1) := by
  refine ⟨?_, ?_, r.exists_settleExpiry_eq, ?_, ?_⟩
  · intro times
    exact Scan.settledUpTo_settled times r
  · intro times
    exact Scan.settleExpiry_settled times r
  · rintro before a raw after rfl ha hdate times
    exact Scan.settled_append_unread (Expiry.candidate?_eq_some_iff.mpr ha) hdate times before after
  · intro hone
    have hle : r.legible ≤ 1 := Nat.le_trans (List.takeWhile_sublist _).length_le hone
    exact Scan.settleExpiry_settled_of_le hle

/-- Candidates that hold 12, 7 and no date, with others behind them and attributes between them that
are none. -/
def datedOften : Record :=
  [⟨"user.tag", .binary [49]⟩, ⟨Expiry.key, .binary (List.replicate 22 48)⟩,
    ⟨Expiry.key, .binary [49, 50]⟩, ⟨Expiry.key, .text "5"⟩, ⟨Expiry.key, .binary [55, 0]⟩,
    ⟨Expiry.key, .binary [120]⟩, ⟨Expiry.key, .binary [57]⟩]

def datedOnce : Record := [⟨"user.tag", .binary [49]⟩, ⟨Expiry.key, .binary [49, 0]⟩]

theorem dates_settled_in_turn_of_often :
    SettledUpTo 2 datedOften (Scan.settled 3 datedOften) ∧
      (Scan.settled 1 datedOften).settleExpiry.2 = true ∧
      ¬(Scan.settled 2 datedOften).settleExpiry.2 = true ∧
      IsCandidate ⟨Expiry.key, .binary [120]⟩ [120] ∧ read? [120] = none ∧
      Scan.settled 3 datedOften = Scan.settled 3 (datedOften.take 5) ++
        ⟨Expiry.key, .binary [120]⟩ :: datedOften.drop 6 ∧
      datedOnce.candidates = [[49, 0]] ∧
      datedOnce.settleExpiry.1.settleExpiry.1 = datedOnce.settleExpiry.1 := by
  obtain ⟨hsettled, hdone, -, hshielded, -⟩ := dates_settled_in_turn datedOften
  have hlegible : datedOften.legible = 2 := by decide
  have hsplit : datedOften =
      datedOften.take 5 ++ ⟨Expiry.key, .binary [120]⟩ :: datedOften.drop 6 := rfl
  have hcandidate : IsCandidate ⟨Expiry.key, .binary [120]⟩ [120] := ⟨rfl, by decide⟩
  have hunread : read? [120] = none := by decide
  have hone : datedOnce.candidates = [[49, 0]] := by decide
  rw [hlegible] at hdone
  refine ⟨?_, (hdone 1).mpr (by decide), mt (hdone 2).mp (by decide), hcandidate, hunread, ?_, hone,
    ?_⟩
  · have h := hsettled 3
    rwa [hlegible] at h
  · exact hshielded _ _ _ _ hsplit hcandidate hunread 3
  · exact (dates_settled_in_turn datedOnce).2.2.2.2 (by rw [hone]; decide)

end FileCatalog

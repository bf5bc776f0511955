import FileCatalog.IdBuffer
import Mathlib.Algebra.GroupWithZero.Nat

/-!
# Packed identifiers

Copies into one buffer succeed and fail in any order. What a run of them leaves behind is told by the
identifiers that have been copied: they fill the buffer from its border on, one behind the other, and
what they have not reached is as before. A view of a copy lies in front of the border, and as octets
are only written behind it, the view reads the same after every later copy.
-/

namespace FileCatalog.IdBuffer

def putEach : List EntryId → IdBuffer → List (Except Fault Span) × IdBuffer
  | [], b => ([], b)
  | id :: ids, b =>
    let (outcome, b) := put id b
    let (outcomes, b) := putEach ids b
    (outcome :: outcomes, b)

def copied : List EntryId → List (Except Fault Span) → List EntryId
  | id :: ids, outcome :: outcomes =>
    if outcome.isOk then id :: copied ids outcomes else copied ids outcomes
  | _, _ => []

def contents (ids : List EntryId) : Bytes := ids.flatMap EntryId.bytes

def lengths (ids : List EntryId) : Nat := (ids.map EntryId.length).sum

/-- Copies with these outcomes have turned the first buffer into the second one. -/
structure Packed (ids : List EntryId) (outcomes : List (Except Fault Span)) (b b' : IdBuffer) :
    Prop where
  written : b'.written = b.written ++ contents (copied ids outcomes)
  room : b'.room = b.room.drop (lengths (copied ids outcomes))
  fits : lengths (copied ids outcomes) ≤ b.remaining
  views {i : Nat} {id : EntryId} {view : Span} : ids[i]? = some id → outcomes[i]? = some (.ok view) →
    view.stop ≤ b'.written.length ∧ view.read b'.written = id.bytes

section Runs

variable {b b' : IdBuffer} {id : EntryId} {ids : List EntryId} {view : Span}
  {outcomes : List (Except Fault Span)}

theorem contents_cons (id : EntryId) (ids : List EntryId) :
    contents (id :: ids) = id.bytes ++ contents ids := List.flatMap_cons

theorem lengths_cons (id : EntryId) (ids : List EntryId) :
    lengths (id :: ids) = id.length + lengths ids := by
  rw [lengths, List.map_cons, List.sum_cons, lengths]

theorem copied_cons_ok (id : EntryId) (view : Span) (ids : List EntryId)
    (outcomes : List (Except Fault Span)) :
    copied (id :: ids) (.ok view :: outcomes) = id :: copied ids outcomes := if_pos rfl

theorem copied_cons_error (id : EntryId) (f : Fault) (ids : List EntryId)
    (outcomes : List (Except Fault Span)) :
    copied (id :: ids) (.error f :: outcomes) = copied ids outcomes := if_neg Bool.false_ne_true

theorem put_cases (id : EntryId) (b : IdBuffer) :
    (id.length ≤ b.remaining ∧ put id b =
      (.ok ⟨b.written.length, id.length⟩, ⟨b.written ++ id.bytes, b.room.drop id.length⟩)) ∨
    b.remaining < id.length ∧ put id b = (.error (.outOfBuffer id.length b.remaining), b) := by
  obtain hlt | hle := Nat.lt_or_ge b.remaining id.length
  · exact .inr ⟨hlt, put_of_lt hlt⟩
  · exact .inl ⟨hle, put_of_le hle⟩

theorem putEach_cons (id : EntryId) (ids : List EntryId) (b : IdBuffer) :
    putEach (id :: ids) b =
      ((put id b).1 :: (putEach ids (put id b).2).1, (putEach ids (put id b).2).2) := rfl

theorem putEach_append (before after : List EntryId) (b : IdBuffer) :
    putEach (before ++ after) b =
      ((putEach before b).1 ++ (putEach after (putEach before b).2).1,
        (putEach after (putEach before b).2).2) := by
  induction before generalizing b with
  | nil => rfl
  | cons id before ih => simp only [List.cons_append, putEach_cons, ih]

theorem packed_nil (b : IdBuffer) : Packed [] [] b b where
  written := (List.append_nil _).symm
  room := rfl
  fits := Nat.zero_le _
  views h := nomatch h

theorem Packed.cons_ok (hle : id.length ≤ b.remaining)
    (h : Packed ids outcomes ⟨b.written ++ id.bytes, b.room.drop id.length⟩ b') :
    Packed (id :: ids) (.ok ⟨b.written.length, id.length⟩ :: outcomes) b b' where
  written := by
    rw [h.written, copied_cons_ok, contents_cons, List.append_assoc]
  room := by
    rw [h.room, copied_cons_ok, lengths_cons, List.drop_drop]
  fits := by
    have hfits := h.fits
    simp only [remaining, List.length_drop] at hfits hle ⊢
    rw [copied_cons_ok, lengths_cons]
    omega
  views {i id' view} hid hview := by
    cases i with
    | zero =>
      -- The view of this copy ends at the new border, and later copies write behind it.
      obtain ⟨⟩ := hid
      obtain ⟨⟩ := hview
      have hstop : (Span.mk b.written.length id.length).stop ≤ (b.written ++ id.bytes).length := by
        rw [List.length_append]
        exact Nat.le_refl _
      rw [h.written, Span.read_append_of_stop_le hstop]
      refine ⟨?_, Span.read_last _ _⟩
      rw [List.length_append]
      exact Nat.le_add_right_of_le hstop
    | succ i => exact h.views hid hview

theorem Packed.cons_error (f : Fault) (h : Packed ids outcomes b b') :
    Packed (id :: ids) (.error f :: outcomes) b b' where
  written := by rw [h.written, copied_cons_error]
  room := by rw [h.room, copied_cons_error]
  fits := by
    rw [copied_cons_error]
    exact h.fits
  views {i id' view} hid hview := by
    cases i with
    | zero => exact nomatch hview
    | succ i => exact h.views hid hview

theorem packed_putEach (ids : List EntryId) (b : IdBuffer) :
    Packed ids (putEach ids b).1 b (putEach ids b).2 := by
  induction ids generalizing b with
  | nil => exact packed_nil b
  | cons id ids ih =>
    obtain ⟨hle, hput⟩ | ⟨-, hput⟩ := put_cases id b
    · rw [putEach_cons, hput]
      exact (ih _).cons_ok hle
    · rw [putEach_cons, hput]
      exact (ih b).cons_error _

theorem length_putEach (ids : List EntryId) (b : IdBuffer) :
    (putEach ids b).1.length = ids.length := by
  induction ids generalizing b with
  | nil => rfl
  | cons id ids ih => exact congrArg Nat.succ (ih _)

theorem getElem?_putEach (before : List EntryId) (id : EntryId) (after : List EntryId) (b : IdBuffer) :
    (putEach (before ++ id :: after) b).1[before.length]? =
      some (put id (putEach before b).2).1 := by
  rw [putEach_append, ← length_putEach before b, List.getElem?_append_right (Nat.le_refl _),
    Nat.sub_self, putEach_cons, List.getElem?_cons_zero]

theorem snd_putEach_concat (before : List EntryId) (id : EntryId) (b : IdBuffer) :
    (putEach (before ++ [id]) b).2 = (put id (putEach before b).2).2 := by
  rw [putEach_append]
  rfl

/-- A view lies in front of the room, and reads its identifier in the whole buffer. -/
theorem Packed.read_storage {i : Nat} (h : Packed ids outcomes b b') (hid : ids[i]? = some id)
    (hview : outcomes[i]? = some (.ok view)) : view.read b'.storage = id.bytes := by
  obtain ⟨hstop, hread⟩ := h.views hid hview
  rw [storage, Span.read_append_of_stop_le hstop, hread]

theorem put_rootParent (b : IdBuffer) : put .rootParent b = (.ok ⟨b.written.length, 0⟩, b) := by
  rw [put_of_le (Nat.zero_le _)]
  simp [EntryId.rootParent, EntryId.length]

end Runs

/-- Some identifiers are copied into a buffer. Those that are copied stand in it one behind the
other, in front of what is left of its content, and the room is short of their lengths. At its turn
each identifier is copied if there is room for it, with a view that reads it in the end, and otherwise
the missing room is reported and the buffer is as before. Hence an empty identifier can always be
copied, and a short one behind a long one that has failed. -/
theorem identifiers_packed (content : Bytes) (ids : List EntryId) :
    (∃ outcomes b, putEach ids (.ofContent content) = (outcomes, b) ∧
      b.storage = contents (copied ids outcomes) ++ content.drop (lengths (copied ids outcomes)) ∧
      b.remaining + lengths (copied ids outcomes) = content.length ∧
      ∀ before id after, ids = before ++ id :: after →
        let b₁ := (putEach before (.ofContent content)).2
        (id.length ≤ b₁.remaining ∧ ∃ view, outcomes[before.length]? = some (.ok view) ∧
          view.read b.storage = id.bytes) ∨
        b₁.remaining < id.length ∧
          outcomes[before.length]? = some (.error (.outOfBuffer id.length b₁.remaining)) ∧
          (putEach (before ++ [id]) (.ofContent content)).2 = b₁) ∧
      (∀ b, ∃ view, put .rootParent b = (.ok view, b)) ∧
      ∀ b long short, b.remaining < long.length → short.length ≤ b.remaining → ∃ view b',
        putEach [long, short] b = ([.error (.outOfBuffer long.length b.remaining), .ok view], b') := by
  have hpacked := packed_putEach ids (.ofContent content)
  refine ⟨⟨_, _, rfl, ?_, ?_, ?_⟩, fun b => ⟨_, put_rootParent b⟩, ?_⟩
  · rw [storage, hpacked.written, hpacked.room]
    rfl
  · rw [remaining, hpacked.room, List.length_drop]
    exact Nat.sub_add_cancel hpacked.fits
  · rintro before id after rfl b₁
    have hid : (before ++ id :: after)[before.length]? = some id := by simp
    have hturn := getElem?_putEach before id after (.ofContent content)
    obtain ⟨hle, hput⟩ | ⟨hlt, hput⟩ := put_cases id b₁
    · rw [hput] at hturn
      exact .inl ⟨hle, _, hturn, hpacked.read_storage hid hturn⟩
    · rw [hput] at hturn
      refine .inr ⟨hlt, hturn, ?_⟩
      rw [snd_putEach_concat]
      exact congrArg Prod.snd hput
  · intro b long short hlong hshort
    refine ⟨⟨b.written.length, short.length⟩,
      ⟨b.written ++ short.bytes, b.room.drop short.length⟩, ?_⟩
    rw [putEach_cons, put_of_lt hlong, putEach_cons, put_of_le hshort]
    rfl

/-- Three octets, six that find no room, and two. -/
theorem identifiers_packed_in_eight :
    let content : Bytes := List.replicate 8 0xee
    let first : EntryId := ⟨[1, 2, 3]⟩
    let long : EntryId := ⟨List.replicate 6 9⟩
    let short : EntryId := ⟨[4, 5]⟩
    let b := (putEach [first] (.ofContent content)).2
    ∃ outcomes after, putEach [first, long, short] (.ofContent content) = (outcomes, after) ∧
      after.storage = [1, 2, 3, 4, 5, 0xee, 0xee, 0xee] ∧ after.remaining + 5 = 8 ∧
      [first, long, short] = [first] ++ long :: [short] ∧
      outcomes[1]? = some (.error (.outOfBuffer 6 5)) ∧
      (putEach [first, long] (.ofContent content)).2 = b ∧
      b.remaining < long.length ∧ short.length ≤ b.remaining ∧
      ∃ view after, putEach [long, short] b = ([.error (.outOfBuffer 6 5), .ok view], after) := by
  intro content first long short b
  obtain ⟨⟨outcomes, after, hrun, hstorage, hremaining, hturns⟩, -, hlater⟩ :=
    identifiers_packed content [first, long, short]
  have houtcomes : outcomes = [.ok ⟨0, 3⟩, .error (.outOfBuffer 6 5), .ok ⟨3, 2⟩] :=
    (congrArg Prod.fst hrun).symm
  rw [houtcomes] at hstorage hremaining
  have hlong : b.remaining < long.length := by decide
  have hshort : short.length ≤ b.remaining := by decide
  obtain ⟨-, hrefused, hkept⟩ :=
    (hturns [first] long [short] rfl).resolve_left fun h => Nat.not_le.mpr hlong h.1
  exact ⟨outcomes, after, hrun, hstorage, hremaining, rfl, hrefused, hkept, hlong, hshort,
    hlater b long short hlong hshort⟩

end FileCatalog.IdBuffer

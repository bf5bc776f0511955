import FileCatalog.Extraction
import FileCatalog.Proofs.TableFilling

/-!
# Production

Producers ask queries, keep octets in the arena and append attributes. `Produces` says of some work
how many octets it keeps, which queries it makes and of what shape the attributes are. There is a
rule for each of the few things that producers are made of, and the rules compose: octets add up,
queries follow one another, and the shape of what is still to come depends on what is there.
-/

namespace FileCatalog

/-- A query and, once it has answered, those that are made with its answer. -/
def asking {α : Type} (answer : Except Fault α) (onward : α → List (Option Fault)) :
    List (Option Fault) :=
  faultOf answer ::
    match answer with
    | .ok a => onward a
    | .error _ => []

theorem asking_last {α : Type} (answer : Except Fault α) :
    asking answer (fun _ => []) = [faultOf answer] := by
  cases answer <;> rfl

namespace Extraction

open Scan (emit onArena)

/-- What some work comes to in every arena that takes its octets: they are as many as foretold
unless the work fails, and then it fails as the first of the queries that does, as long as there is
room for the targets of the layout. -/
structure Yields (roomy : Prop) (n : Nat) (queries : List (Option Fault)) (shape : Record → Prop)
    (spent : Nat) (outcome : Except Fault Unit) (part : Record) : Prop where
  spent_le : spent ≤ n
  spent_eq : outcome = .ok () → spent = n
  fault : roomy → firstFault queries = faultOf outcome
  shape : outcome = .ok () → shape part

/-- The work keeps that many octets, makes these queries and appends attributes of that shape. -/
def Produces (roomy : Prop) (n : Nat) (queries : List (Option Fault)) (shape : Record → Prop)
    (work : Attempt Scan Unit) : Prop :=
  ∀ record, ∃ spent outcome part, Spends Scan.mk work record spent outcome (record ++ part) ∧
    Yields roomy n queries shape spent outcome part

section Rules

variable {roomy : Prop} {m n : Nat} {queries rest : List (Option Fault)} {shape : Record → Prop}
  {work : Attempt Scan Unit}

theorem produces_pure (h : shape []) : Produces roomy 0 [] shape (pure ()) := by
  intro record
  refine ⟨0, .ok (), [], ?_, Nat.le_refl _, fun _ => rfl, fun _ => rfl, fun _ => h⟩
  rw [List.append_nil]
  exact spends_nothing fun _ => rfl

theorem produces_throw (f : Fault) : Produces roomy n [some f] shape (throw f) := by
  intro record
  refine ⟨0, .error f, [], ?_, Nat.zero_le _, nofun, fun _ => rfl, nofun⟩
  rw [List.append_nil]
  exact spends_nothing fun _ => rfl

theorem liftM_ok_bind {α : Type} (a : α) (next : α → Attempt Scan Unit) :
    (liftM (Except.ok a : Except Fault α) >>= next) = next a := by
  funext scan
  simp

theorem Produces.answered (h : Produces roomy n queries shape work) :
    Produces roomy n (none :: queries) shape work := by
  intro record
  obtain ⟨spent, outcome, part, hspends, hyields⟩ := h record
  exact ⟨spent, outcome, part, hspends, { hyields with fault := hyields.fault }⟩

/-- What is found in order behind the last query makes no difference either. -/
theorem Produces.then_none (h : Produces roomy n queries shape work) :
    Produces roomy n (queries ++ [none]) shape work := by
  intro record
  obtain ⟨spent, outcome, part, hspends, hyields⟩ := h record
  exact ⟨spent, outcome, part, hspends, { hyields with fault := by simpa using hyields.fault }⟩

theorem produces_query {α : Type} {answer : Except Fault α} {onward : α → List (Option Fault)}
    {next : α → Attempt Scan Unit}
    (h : ∀ a, answer = .ok a → Produces roomy n (onward a) shape (next a)) :
    Produces roomy n (asking answer onward) shape (liftM answer >>= next) := by
  intro record
  cases answer with
  | error f =>
    have hthrow : (liftM (Except.error f : Except Fault α) >>= next) = throw f := by
      funext scan
      simp
    rw [hthrow]
    exact produces_throw f record
  | ok a =>
    rw [liftM_ok_bind]
    exact (h a rfl).answered record

theorem produces_last_query {α : Type} {answer : Except Fault α} {next : α → Attempt Scan Unit}
    (h : ∀ a, answer = .ok a → Produces roomy n [] shape (next a)) :
    Produces roomy n [faultOf answer] shape (liftM answer >>= next) :=
  asking_last answer ▸ produces_query h

theorem produces_emit {attributes : Record} (h : shape attributes) :
    Produces roomy 0 [] shape (emit attributes) := by
  intro record
  refine ⟨0, .ok (), attributes, ?_, Nat.le_refl _, fun _ => rfl, fun _ => rfl, fun _ => h⟩
  exact spends_nothing fun _ => rfl

/-- Octets are pushed before the attribute that holds them is appended. -/
theorem produces_pushed {octets : Bytes} {attributes : Record} (h : shape attributes) :
    Produces roomy octets.length [] shape (do
      onArena (Arena.push octets)
      emit attributes) := by
  intro record
  refine ⟨octets.length, .ok (), attributes, ⟨?_, ?_⟩, Nat.le_refl _, fun _ => rfl, fun _ => rfl,
    fun _ => h⟩
  · intro arena hfits
    simp [Arena.push_of_fits hfits]
  · intro arena hzero hfits
    exact ⟨0, record, hzero, by simp [Arena.push_of_not_fits hfits]⟩

theorem Produces.mono {weaker : Record → Prop} (h : Produces roomy n queries shape work)
    (hshape : ∀ r, shape r → weaker r) : Produces roomy n queries weaker work := by
  intro record
  obtain ⟨spent, outcome, part, hspends, hyields⟩ := h record
  exact ⟨spent, outcome, part, hspends, { hyields with shape := fun h => hshape _ (hyields.shape h) }⟩

/-- The rest is looked at only behind a part of the shape that the first has promised. -/
theorem Produces.bind {between : Record → Prop} {next : Attempt Scan Unit}
    (h : Produces roomy m queries between work)
    (hnext : ∀ s, between s → Produces roomy n rest (fun t => shape (s ++ t)) next) :
    Produces roomy (m + n) (queries ++ rest) shape (do work; next) := by
  intro record
  obtain ⟨first, outcome, s, hspends, hyields⟩ := h record
  have hle := hyields.spent_le
  rcases outcome with f | ⟨⟩
  · refine ⟨first, .error f, s, hspends.bind_error _, by omega, nofun, ?_, nofun⟩
    intro hroomy
    rw [firstFault_append, hyields.fault hroomy]
    rfl
  · obtain ⟨more, outcome, t, hthen, hrest⟩ := hnext s (hyields.shape rfl) (record ++ s)
    rw [List.append_assoc] at hthen
    have hmore := hrest.spent_le
    refine ⟨first + more, outcome, s ++ t, hspends.bind hthen, by omega, ?_, ?_, hrest.shape⟩
    · intro hok
      rw [hyields.spent_eq rfl, hrest.spent_eq hok]
    · intro hroomy
      rw [firstFault_append, hyields.fault hroomy]
      exact hrest.fault hroomy

theorem produces_emit_bind {attributes : Record} {next : Attempt Scan Unit}
    (h : Produces roomy n queries (fun t => shape (attributes ++ t)) next) :
    Produces roomy n queries shape (do emit attributes; next) := by
  have hemit : Produces roomy 0 [] (· = attributes) (emit attributes) := produces_emit rfl
  have hboth := hemit.bind fun s hs => hs ▸ h
  rwa [Nat.zero_add] at hboth

theorem produces_emitTable {table : StripeTable} {cs : List Component}
    {visit : Attempt (StripeTable × Arena) Unit}
    (hroom : roomy → table.targets.capacity + (cs.map (StripeTable.roomOf table.composite)).sum +
      StripeTable.maxStripeCount.toNat < Size.slotLimit)
    (hvisit : ∃ spent outcome after, Spends Prod.mk visit table spent outcome after ∧
      StripeTable.Fills table cs queries spent outcome after)
    (hshape : ∀ spent after, StripeTable.Fills table cs queries spent (.ok ()) after →
      shape after.attributes) :
    Produces roomy (cs.map StripeTable.poolOctets).sum queries shape (emitTable table visit) := by
  intro record
  obtain ⟨spent, outcome, after, hspends, hfills⟩ := hvisit
  have hrefused (arena : Arena) (hzero : arena.fits 0 = true) (hfits : arena.fits spent = false) :
      ∃ part left, arena.fits part = true ∧
        emitTable table visit ⟨record, arena⟩ =
          (.error (.outOfMemory "arena"), ⟨left, arena.spend part⟩) := by
    obtain ⟨part, left, hpart, hrun⟩ := hspends.refused arena hzero hfits
    exact ⟨part, record, hpart, by simp [emitTable, hrun, Except.map]⟩
  have hfault (h : roomy) := hfills.fault (hroom h)
  rcases outcome with f | ⟨⟩
  · refine ⟨spent, .error f, [], ⟨?_, hrefused⟩, hfills.octets_le, nofun, hfault, nofun⟩
    intro arena hfits
    simp [emitTable, hspends.afforded arena hfits, Except.map]
  · refine ⟨spent, .ok (), after.attributes, ⟨?_, hrefused⟩, hfills.octets_le, hfills.octets_eq,
      hfault, fun _ => hshape spent after hfills⟩
    intro arena hfits
    simp [emitTable, hspends.afforded arena hfits, Except.map]

theorem produces_withRoom {room : Nat} {composite : Bool} {next : StripeTable → Attempt Scan Unit}
    (hroom : room < Size.slotLimit)
    (h : Produces roomy n queries shape (next ⟨composite, #[], ⟨#[], room⟩⟩)) :
    Produces roomy n queries shape (liftM (StripeTable.withRoom room composite) >>= next) := by
  rw [StripeTable.withRoom_of_lt hroom, liftM_ok_bind]
  exact h

end Rules

end Extraction

end FileCatalog

import FileCatalog.Proofs.AttributeKeys
import Mathlib.Logic.Function.Iterate

/-!
# Extraction is all or nothing

The producers append to the record at many places and may fail between any two of them. What makes
their failures harmless is that none of them looks at the record: `Scan.Appends` says that some work
only appends, appends the same attributes behind every record, and takes their keys from a list in
the order of the list. It is kept by everything that producers are made of, so that the lists of keys
add up. The record can therefore be cut back to where it was, and settling the expiration date, which
looks at old and new attributes alike, never gets past the old ones.
-/

namespace FileCatalog

namespace Scan

variable {α β : Type} {keys more : List String}

/-- The work only appends attributes to the record, whose keys are some of the given ones in their
order, and neither what it appends nor what else it does depends on the record. -/
structure Appends (work : Attempt Scan α) (keys : List String) : Prop where
  frame : ∀ record arena, work ⟨record, arena⟩ =
    ((work ⟨[], arena⟩).1,
      ⟨record ++ (work ⟨[], arena⟩).2.record, (work ⟨[], arena⟩).2.arena⟩)
  keys : ∀ arena, (work ⟨[], arena⟩).2.record.keys.Sublist keys

theorem appends_pure (a : α) : Appends (pure a) [] :=
  ⟨by simp, by simp [Record.keys]⟩

theorem appends_throw (f : Fault) : Appends (throw f : Attempt Scan α) [] :=
  ⟨by simp, by simp [Record.keys]⟩

theorem appends_query (answer : Except Fault α) : Appends (liftM answer : Attempt Scan α) [] :=
  ⟨by simp, by simp [Record.keys]⟩

theorem appends_onArena (work : Attempt Arena α) : Appends (onArena work) [] :=
  ⟨by simp, by simp [Record.keys]⟩

theorem appends_emit (attributes : Record) : Appends (emit attributes) attributes.keys :=
  ⟨by simp, by simp⟩

theorem Appends.mono {work : Attempt Scan α} (h : Appends work keys) (hkeys : keys.Sublist more) :
    Appends work more :=
  ⟨h.frame, fun arena => (h.keys arena).trans hkeys⟩

theorem Appends.bind {x : Attempt Scan α} {f : α → Attempt Scan β} (hx : Appends x keys)
    (hf : ∀ a, Appends (f a) more) : Appends (x >>= f) (keys ++ more) := by
  constructor
  · intro record arena
    rw [Attempt.bind_apply, Attempt.bind_apply, hx.frame record]
    rcases x ⟨[], arena⟩ with ⟨e | a, appended, arena'⟩
    · rfl
    · have hbehind := (hf a).frame (record ++ appended) arena'
      have halone := (hf a).frame appended arena'
      simp only [hbehind, halone, List.append_assoc]
  · intro arena
    have hfirst := hx.keys arena
    rw [Attempt.bind_apply]
    rcases hr : x ⟨[], arena⟩ with ⟨e | a, appended, arena'⟩ <;> rw [hr] at hfirst
    · exact hfirst.trans (List.sublist_append_left _ _)
    · simp only [(hf a).frame appended arena', Record.keys_append]
      exact hfirst.append ((hf a).keys arena')

end Scan

namespace Extraction

open Scan

variable {L : Type} (type : EntryType) (e : NativeEntry L)

theorem appends_emitBinary (key : String) (octets : Bytes) : Appends (emitBinary key octets) [key] :=
  (appends_onArena _).bind fun _ => appends_emit _

theorem appends_emitText (key s : String) : Appends (emitText key s) [key] :=
  (appends_onArena _).bind fun _ => appends_emit _

theorem appends_emitFid : Appends (emitFid e) ["fid"] :=
  (appends_query _).bind fun _ => appends_emitBinary _ _

theorem appends_emitArchive :
    Appends (emitArchive type e)
      (if type = .regular then ["hsm_state", "hsm_archive_id"] else []) := by
  cases type with
  | regular => exact (appends_query _).bind fun _ => appends_emit _
  | _ => exact appends_pure ()

theorem appends_emitHeader :
    Appends (emitHeader type e) (if type = .regular then ["magic", "gen"] else []) := by
  cases type with
  | regular =>
    exact (appends_query _).bind fun _ => (appends_query _).bind fun _ =>
      (appends_emitText _ _).bind fun _ => appends_emit _
  | _ => exact appends_pure ()

theorem appends_emitTable (table : StripeTable) (visit : Attempt (StripeTable × Arena) Unit) :
    Appends (emitTable table visit) (tableKeys true) :=
  (appends_onArena _).bind fun table =>
    (appends_emit _).mono (keys_attributes table ▸ tableKeys_sublist _)

theorem appends_emitStripe (stripe : DirectoryStripe) :
    Appends (emitStripe stripe) ["mdt_idx", "mdt_hash", "mdt_count"] := by
  unfold emitStripe
  by_cases h : stripe.targets.length < UInt32.size
  · rw [if_pos h]
    exact appends_emit _
  · rw [if_neg h]
    exact (appends_throw _).mono (List.nil_sublist _)

theorem appends_emitMetadata :
    Appends (emitMetadata type e) (metadataKeys type e.isStriped) := by
  cases type with
  | directory =>
    cases hd : e.directoryStripe with
    | ok stripe =>
      have hstriped : e.isStriped = true := by
        simp [NativeEntry.isStriped, hd, Except.isOk, Except.toBool]
      simpa [metadataKeys, hstriped, emitMetadata, hd] using appends_emitStripe stripe
    | error f =>
      apply Appends.mono _ (List.nil_sublist _)
      cases hf : f.isNoData with
      | true => simpa [emitMetadata, hd, hf] using appends_pure ()
      | false => simpa [emitMetadata, hd, hf] using appends_throw f
  | symlink => exact appends_pure ()
  | _ => exact (appends_query _).bind fun _ => appends_emit _

variable [LayoutAccess L]

theorem appends_emitPlain (layout : L) : Appends (emitPlain layout) (tableKeys true) :=
  (appends_query _).bind fun _ => appends_emitTable _ _

theorem appends_emitComposite (layout : L) :
    Appends (emitComposite layout) ("mirror_count" :: tableKeys true) := by
  apply (appends_query _).bind
  intro mirrors
  apply (appends_emit _).bind
  intro _
  apply (appends_query _).bind
  intro layout
  apply (appends_query _).bind
  intro last
  apply (appends_query _).bind
  intro layout
  apply (appends_query _).bind
  intro table
  exact appends_emitTable _ _

theorem appends_emitComponents (layout : L) :
    Appends (if LayoutAccess.isComposite layout then emitComposite layout else emitPlain layout)
      ("mirror_count" :: tableKeys true) := by
  split
  · exact appends_emitComposite layout
  · exact (appends_emitPlain layout).mono (List.sublist_cons_self _ _)

theorem appends_emitLayout :
    Appends (emitLayout type e) (if type = .symlink then [] else layoutKeys type true) := by
  by_cases htype : type = .symlink
  · subst htype
    exact appends_pure ()
  · rw [if_neg htype, emitLayout_of_ne_symlink htype, layoutKeys_composite]
    exact (appends_query _).bind fun layout => (appends_query _).bind fun _ =>
      (appends_emit _).bind fun _ => (appends_emitHeader type e).bind fun _ =>
        appends_emitComponents layout

/-- Every failure point of an extraction comes before the record is looked at, in whatever order the
components are visited, and even if the table that comes out of the visit is not the one that went
in. -/
theorem appends_emitAll : Appends (emitAll type e) (attributeKeys type true e.isStriped) := by
  rw [attributeKeys, List.append_assoc, List.append_assoc]
  exact (appends_emitFid e).bind fun _ => (appends_emitArchive type e).bind fun _ =>
    (appends_emitLayout type e).bind fun _ => appends_emitMetadata type e

def Undated (a : Attribute) : Prop := a.key ≠ Expiry.key

theorem undated_emitAll (arena : Arena) :
    ∀ a ∈ (emitAll type e ⟨[], arena⟩).2.record, Undated a := by
  intro a ha hkey
  have hmem := ((appends_emitAll type e).keys arena).subset (List.mem_map_of_mem ha)
  rw [hkey] at hmem
  exact expiryKey_notMem_attributeKeys _ _ _ hmem

end Extraction

namespace Scan

open Extraction

variable {L : Type} [LayoutAccess L]

theorem candidate?_of_undated {a : Attribute} (ha : Undated a) : Expiry.candidate? a = none :=
  if_neg ha

theorem extract_apply (e : NativeEntry L) (mode : UInt32) (record : Record) (arena : Arena) :
    extract e mode ⟨record, arena⟩ =
      match emitAll (.ofMode mode) e ⟨[], arena⟩ with
      | (.ok _, alone) =>
        (.ok alone.record.length, ⟨record.settleExpiry.1 ++ alone.record, alone.arena⟩)
      | (.error f, alone) => (.error f, ⟨record, alone.arena⟩) := by
  have hall := undated_emitAll (.ofMode mode) e arena
  simp only [extract, Attempt.bind_apply, Attempt.get_apply, rollingBack,
    (appends_emitAll (.ofMode mode) e).frame record]
  rcases hr : emitAll (.ofMode mode) e ⟨[], arena⟩ with ⟨f | _, alone⟩
  · simp
  · rw [hr] at hall
    have hs := Record.settleExpiry_append (r := record) fun a ha =>
      candidate?_of_undated (hall a ha)
    simp [hs]

/-- What an extraction comes to: a fault, or the attributes that are appended, and the arena that is
left. -/
theorem extract_course (e : NativeEntry L) (mode : UInt32) (arena : Arena) :
    (∃ f arena', ∀ record, extract e mode ⟨record, arena⟩ = (.error f, ⟨record, arena'⟩)) ∨
    ∃ produced arena', (∀ a ∈ produced, Undated a) ∧ ∀ record,
      extract e mode ⟨record, arena⟩ =
        (.ok produced.length, ⟨record.settleExpiry.1 ++ produced, arena'⟩) := by
  have hall := undated_emitAll (.ofMode mode) e arena
  rcases hr : emitAll (.ofMode mode) e ⟨[], arena⟩ with ⟨f | _, alone⟩
  · left
    refine ⟨f, alone.arena, ?_⟩
    intro record
    rw [extract_apply, hr]
  · right
    rw [hr] at hall
    refine ⟨alone.record, alone.arena, hall, ?_⟩
    intro record
    rw [extract_apply, hr]

def extractEach : List (NativeEntry L × UInt32) → Scan → List (Except Fault Nat) × Scan
  | [], scan => ([], scan)
  | (e, mode) :: calls, scan =>
    let (outcome, scan) := extract e mode scan
    let (outcomes, scan) := extractEach calls scan
    (outcome :: outcomes, scan)

/-- The record after some dates have been settled in it, one after the other. -/
def settled (times : Nat) (record : Record) : Record :=
  (fun r : Record => r.settleExpiry.1)^[times] record

theorem settled_append {record produced : Record} (h : ∀ a ∈ produced, Undated a) (times : Nat) :
    settled times (record ++ produced) = settled times record ++ produced := by
  induction times generalizing record with
  | zero => rfl
  | succ times ih =>
    have hs := Record.settleExpiry_append (r := record) fun a ha => candidate?_of_undated (h a ha)
    unfold settled at ih ⊢
    rw [Function.iterate_succ_apply, Function.iterate_succ_apply, hs]
    exact ih

/-- Over a whole run each success settles one date and failures leave nothing, so that the record
is the settled old one followed by all that was produced, whatever the old one was. -/
theorem extractEach_course (calls : List (NativeEntry L × UInt32)) (arena : Arena) :
    ∃ outcomes produced arena', (∀ a ∈ produced, Undated a) ∧ ∀ record,
      extractEach calls ⟨record, arena⟩ =
        (outcomes, ⟨settled (outcomes.countP Except.isOk) record ++ produced, arena'⟩) := by
  induction calls generalizing arena with
  | nil =>
    refine ⟨[], [], arena, by simp, ?_⟩
    intro record
    simp [extractEach, settled]
  | cons call calls ih =>
    obtain ⟨e, mode⟩ := call
    rcases extract_course e mode arena with ⟨f, arena₁, hf⟩ | ⟨first, arena₁, hdate, hf⟩
    · obtain ⟨outcomes, rest, arena₂, hrest, hr⟩ := ih arena₁
      refine ⟨.error f :: outcomes, rest, arena₂, hrest, ?_⟩
      intro record
      simp only [extractEach, hf record, hr record]
      rfl
    · obtain ⟨outcomes, rest, arena₂, hrest, hr⟩ := ih arena₁
      refine ⟨.ok first.length :: outcomes, first ++ rest, arena₂, ?_, ?_⟩
      · intro a ha
        rcases List.mem_append.mp ha with ha | ha
        · exact hdate a ha
        · exact hrest a ha
      · intro record
        have hcount : (Except.ok first.length :: outcomes : List (Except Fault Nat)).countP
            Except.isOk = outcomes.countP Except.isOk + 1 := List.countP_cons_of_pos rfl
        simp only [extractEach, hf record, hr]
        rw [settled_append hdate, hcount, settled, settled, Function.iterate_succ_apply,
          List.append_assoc]

end Scan

/-- At every extraction the record stays as it was, or it is settled and followed by as many
attributes as the answer says, none of them a date; which attributes these are does not depend on
the record. In a run of extractions that share a record and an arena, the record is in the
end the old one, settled once for each success, followed by all that was produced. -/
theorem extraction_all_or_nothing {L : Type} [LayoutAccess L] :
    (∀ (e : NativeEntry L) (mode : UInt32) (arena : Arena),
      (∃ f arena', ∀ record,
        Scan.extract e mode ⟨record, arena⟩ = (.error f, ⟨record, arena'⟩)) ∨
      ∃ produced arena', (∀ a ∈ produced, a.key ≠ Expiry.key) ∧ ∀ record,
        Scan.extract e mode ⟨record, arena⟩ =
          (.ok produced.length, ⟨record.settleExpiry.1 ++ produced, arena'⟩)) ∧
    ∀ (calls : List (NativeEntry L × UInt32)) (arena : Arena),
      ∃ outcomes produced arena', (∀ a ∈ produced, a.key ≠ Expiry.key) ∧ ∀ record,
        Scan.extractEach calls ⟨record, arena⟩ =
          (outcomes, ⟨Scan.settled (outcomes.countP Except.isOk) record ++ produced, arena'⟩) :=
  ⟨Scan.extract_course, Scan.extractEach_course⟩

end FileCatalog

import FileCatalog.Proofs.RecordShape
import FileCatalog.Scripted.Rendering
import Mathlib.Data.List.Induction
import Mathlib.Data.List.Nodup

/-!
# Records in JSON

An object takes the last attribute of a key, and a search takes the first. Both are read off the
attributes of that key, and they agree wherever there is just one, as in every record that an
extraction leaves in place of an empty one.

The map of an object is another party's, which is known only by what it answers, and so are the
forms of values, of which it is known how each kind is tagged. Different values have different
forms, by induction on the sequences in one another.
-/

namespace FileCatalog

namespace Json

theorem int_inj {m n : Int} : int m = int n ↔ m = n := by
  simp [int]

theorem nat_inj {m n : Nat} : nat m = nat n ↔ m = n :=
  int_inj.trans Int.ofNat_inj

end Json

namespace AttrValue

/-- A party that puts values into JSON under the names of their types. A sequence is written if all of
its items are. -/
structure ExternallyTagged (serialize : AttrValue → Except String Json) : Prop where
  int32 : ∀ n, serialize (.int32 n) = .ok (.object [("int32", .int n.toInt)])
  uint32 : ∀ n, serialize (.uint32 n) = .ok (.object [("uint32", .nat n.toNat)])
  uint64 : ∀ n, serialize (.uint64 n) = .ok (.object [("uint64", .nat n.toNat)])
  text : ∀ s, serialize (.text s) = .ok (.object [("string", .string s)])
  binary : ∀ octets, serialize (.binary octets) =
    .ok (.object [("binary", .array (octets.map fun b => .nat b.toNat))])
  sequence : ∀ items forms, items.mapM serialize = .ok forms →
    serialize (.sequence items) = .ok (.object [("sequence", .array forms)])

section Serializers

variable {serialize : AttrValue → Except String Json}

mutual

theorem ExternallyTagged.serialize_eq (h : ExternallyTagged serialize) :
    (v : AttrValue) → serialize v = .ok v.toJson
  | .int32 n => by rw [h.int32, toJson, contentJson, tag]
  | .uint32 n => by rw [h.uint32, toJson, contentJson, tag]
  | .uint64 n => by rw [h.uint64, toJson, contentJson, tag]
  | .text s => by rw [h.text, toJson, contentJson, tag]
  | .binary octets => by rw [h.binary, toJson, contentJson, tag, Bytes.toJson]
  | .sequence items => by
    rw [h.sequence items _ (h.mapM_serialize items), toJson, contentJson, tag]

theorem ExternallyTagged.mapM_serialize (h : ExternallyTagged serialize) :
    (vs : List AttrValue) → vs.mapM serialize = .ok (allToJson vs)
  | [] => by
    rw [allToJson]
    rfl
  | v :: vs => by
    rw [List.mapM_cons, h.serialize_eq v, h.mapM_serialize vs, allToJson]
    rfl

end

end Serializers

theorem mapM_ok_eq (vs : List AttrValue) :
    (vs.mapM fun v => (.ok v.toJson : Except String Json)) = .ok (vs.map toJson) :=
  List.mapM_pure

theorem externallyTagged_toJson : ExternallyTagged fun v => .ok v.toJson where
  int32 n := by rw [toJson, contentJson, tag]
  uint32 n := by rw [toJson, contentJson, tag]
  uint64 n := by rw [toJson, contentJson, tag]
  text s := by rw [toJson, contentJson, tag]
  binary octets := by rw [toJson, contentJson, tag, Bytes.toJson]
  sequence items forms h := by
    rw [mapM_ok_eq, Except.ok.injEq] at h
    rw [toJson, contentJson, tag, allToJson_eq_map, h]

theorem toJson_eq_iff {v w : AttrValue} :
    v.toJson = w.toJson ↔ v.tag = w.tag ∧ v.contentJson = w.contentJson := by
  simp [toJson]

theorem octets_toJson_injective : Function.Injective Bytes.toJson := by
  intro bs cs h
  have hoctet : Function.Injective fun b : UInt8 => Json.nat b.toNat :=
    fun b c hbc => UInt8.toNat_inj.mp (Json.nat_inj.mp hbc)
  exact List.map_injective_iff.mpr hoctet (Json.array.inj h)

mutual

theorem eq_of_toJson : (v w : AttrValue) → v.toJson = w.toJson → v = w
  | .int32 m, w, h => by
    rw [toJson_eq_iff] at h
    cases w <;> simp_all [tag, contentJson, Json.int_inj, Int32.toInt_inj]
  | .uint32 m, w, h => by
    rw [toJson_eq_iff] at h
    cases w <;> simp_all [tag, contentJson, Json.nat_inj, UInt32.toNat_inj]
  | .uint64 m, w, h => by
    rw [toJson_eq_iff] at h
    cases w <;> simp_all [tag, contentJson, Json.nat_inj, UInt64.toNat_inj]
  | .text s, w, h => by
    rw [toJson_eq_iff] at h
    cases w <;> simp_all [tag, contentJson]
  | .binary bs, w, h => by
    rw [toJson_eq_iff] at h
    cases w <;> simp_all [tag, contentJson, octets_toJson_injective.eq_iff]
  | .sequence vs, w, h => by
    rw [toJson_eq_iff] at h
    cases w with
    | sequence ws =>
      rw [contentJson, contentJson, Json.array.injEq] at h
      rw [eq_of_allToJson vs ws h.2]
    | _ => simp [tag] at h

theorem eq_of_allToJson : (vs ws : List AttrValue) → allToJson vs = allToJson ws → vs = ws
  | [], ws, h => by
    cases ws with
    | nil => rfl
    | cons w ws => simp [allToJson] at h
  | v :: vs, ws, h => by
    cases ws with
    | nil => simp [allToJson] at h
    | cons w ws =>
      rw [allToJson, allToJson, List.cons.injEq] at h
      rw [eq_of_toJson v w h.1, eq_of_allToJson vs ws h.2]

end

theorem toJson_inj {v w : AttrValue} : v.toJson = w.toJson ↔ v = w :=
  ⟨eq_of_toJson v w, congrArg toJson⟩

end AttrValue

namespace ObjectMap

variable {M : Type}

/-- A member is found under its key until the key is inserted again, and the keys are those under
which a member is found. -/
structure Lawful (map : ObjectMap M) : Prop where
  get?_empty : ∀ name, map.get? map.empty name = none
  get?_insert : ∀ key value members name, map.get? (map.insert key value members) name =
    if name = key then some value else map.get? members name
  nodup_keys : ∀ members, (map.keys members).Nodup
  mem_keys : ∀ members name, name ∈ map.keys members ↔ (map.get? members name).isSome

theorem lawful_scripted : Scripted.objectMap.Lawful where
  get?_empty name := by simp [Scripted.objectMap]
  get?_insert key value members name := by
    simp [Scripted.objectMap, Std.ExtTreeMap.getElem?_insert, eq_comm (a := name)]
  nodup_keys members := by simp [Scripted.objectMap, Std.ExtTreeMap.nodup_keys]
  mem_keys members name := by simp [Scripted.objectMap]

end ObjectMap

namespace Record

variable {r : Record} {key : String}

def ofKey (r : Record) (key : String) : Record := r.filter fun a => a.key = key

theorem find?_eq_head (r : Record) (key : String) :
    r.find? key = (r.ofKey key).head?.map Attribute.value := by
  rw [find?, ofKey, List.head?_filter]

theorem ofKey_eq_nil : r.ofKey key = [] ↔ key ∉ r.keys := by
  simp [ofKey, keys]

section Objects

variable {M : Type} {map : ObjectMap M}

def object (map : ObjectMap M) (r : Record) : M :=
  r.foldl (fun written a => map.insert a.key a.value.toJson written) map.empty

theorem object_concat (r : Record) (a : Attribute) :
    object map (r ++ [a]) = map.insert a.key a.value.toJson (r.object map) := by
  simp [object]

theorem get?_object (hmap : map.Lawful) (r : Record) (key : String) :
    map.get? (r.object map) key = (r.ofKey key).getLast?.map fun a => a.value.toJson := by
  induction r using List.reverseRecOn with
  | nil => exact hmap.get?_empty key
  | append_singleton r a ih =>
    rw [object_concat, hmap.get?_insert, ih, ofKey, ofKey, List.filter_append]
    by_cases h : a.key = key
    · simp [h]
    · simp [h, Ne.symm h]

theorem mem_keys_object (hmap : map.Lawful) (r : Record) (key : String) :
    key ∈ map.keys (r.object map) ↔ key ∈ r.keys := by
  rw [hmap.mem_keys, get?_object hmap, Option.isSome_map, ← not_iff_not, ← ofKey_eq_nil,
    Bool.not_eq_true, Option.isSome_eq_false_iff, Option.isNone_iff_eq_none, List.getLast?_eq_none_iff]

/-- The object has one member for each attribute, and has under each key what is found there. -/
structure ObjectAgrees (map : ObjectMap M) (r : Record) : Prop where
  length : (map.keys (r.object map)).length = r.length
  lookup : ∀ key, map.get? (r.object map) key = (r.find? key).map AttrValue.toJson

theorem head_ofKey_of_nodup (h : r.keys.Nodup) : (r.ofKey key).head? = (r.ofKey key).getLast? := by
  have hcount : r.keys.count key ≤ 1 := List.nodup_iff_count_le_one.mp h key
  have hlength : (r.ofKey key).length ≤ 1 := by
    rw [ofKey, ← List.countP_eq_length_filter]
    rwa [keys, List.count_eq_countP, List.countP_map] at hcount
  cases hattributes : r.ofKey key with
  | nil => rfl
  | cons a rest =>
    rw [hattributes, List.length_cons] at hlength
    have hrest : rest = [] := List.eq_nil_of_length_eq_zero (by omega)
    rw [hrest]
    rfl

theorem objectAgrees_of_nodup (hmap : map.Lawful) (h : r.keys.Nodup) : r.ObjectAgrees map where
  length := by
    have hperm : (map.keys (r.object map)).Perm r.keys :=
      (List.perm_ext_iff_of_nodup (hmap.nodup_keys _) h).mpr (mem_keys_object hmap r)
    rw [hperm.length_eq, length_keys]
  lookup key := by
    rw [get?_object hmap, find?_eq_head, head_ofKey_of_nodup h, Option.map_map]
    rfl

theorem writeObject_eq {serialize : AttrValue → Except String Json}
    (h : AttrValue.ExternallyTagged serialize) (r : Record) :
    r.writeObject map serialize = .ok (r.object map) := by
  have hwrite (written : M) (a : Attribute) :
      writeMember map serialize written a = .ok (map.insert a.key a.value.toJson written) := by
    rw [writeMember, h.serialize_eq]
    rfl
  rw [writeObject, object, funext fun written => funext (hwrite written)]
  exact List.foldlM_pure

end Objects

end Record

namespace Extraction

variable {L : Type} [LayoutAccess L]

/-- Even if the layout that the components are visited in does not behave. -/
theorem nodup_keys_extract (e : NativeEntry L) (mode : UInt32) (arena : Arena) :
    (Scan.extract e mode ⟨[], arena⟩).2.record.keys.Nodup := by
  have hsub := (appends_emitAll (.ofMode mode) e).keys arena
  have hnodup := (nodup_attributeKeys (.ofMode mode) true e.isStriped).sublist hsub
  rw [Scan.extract_apply]
  rcases hrun : emitAll (.ofMode mode) e ⟨[], arena⟩ with ⟨f | _, alone⟩
  · exact List.nodup_nil
  · rw [hrun] at hnodup
    exact hnodup

end Extraction

/-- With a lawful map, and a party that tags values by their types, every record is written. Its
object has each key of the record once, with the last attribute of that key where a search finds the
first, and different values are written differently. A record that has no key twice has one member
for each attribute and the same values to look up, and such is every record that an extraction
leaves in place of an empty one. -/
theorem records_rendered {L : Type} [LayoutAccess L] {M : Type} {map : ObjectMap M}
    {serialize : AttrValue → Except String Json} (hmap : map.Lawful)
    (htags : AttrValue.ExternallyTagged serialize) :
    (∀ r : Record, r.writeObject map serialize = .ok (r.object map) ∧
      (map.keys (r.object map)).Nodup ∧
      ∀ key, (key ∈ map.keys (r.object map) ↔ key ∈ r.keys) ∧
        map.get? (r.object map) key = (r.ofKey key).getLast?.map (fun a => a.value.toJson) ∧
        r.find? key = (r.ofKey key).head?.map Attribute.value) ∧
    (∀ v w : AttrValue, serialize v = .ok v.toJson ∧ (v.toJson = w.toJson ↔ v = w)) ∧
    (∀ r : Record, r.keys.Nodup → r.ObjectAgrees map) ∧
    ∀ (e : NativeEntry L) (mode : UInt32) (arena : Arena),
      (Scan.extract e mode ⟨[], arena⟩).2.record.ObjectAgrees map := by
  refine ⟨fun r => ⟨r.writeObject_eq htags, hmap.nodup_keys _, ?_⟩,
    fun v w => ⟨htags.serialize_eq v, AttrValue.toJson_inj⟩,
    fun r => Record.objectAgrees_of_nodup hmap, ?_⟩
  · exact fun key => ⟨r.mem_keys_object hmap key, r.get?_object hmap key, r.find?_eq_head key⟩
  · exact fun e mode arena =>
      Record.objectAgrees_of_nodup hmap (Extraction.nodup_keys_extract e mode arena)

/-- A record with and without a second attribute of a key, and the file with two mirrors. -/
theorem records_rendered_of_mirrored_file :
    let once : Record := [⟨"gen", .uint32 1⟩, ⟨"pool", .sequence []⟩]
    let twice : Record := [⟨"gen", .uint32 1⟩, ⟨"pool", .sequence []⟩, ⟨"gen", .uint64 1⟩]
    let map := Scripted.objectMap
    let run := Scan.extract mirroredFile 0o100644 ⟨[], Arena.empty none⟩
    map.Lawful ∧ AttrValue.ExternallyTagged (fun v => .ok v.toJson) ∧
      once.keys.Nodup ∧ (map.keys (once.object map)).length = 2 ∧
      map.get? (twice.object map) "gen" = some (AttrValue.uint64 1).toJson ∧
      twice.find? "gen" = some (.uint32 1) ∧
      run.1 = .ok 17 ∧ (map.keys (run.2.record.object map)).length = 17 := by
  intro once twice map run
  have hmap : map.Lawful := ObjectMap.lawful_scripted
  have hnodup : once.keys.Nodup := by decide
  obtain ⟨hobject, -, hagrees, hfiles⟩ :=
    records_rendered (L := Scripted.Layout) hmap AttrValue.externallyTagged_toJson
  obtain ⟨-, hlast, hfirst⟩ := (hobject twice).2.2 "gen"
  exact ⟨hmap, AttrValue.externallyTagged_toJson, hnodup, (hagrees once hnodup).length, hlast, hfirst,
    rfl, (hfiles mirroredFile 0o100644 (Arena.empty none)).length⟩

end FileCatalog

import FileCatalog.Proofs.Addressing
import FileCatalog.Proofs.FidTexts
import FileCatalog.Proofs.Handles
import FileCatalog.Scripted.Rendering

/-!
# Identifiers of different things

Identifiers are octet strings, and nothing in them says how they were made. Handles are put into
identifiers one to one all the same, since the kind takes four octets whatever it is; fids are put
into the handles that Lustre exports, which no other handle shares; and nothing that is made this way
is empty. The text of an identifier has two digits for each octet, so it tells identifiers apart.
-/

namespace FileCatalog

variable {P B σ : Type}

namespace Bytes

theorem eq_of_toNat {bs cs : Bytes} (hlength : bs.length = cs.length) (h : toNat bs = toNat cs) :
    bs = cs := by
  induction bs generalizing cs with
  | nil => exact (List.eq_nil_of_length_eq_zero hlength.symm).symm
  | cons b bs ih =>
    cases cs with
    | nil => contradiction
    | cons c cs =>
      have hb : b.toNat < 256 := b.toNat_lt
      have hc : c.toNat < 256 := c.toNat_lt
      rw [toNat, toNat] at h
      have hhead : b = c := UInt8.toNat_inj.mp (by omega)
      have htail : bs = cs := ih (Nat.succ.inj hlength) (by omega)
      rw [hhead, htail]

theorem eq_of_digitChar {m n : Nat} (hm : m < 16) (hn : n < 16) (h : m.digitChar = n.digitChar) :
    m = n := by
  have hread : Numeral.hexDigit? m.digitChar.toNat = some m :=
    Escape.IsDigit.hexDigit? hm (.inl rfl)
  rw [h, Escape.IsDigit.hexDigit? hn (.inl rfl)] at hread
  exact (Option.some.inj hread).symm

/-- The two hexadecimal digits of an octet, in lower case. -/
def digits (b : UInt8) : List Char := [(b.toNat / 16).digitChar, (b.toNat % 16).digitChar]

theorem digits_injective {b c : UInt8} (h : digits b = digits c) : b = c := by
  have hb : b.toNat < 256 := b.toNat_lt
  have hc : c.toNat < 256 := c.toNat_lt
  simp only [digits, List.cons.injEq, and_true] at h
  have hdiv := eq_of_digitChar (by omega) (by omega) h.1
  have hmod := eq_of_digitChar (by omega) (by omega) h.2
  exact UInt8.toNat_inj.mp (by omega)

theorem flatMap_digits_injective {bs cs : Bytes} (h : bs.flatMap digits = cs.flatMap digits) :
    bs = cs := by
  induction bs generalizing cs with
  | nil => cases cs <;> simp_all [digits]
  | cons b bs ih =>
    cases cs with
    | nil => simp [digits] at h
    | cons c cs =>
      simp only [List.flatMap_cons] at h
      -- every octet has two digits, so the first ones can be told from the others
      obtain ⟨hfirst, hrest⟩ := List.append_inj h rfl
      rw [digits_injective hfirst, ih hrest]

/-- A party that encodes octets in hexadecimal, the digits of one octet behind those of the other. -/
def EncodesHex (encode : Bytes → String) : Prop := ∀ bs, (encode bs).toList = bs.flatMap digits

section Encoders

variable {encode : Bytes → String}

theorem EncodesHex.length_encode (h : EncodesHex encode) (bs : Bytes) :
    (encode bs).length = 2 * bs.length := by
  rw [← String.length_toList, h]
  induction bs with
  | nil => rfl
  | cons b bs ih =>
    simp only [List.flatMap_cons, digits, List.length_append, List.length_cons, List.length_nil, ih]
    omega

theorem EncodesHex.injective (h : EncodesHex encode) : Function.Injective encode := by
  intro bs cs heq
  apply flatMap_digits_injective
  rw [← h, ← h, heq]

theorem encodesHex_hex : EncodesHex Scripted.hex := fun _ => String.toList_ofList

end Encoders

end Bytes

namespace Fid

theorem StoredIn.eq_bytes {f : Fid} {octets : Bytes} (h : f.StoredIn octets) : octets = f.bytes := by
  have hf := f.storedIn_bytes
  have hlength := h.length.trans hf.length.symm
  have hfirst : octets.take 8 = f.bytes.take 8 :=
    Bytes.eq_of_toNat (by simp [hlength]) (h.sequence.trans hf.sequence.symm)
  have hmiddle : (octets.drop 8).take 4 = (f.bytes.drop 8).take 4 :=
    Bytes.eq_of_toNat (by simp [hlength]) (h.object.trans hf.object.symm)
  have hlast : (octets.drop 8).drop 4 = (f.bytes.drop 8).drop 4 := by
    rw [List.drop_drop, List.drop_drop]
    exact Bytes.eq_of_toNat (by simp [hlength]) (h.version.trans hf.version.symm)
  rw [← List.take_append_drop 8 octets, ← List.take_append_drop 4 (octets.drop 8), hfirst, hmiddle,
    hlast, List.take_append_drop, List.take_append_drop]

end Fid

namespace EntryId

variable {h h' : KernelHandle} {f : Fid}

theorem kind_inj {k k' : Int32}
    (h : Bytes.ofNat 4 k.toUInt32.toNat = Bytes.ofNat 4 k'.toUInt32.toNat) : k = k' := by
  have hlt (k : Int32) : k.toUInt32.toNat < 1 <<< (8 * 4) := k.toUInt32.toNat_lt
  have hnat := congrArg Bytes.toNat h
  rw [Bytes.toNat_ofNat, Bytes.toNat_ofNat, Nat.mod_eq_of_lt (hlt k), Nat.mod_eq_of_lt (hlt k')]
    at hnat
  have hword := congrArg UInt32.toInt32 (UInt32.toNat_inj.mp hnat)
  rwa [Int32.toInt32_toUInt32, Int32.toInt32_toUInt32] at hword

theorem ofHandle_eq_iff : ofHandle h = ofHandle h' ↔ h.kind = h'.kind ∧ h.payload = h'.payload := by
  constructor
  · intro heq
    have hbytes := congrArg EntryId.bytes heq
    rw [bytes_ofHandle, bytes_ofHandle] at hbytes
    -- the kinds take as many octets on both sides
    obtain ⟨hkind, hpayload⟩ := List.append_inj hbytes (by simp)
    exact ⟨kind_inj hkind, hpayload⟩
  · rintro ⟨hkind, hpayload⟩
    rw [ofHandle, ofHandle, hkind, hpayload]

theorem entryId_eq_ofHandle_iff : f.entryId = ofHandle h ↔
    h.kind = 0x97 ∧ ∃ octets, f.StoredIn octets ∧ h.payload = octets ++ List.replicate 16 0 := by
  rw [Fid.entryId, ofHandle_eq_iff]
  constructor
  · rintro ⟨hkind, hpayload⟩
    exact ⟨hkind.symm, f.bytes, f.storedIn_bytes, hpayload.symm⟩
  · rintro ⟨hkind, octets, hoctets, hpayload⟩
    rw [hoctets.eq_bytes] at hpayload
    exact ⟨hkind.symm, hpayload.symm⟩

theorem ofHandle_ne_rootParent (h : KernelHandle) : ofHandle h ≠ rootParent := by
  intro heq
  have hlength := congrArg EntryId.length heq
  rw [length_ofHandle] at hlength
  exact absurd hlength (by simp [rootParent, length])

theorem text_eq_iff {encode : Bytes → String} (h : Bytes.EncodesHex encode) {a b : EntryId} :
    a.text encode = b.text encode ↔ a = b := by
  cases a
  cases b
  simp [text, h.injective.eq_iff]

end EntryId

namespace Resolution

variable {loader : Loader P σ} {storage : Storage P B σ} {h : Handle B} {l : Locator}
  {id : EntryId}

/-- A locator leads to an identifier if it holds the identifier and no path, or if it has a path, at
which the backend has an entry with the identifier. -/
inductive LeadsTo (storage : Storage P B σ) (b : B) (parties : σ) (l : Locator) (id : EntryId) : Prop
  | held : l.path = none → l.id = id → LeadsTo storage b parties l id
  | found {path name info p} : l.path = some path → Locator.decodePath path = .ok name →
      storage.lookup b name .id parties = (.ok info, p) → info.id = some id →
      LeadsTo storage b parties l id

theorem narrow_of_leadsTo {w : World P B σ}
    (hleads : LeadsTo storage h.backend w.parties l id) (hid : id ≠ .rootParent) :
    ∃ query w', Silent query ∧ w.Advances query w' ∧
      narrow storage h l w = branchOff storage h id w' := by
  cases hleads with
  | held hp hi =>
    refine ⟨[], w, silent_nil, .refl w, ?_⟩
    rw [narrow_of_no_path hp, hi, if_neg hid]
  | @found path name info p hp hd ha hi =>
    have hfind := findPath_of_decoded hd ha
    simp only [Except.bind, hi, Option.elim_some] at hfind
    exact ⟨[.lookup h.number name .id], _, silent_lookup _ _ _, w.advances_asked p rfl rfl,
      narrow_of_found hp hfind⟩

/-- The handle on a whole filesystem is branched and dropped if the locator leads on to an identifier
that is not empty. What is left is the branch or nothing. -/
theorem openText_of_leadsTo {s : String} {w : World P B σ} {plugin : P} {b : B} {p p' : σ}
    (hl : Locator.parse s = .ok l) (hload : loader l.backend w.parties = (.ok plugin, p))
    (hopen : storage.instantiate plugin l.filesystem p = (.ok b, p'))
    (hleads : LeadsTo storage b p' l id) (hid : id ≠ .rootParent) :
    ∃ query, Silent query ∧
      (openText loader storage s w).2.log =
        w.log ++ ([.load l.backend, .instantiate plugin l.filesystem, .opened ⟨w.opened, b⟩] ++
          query ++ .branch w.opened id ::
            (kept (openText loader storage s w).1).map .opened ++ [.dropped w.opened]) ∧
      ∀ g, (openText loader storage s w).1 = .ok g → g.number = w.opened + 1 := by
  rw [openText_of_ok hl, openLocator_of_opened hload hopen]
  obtain ⟨query, w', hquery, hask, hnarrow⟩ := narrow_of_leadsTo (h := ⟨w.opened, b⟩)
    (w := (((w.asked (.load l.backend) p).asked
      (.instantiate plugin l.filesystem) p').openHandle b).2) hleads hid
  obtain ⟨es, hes, hadvances⟩ := branchOff_course storage ⟨w.opened, b⟩ id w'
  obtain ⟨hevents, hnumber, -⟩ := hes.shape
  rw [hnarrow]
  refine ⟨query, hquery, ?_, ?_⟩
  · rw [hadvances.log, hask.log, hevents]
    simp [World.openHandle, World.asked, World.note]
  · intro g hg
    rw [hnumber g hg, hask.opened, hquery.openings]
    simp [World.openHandle]

end Resolution

open Resolution

/-- Handles share an identifier only if they have the same kind and the same payload, and a fid
shares it with the one handle of Lustre's kind that holds its octets and then zeros. None of these
identifiers is the empty one, so a locator that leads to one is never taken for the whole
filesystem: the backend is asked for the branch at that identifier, and the handle on the whole is
dropped. With any encoder of hexadecimal, the texts of identifiers differ as the identifiers do, and are
twice as long. -/
theorem identifiers_apart {encode : Bytes → String} (hencode : Bytes.EncodesHex encode)
    (loader : Loader P σ) (storage : Storage P B σ) :
    (∀ h h' : KernelHandle, EntryId.ofHandle h = EntryId.ofHandle h' ↔
      h.kind = h'.kind ∧ h.payload = h'.payload) ∧
    (∀ (f : Fid) (h : KernelHandle), f.entryId = EntryId.ofHandle h ↔
      h.kind = 0x97 ∧ ∃ octets, f.StoredIn octets ∧ h.payload = octets ++ List.replicate 16 0) ∧
    (∀ h, EntryId.ofHandle h ≠ .rootParent) ∧ (∀ f : Fid, f.entryId ≠ .rootParent) ∧
    (∀ (h : KernelHandle) (s : String) (l : Locator) (w : World P B σ) (plugin : P) (b : B)
        (p p' : σ),
      Locator.parse s = .ok l → loader l.backend w.parties = (.ok plugin, p) →
      storage.instantiate plugin l.filesystem p = (.ok b, p') →
      LeadsTo storage b p' l (.ofHandle h) →
      let result := openText loader storage s w
      ∃ query, Silent query ∧
        result.2.log = w.log ++
          ([.load l.backend, .instantiate plugin l.filesystem, .opened ⟨w.opened, b⟩] ++ query ++
            .branch w.opened (.ofHandle h) :: (kept result.1).map .opened ++ [.dropped w.opened]) ∧
        ∀ g, result.1 = .ok g → g.number = w.opened + 1) ∧
    ∀ a b : EntryId, (a.text encode = b.text encode ↔ a = b) ∧
      (a.text encode).length = 2 * a.length := by
  refine ⟨fun h h' => EntryId.ofHandle_eq_iff, fun f h => EntryId.entryId_eq_ofHandle_iff,
    EntryId.ofHandle_ne_rootParent, fun f => EntryId.ofHandle_ne_rootParent f.handle, ?_, ?_⟩
  · intro h s l w plugin b p p' hl hload hopen hleads
    exact openText_of_leadsTo hl hload hopen hleads (EntryId.ofHandle_ne_rootParent h)
  · exact fun a b => ⟨EntryId.text_eq_iff hencode, hencode.length_encode a.bytes⟩

/-- A fid in a locator, and the handle that Lustre exports for it. -/
theorem identifiers_apart_of_fid :
    let fid : Fid := ⟨0x200000007, 1, 0⟩
    let result := openText (fun _ => pure Scripted.openPlugin) Scripted.storage
      "posix://home#[0x200000007:0x1:0x0]" (.start ())
    Bytes.EncodesHex Scripted.hex ∧ (fid.entryId.text Scripted.hex).length = 2 * 36 ∧
      Locator.parse "posix://home#[0x200000007:0x1:0x0]" =
        .ok ⟨"posix", "home", fid.entryId, none⟩ ∧
      ∃ query, Silent query ∧
        result.2.log = [.load "posix", .instantiate Scripted.openPlugin "home",
            .opened ⟨0, ⟨Scripted.openPlugin, "home", ⟨[1]⟩⟩⟩] ++ query ++
          .branch 0 (.ofHandle fid.handle) :: (kept result.1).map .opened ++ [.dropped 0] ∧
        ∀ g, result.1 = .ok g → g.number = 1 := by
  have hparse : Locator.parse "posix://home#[0x200000007:0x1:0x0]" =
      .ok ⟨"posix", "home", Fid.entryId ⟨0x200000007, 1, 0⟩, none⟩ := by
    decide +kernel
  obtain ⟨-, -, -, -, hleads, htexts⟩ := identifiers_apart Bytes.encodesHex_hex
    (fun _ => pure Scripted.openPlugin) Scripted.storage
  have h := hleads (Fid.handle ⟨0x200000007, 1, 0⟩) _ _ (.start ()) Scripted.openPlugin
    ⟨Scripted.openPlugin, "home", ⟨[1]⟩⟩ () () hparse rfl rfl (.held rfl rfl)
  have hlength := (htexts (Fid.entryId ⟨0x200000007, 1, 0⟩) .rootParent).2
  exact ⟨Bytes.encodesHex_hex, hlength, hparse, h⟩

end FileCatalog

import FileCatalog.Proofs.LocatorGrammar
import FileCatalog.Proofs.Queries
import FileCatalog.Scripted.Plugin
import Mathlib.Tactic.IntervalCases

/-!
# Names survive the way through a locator

A client that knows the octets of a name writes them into a locator as an encoding: some as escapes,
and those that need none as they are. Whichever encoding it picks, the resolution opens and looks up
the very name, since every part is decoded once. The reason is that no encoding contains any of the
characters that have a meaning for the parser, so that it can be taken neither for more than one
part nor for an identifier or a fid.
-/

namespace FileCatalog

namespace Escape

def IsDigit (d : Nat) (c : Char) : Prop := c = d.digitChar ∨ c = d.digitChar.toUpper

def isUnreserved (c : Char) : Bool :=
  c.isAlphanum || c = '-' || c = '.' || c = '_' || c = '~'

/-- In a path, slashes may be written as they are, too. -/
def isPathChar (c : Char) : Bool := isUnreserved c || c = '/'

/-- The text writes each of the octets as an escape, or as the ASCII character with that code if
this may stand for itself. -/
inductive Encodes (isLiteral : Char → Bool) : List Char → Bytes → Prop
  | nil : Encodes isLiteral [] []
  | literal {c cs octets} : isLiteral c = true → Encodes isLiteral cs octets →
      Encodes isLiteral (c :: cs) (.ofNat c.toNat :: octets)
  | escape {high low cs octet octets} : IsDigit (octet.toNat / 16) high →
      IsDigit (octet.toNat % 16) low → Encodes isLiteral cs octets →
      Encodes isLiteral ('%' :: high :: low :: cs) (octet :: octets)

theorem IsDigit.hexDigit? {d : Nat} {c : Char} (hd : d < 16) (h : IsDigit d c) :
    Numeral.hexDigit? c.toNat = some d := by
  rcases h with rfl | rfl <;> interval_cases d <;> rfl

theorem IsDigit.isAlphanum {d : Nat} {c : Char} (hd : d < 16) (h : IsDigit d c) :
    c.isAlphanum = true := by
  rcases h with rfl | rfl <;> interval_cases d <;> rfl

theorem toNat_lt_of_isAlphanum {c : Char} (h : c.isAlphanum = true) : c.toNat < 128 := by
  have hbound {d : Char} (hd : d.toNat < 128) (hle : c.val ≤ d.val) : c.toNat < 128 :=
    Nat.lt_of_le_of_lt (UInt32.le_iff_toNat_le.mp hle) hd
  rcases Bool.or_eq_true_iff.mp h with halpha | hdigit
  · rcases Bool.or_eq_true_iff.mp halpha with hupper | hlower
    · exact hbound (by decide) (of_decide_eq_true hupper).2
    · exact hbound (by decide) (of_decide_eq_true (Bool.and_eq_true_iff.mp hlower).2)
  · exact hbound (by decide) (of_decide_eq_true (Bool.and_eq_true_iff.mp hdigit).2)

theorem isPathChar_bounds {c : Char} (h : isPathChar c = true) : c.toNat < 128 ∧ c ≠ '%' := by
  simp only [isPathChar, isUnreserved, Bool.or_eq_true, decide_eq_true_eq] at h
  obtain ((((h | rfl) | rfl) | rfl) | rfl) | rfl := h
  · refine ⟨toNat_lt_of_isAlphanum h, ?_⟩
    rintro rfl
    exact absurd h (by decide)
  all_goals decide

theorem Spells.escape_octet {high low : Char} {octet : UInt8} {cs : List Char} {octets : Bytes}
    (h : Spells cs octets) (hhigh : IsDigit (octet.toNat / 16) high)
    (hlow : IsDigit (octet.toNat % 16) low) : Spells ('%' :: high :: low :: cs) (octet :: octets) := by
  have hlt : octet.toNat < 256 := octet.toNat_lt
  have hs := Spells.escape (hhigh.hexDigit? (by omega)) (hlow.hexDigit? (by omega)) h
  rwa [Nat.div_add_mod, UInt8.ofNat_toNat] at hs

section Encodings

variable {isLiteral : Char → Bool} {cs : List Char} {octets : Bytes}

theorem Encodes.inPath (h : Encodes isUnreserved cs octets) : Encodes isPathChar cs octets := by
  induction h with
  | nil => exact .nil
  | literal hc _ ih => exact .literal (by simp [isPathChar, hc]) ih
  | escape hhigh hlow _ ih => exact .escape hhigh hlow ih

theorem Encodes.spells (h : Encodes isPathChar cs octets) : Spells cs octets := by
  induction h with
  | nil => exact .nil
  | literal hc _ ih =>
    obtain ⟨hlt, hne⟩ := isPathChar_bounds hc
    have hs := Spells.literal hne ih
    rwa [utf8EncodeChar_of_lt hlt] at hs
  | escape hhigh hlow _ ih => exact ih.escape_octet hhigh hlow

theorem Encodes.notMem (h : Encodes isLiteral cs octets) {c : Char} (hc : isLiteral c = false)
    (hdigit : c.isAlphanum = false) (hmark : c ≠ '%') : c ∉ cs := by
  induction h with
  | nil => exact List.not_mem_nil
  | @literal d _ _ hd _ ih =>
    have hne : c ≠ d := by
      rintro rfl
      exact Bool.false_ne_true (hc.symm.trans hd)
    simp only [List.mem_cons, not_or]
    exact ⟨hne, ih⟩
  | @escape high low _ octet _ hhigh hlow _ ih =>
    have hlt : octet.toNat < 256 := octet.toNat_lt
    have hne {d : Nat} {e : Char} (hd : d < 16) (he : IsDigit d e) : c ≠ e := by
      rintro rfl
      exact Bool.false_ne_true (hdigit.symm.trans (he.isAlphanum hd))
    simp only [List.mem_cons, not_or]
    exact ⟨hmark, hne (by omega) hhigh, hne (by omega) hlow, ih⟩

theorem Encodes.ne_nil {name : String} (h : Encodes isLiteral cs (.ofText name))
    (hname : name ≠ "") : cs ≠ [] := by
  rintro rfl
  have hlength := Bytes.length_ofText name
  generalize hoctets : Bytes.ofText name = octets at h hlength
  cases h
  exact hname (String.utf8ByteSize_eq_zero_iff.mp hlength.symm)

end Encodings

end Escape

namespace Locator

open Escape

section Texts

variable {s b a p d name filesystem : String}

theorem parse_of_parts {b a p : List Char} {q f : Option (List Char)} {id : EntryId}
    {path : Option String} (hs : s.toList = b ++ ':' :: '/' :: '/' :: (a ++ p ++ behind '?' q ++
      behind '#' f)) (hb : IsScheme b) (ha : Names a name) (hp : IsPath p) (hq : '#' ∉ behind '?' q)
    (haddresses : Addresses p (behind '#' f) id path) :
    parse s = .ok ⟨.ofList b, name, id, path⟩ := by
  refine parse_eq_ok_iff.mpr ⟨partsOf b a p q f, ?_, ofParts_eq_ok_iff.mpr ?_⟩
  · rw [hs, ofChars_append hb, ofRest_append ha.plain hp hq]
  · exact ⟨_, _, name, id, path, rfl, Escape.decodeBytes_ofList_eq_ok_iff.mpr ha.spells,
      nameOfOctets_eq_ok_iff.mpr ⟨rfl, ha.nonempty⟩, target_eq_ok_iff.mpr haddresses, rfl⟩

theorem names_of_encodes (ha : Encodes isUnreserved a.toList (.ofText filesystem))
    (hne : filesystem ≠ "") :
    Names a.toList filesystem where
  plain := ⟨ha.notMem (by decide) (by decide) (by decide),
    ha.notMem (by decide) (by decide) (by decide), ha.notMem (by decide) (by decide) (by decide)⟩
  spells := ha.inPath.spells
  nonempty := hne

theorem parse_own_path (hb : IsScheme b.toList) (ha : Names a.toList filesystem)
    (hp : IsPath p.toList) :
    parse (b ++ "://" ++ a ++ p) = .ok ⟨b, filesystem, .rootParent, ownPath p⟩ := by
  have htext : (b ++ "://" ++ a ++ p).toList = b.toList ++ ':' :: '/' :: '/' ::
      (a.toList ++ p.toList ++ behind '?' none ++ behind '#' none) := by
    simp [behind]
  have hparse := parse_of_parts htext hb ha hp List.not_mem_nil .absent
  rwa [String.ofList_toList, String.ofList_toList] at hparse

theorem parse_fragment_path {c : Char} {t : List Char} (hb : IsScheme b.toList)
    (ha : Names a.toList filesystem) (hp : p.toList = c :: t) (hc : c ≠ '[') :
    parse (b ++ "://" ++ a ++ "#" ++ p) = .ok ⟨b, filesystem, .rootParent, some p⟩ := by
  have htext : (b ++ "://" ++ a ++ "#" ++ p).toList = b.toList ++ ':' :: '/' :: '/' ::
      (a.toList ++ [] ++ behind '?' none ++ behind '#' (some (c :: t))) := by
    simp [behind, hp]
  have hpath := Addresses.path (p := []) (t := t) hc (.inl rfl)
  have hparse := parse_of_parts htext hb ha ⟨.inl rfl, by simp⟩ List.not_mem_nil hpath
  rwa [← hp, String.ofList_toList, String.ofList_toList] at hparse

theorem parse_path (hb : IsScheme b.toList) (ha : Names a.toList filesystem)
    (hp : Encodes isPathChar p.toList (.ofText name)) (hname : name ≠ "") :
    parse (b ++ "://" ++ a ++ "/" ++ p) = .ok ⟨b, filesystem, .rootParent, some ("/" ++ p)⟩ := by
  have htext : ("/" ++ p).toList = '/' :: p.toList := by simp
  have hpath : IsPath ("/" ++ p).toList := by
    rw [htext]
    refine ⟨.inr ⟨_, rfl⟩, ?_, ?_⟩
    · simpa using hp.notMem (by decide : isPathChar '?' = false) (by decide) (by decide)
    · simpa using hp.notMem (by decide : isPathChar '#' = false) (by decide) (by decide)
  have hstep : ("/" ++ p) ≠ "" ∧ ("/" ++ p) ≠ "/" := by
    constructor <;> intro h <;> replace h := congrArg String.toList h
    · simp at h
    · rw [htext] at h
      exact hp.ne_nil hname (List.cons.inj h).2
  rw [String.append_assoc, parse_own_path hb ha hpath, ownPath_eq_some_iff.mpr ⟨rfl, hstep⟩]

theorem parse_fragment (hb : IsScheme b.toList) (ha : Names a.toList filesystem)
    (hp : Encodes isPathChar p.toList (.ofText name)) (hname : name ≠ "") :
    parse (b ++ "://" ++ a ++ "#" ++ p) = .ok ⟨b, filesystem, .rootParent, some p⟩ := by
  obtain ⟨c, t, hct⟩ := List.exists_cons_of_ne_nil (hp.ne_nil hname)
  have hc : c ≠ '[' := by
    rintro rfl
    have hbracket := hp.notMem (by decide : isPathChar '[' = false) (by decide) (by decide)
    exact hbracket (hct ▸ List.mem_cons_self)
  exact parse_fragment_path hb ha hct hc

theorem parse_bracketed {t : String} {id : EntryId} (hb : IsScheme b.toList)
    (ha : Names a.toList filesystem) (hid : Identifies t.toList id) :
    parse (b ++ "://" ++ a ++ "#[" ++ t ++ "]") = .ok ⟨b, filesystem, id, none⟩ := by
  have htext : (b ++ "://" ++ a ++ "#[" ++ t ++ "]").toList = b.toList ++ ':' :: '/' :: '/' ::
      (a.toList ++ [] ++ behind '?' none ++ behind '#' (some ('[' :: (t.toList ++ [']'])))) := by
    simp [behind]
  have hparse := parse_of_parts htext hb ha ⟨.inl rfl, by simp⟩ List.not_mem_nil (.id hid)
  rwa [String.ofList_toList] at hparse

theorem parse_enclosed {t : String} {id : EntryId} (hb : IsScheme b.toList)
    (ha : Names a.toList filesystem) (hid : Identifies t.toList id) :
    parse (b ++ "://" ++ a ++ "#" ++ ("[" ++ t ++ "]")) = .ok ⟨b, filesystem, id, none⟩ := by
  have htext : b ++ "://" ++ a ++ "#" ++ ("[" ++ t ++ "]") = b ++ "://" ++ a ++ "#[" ++ t ++ "]" := by
    rw [← String.toList_inj]
    simp
  rw [htext]
  exact parse_bracketed hb ha hid

/-- Between the brackets an encoding is never taken for a fid, as it contains no colon. -/
theorem parse_id {id : EntryId} (hb : IsScheme b.toList) (ha : Names a.toList filesystem)
    (hd : Encodes isUnreserved d.toList id.bytes) :
    parse (b ++ "://" ++ a ++ "#[" ++ d ++ "]") = .ok ⟨b, filesystem, id, none⟩ := by
  have hcolon := hd.notMem (by decide : isUnreserved ':' = false) (by decide) (by decide)
  exact parse_bracketed hb ha (.octets (fun hlike => hcolon hlike.2) hd.inPath.spells)

end Texts

end Locator

variable {P B σ : Type}

namespace Resolution

def requestsAt (step : Step) (events : List (Event P B)) : List (Event P B) :=
  events.filter fun e => e.step? = some step

/-- Opening a text asks for the given filesystems and lookups, and for no others. -/
def Asks (loader : Loader P σ) (storage : Storage P B σ) (s : String) (w : World P B σ)
    (filesystems lookups : List (Event P B)) : Prop :=
  ∃ events, (openText loader storage s w).2.log = w.log ++ events ∧
    requestsAt .instantiate events = filesystems ∧ requestsAt .resolve events = lookups

section Requests

variable {loader : Loader P σ} {storage : Storage P B σ} {h : Handle B} {id : EntryId} {l : Locator}
  {w : World P B σ} {s path name : String} {outcome : Except ResolveFault (Handle B)}
  {es : List (Event P B)}

theorem Branching.requests (hr : Branching storage h id w outcome es) :
    requestsAt .instantiate es = [] ∧ requestsAt .resolve es = [] := by
  cases hr <;> exact ⟨rfl, rfl⟩

theorem name_eq_of_decoded {path' name' : String} (hp : l.path = some path)
    (hd : Locator.decodePath path = .ok name) (hp' : l.path = some path')
    (hd' : Locator.decodePath path' = .ok name') : name = name' := by
  obtain rfl := Option.some.inj (hp.symm.trans hp')
  exact Except.ok.inj (hd.symm.trans hd')

theorem Narrowing.requests (hr : Narrowing storage h l w outcome es) (hp : l.path = some path)
    (hd : Locator.decodePath path = .ok name) :
    requestsAt .instantiate es = [] ∧
      requestsAt .resolve es = [.lookup h.number name .id] := by
  cases hr with
  | whole hp' _ => exact nomatch hp.symm.trans hp'
  | byId hp' _ _ => exact nomatch hp.symm.trans hp'
  | undecodable hp' hd' =>
    obtain rfl := Option.some.inj (hp.symm.trans hp')
    exact nomatch hd.symm.trans hd'
  | notFound hp' hd' _ =>
    obtain rfl := name_eq_of_decoded hp hd hp' hd'
    exact ⟨rfl, rfl⟩
  | unidentified hp' hd' _ _ =>
    obtain rfl := name_eq_of_decoded hp hd hp' hd'
    exact ⟨rfl, rfl⟩
  | byPath hp' hd' _ _ hb =>
    obtain rfl := name_eq_of_decoded hp hd hp' hd'
    obtain ⟨hinstantiate, hlookup⟩ := hb.requests
    exact ⟨hinstantiate, congrArg (_ :: ·) hlookup⟩

theorem asks_of_parse {plugin : P} {backend : B} {parties parties' : σ}
    (hl : Locator.parse s = .ok l) (hp : l.path = some path)
    (hd : Locator.decodePath path = .ok name)
    (hload : loader l.backend w.parties = (.ok plugin, parties))
    (hopen : storage.instantiate plugin l.filesystem parties = (.ok backend, parties')) :
    Asks loader storage s w [.instantiate plugin l.filesystem] [.lookup w.opened name .id] := by
  obtain ⟨es, hr, hw⟩ := narrow_course storage ⟨w.opened, backend⟩ l
    (((w.asked (.load l.backend) parties).asked
      (.instantiate plugin l.filesystem) parties').openHandle backend).2
  obtain ⟨hinstantiate, hlookup⟩ := hr.requests hp hd
  have hcourse := openingText_iff.mp (.parsed hl (.opened hload hopen rfl hr))
  refine ⟨_, hcourse.2, ?_, ?_⟩
  · exact congrArg (_ :: ·) hinstantiate
  · exact hlookup

end Requests

end Resolution

open Escape Locator

def Scripted.openPlugin : Scripted.Plugin where
  name := "posix"
  version := interfaceVersion
  fault := none
  filesystems := none
  root := ⟨[1]⟩
  backendName := "posix"
  entries := []
  ignoreMask := false
  branching := .anywhere

/-- Into whichever encodings the names are put: a path behind the filesystem is looked up below the
root, a path in the fragment as it is, and octets between brackets are the identifier. The
filesystem is opened by its very name. -/
theorem names_addressed (storage : Storage P B σ) (backend filesystem a : String)
    (hbackend : IsScheme backend.toList) (hfilesystem : filesystem ≠ "")
    (ha : Encodes isUnreserved a.toList (.ofText filesystem)) :
    (∀ (loader : Loader P σ) (w : World P B σ) (plugin : P) (b : B) (parties parties' : σ)
      (path p : String), loader backend w.parties = (.ok plugin, parties) →
      storage.instantiate plugin filesystem parties = (.ok b, parties') →
      path ≠ "" → Encodes isPathChar p.toList (.ofText path) →
      Resolution.Asks loader storage (backend ++ "://" ++ a ++ "/" ++ p) w
          [.instantiate plugin filesystem] [.lookup w.opened ("/" ++ path) .id] ∧
        Resolution.Asks loader storage (backend ++ "://" ++ a ++ "#" ++ p) w
          [.instantiate plugin filesystem] [.lookup w.opened path .id]) ∧
    ∀ (id : EntryId) (d : String), Encodes isUnreserved d.toList id.bytes →
      parse (backend ++ "://" ++ a ++ "#[" ++ d ++ "]") = .ok ⟨backend, filesystem, id, none⟩ := by
  have hnames := names_of_encodes ha hfilesystem
  constructor
  · intro loader w plugin b parties parties' path p hload hopen hpath hp
    have hspells := hp.spells
    have hbelow : Spells ("/" ++ p).toList (.ofText ("/" ++ path)) := by
      rw [String.toList_append, Bytes.ofText_append]
      exact .literal (by decide) hspells
    exact ⟨Resolution.asks_of_parse (parse_path hbackend hnames hp hpath) rfl
        (decodePath_eq_ok_iff.mpr hbelow) hload hopen,
      Resolution.asks_of_parse (parse_fragment hbackend hnames hp hpath) rfl
        (decodePath_eq_ok_iff.mpr hspells) hload hopen⟩
  · intro id d hd
    exact parse_id hbackend hnames hd

/-- A path that starts with a bracket and holds an escape of its own, and an identifier that is
spelled like a fid. -/
theorem names_addressed_like_syntax :
    IsScheme "posix".toList ∧ "a/b" ≠ "" ∧ Encodes isUnreserved "a%2fb".toList (.ofText "a/b") ∧
      "[%41" ≠ "" ∧ Encodes isPathChar "%5B%2541".toList (.ofText "[%41") ∧
      Encodes isUnreserved "0x1%3a2".toList (.ofText "0x1:2") ∧
    Resolution.Asks (fun _ => pure Scripted.openPlugin) Scripted.storage "posix://a%2fb/%5B%2541"
      (.start ()) [.instantiate Scripted.openPlugin "a/b"] [.lookup 0 "/[%41" .id] ∧
    Resolution.Asks (fun _ => pure Scripted.openPlugin) Scripted.storage "posix://a%2fb#%5B%2541"
      (.start ()) [.instantiate Scripted.openPlugin "a/b"] [.lookup 0 "[%41" .id] ∧
    parse "posix://a%2fb#[0x1%3a2]" = .ok ⟨"posix", "a/b", ⟨.ofText "0x1:2"⟩, none⟩ := by
  have hb : IsScheme "posix".toList := isScheme_iff.mp (by decide)
  have ha : Encodes isUnreserved "a%2fb".toList (.ofText "a/b") :=
    .literal rfl (.escape (.inl rfl) (.inl rfl) (.literal rfl .nil))
  have hp : Encodes isPathChar "%5B%2541".toList (.ofText "[%41") :=
    .escape (.inl rfl) (.inr rfl) (.escape (.inl rfl) (.inl rfl) (.literal rfl (.literal rfl .nil)))
  have hd : Encodes isUnreserved "0x1%3a2".toList (.ofText "0x1:2") :=
    .literal rfl (.literal rfl (.literal rfl
      (.escape (.inl rfl) (.inl rfl) (.literal rfl .nil))))
  have h := names_addressed Scripted.storage "posix" "a/b" "a%2fb" hb (by decide) ha
  have hpath := h.1 (fun _ => pure Scripted.openPlugin) (.start ()) Scripted.openPlugin
    ⟨Scripted.openPlugin, "a/b", ⟨[1]⟩⟩ () () "[%41" "%5B%2541" rfl rfl (by decide) hp
  exact ⟨hb, by decide, ha, by decide, hp, hd, hpath.1, hpath.2, h.2 ⟨.ofText "0x1:2"⟩ "0x1%3a2" hd⟩

end FileCatalog

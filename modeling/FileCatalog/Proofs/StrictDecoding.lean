import FileCatalog.Proofs.Numerals
import FileCatalog.Text

/-!
# Strict decoding of escapes

Escapes can be decoded in two passes: the text is cut at its percent signs and what follows each of
them is checked, and then a scan of the octets replaces the escapes. The passes never disagree on where
an escape stands, and together they are the one pass of the decoder. What this pass does is told in
tokens: a text is accepted exactly if it is written in tokens, and it stands for the octets of these.
-/

namespace FileCatalog.Escape

/-- A character that stands for itself, or an escape in digits of either case. -/
inductive Token where
  | literal (c : Char) (h : c ≠ '%')
  | escape (octet : UInt8) (high low : Char) (hhigh : IsDigit (octet.toNat / 16) high)
      (hlow : IsDigit (octet.toNat % 16) low)

namespace Token

def written : Token → List Char
  | literal c _ => [c]
  | escape _ high low _ _ => ['%', high, low]

def octets : Token → Bytes
  | literal c _ => String.utf8EncodeChar c
  | escape octet _ _ _ _ => [octet]

end Token

def Complete (cs : List Char) : Prop :=
  ∀ before after, cs = before ++ '%' :: after → ∃ high low rest, after = high :: low :: rest ∧
    (∃ d < 16, IsDigit d high) ∧ ∃ d < 16, IsDigit d low

/-! ## The two passes -/

def isHexDigit (b : UInt8) : Bool := (Numeral.hexDigit? b.toNat).isSome

def checkDigits : Bytes → Except Flaw Unit
  | high :: low :: _ => if isHexDigit high && isHexDigit low then .ok () else .error .malformed
  | _ => .error .truncated

/-- What stands behind a percent sign, up to the next one, has to start with two digits. -/
def checkPiece (piece : List Char) : Except Flaw Unit := checkDigits (.ofText (.ofList piece))

def check (cs : List Char) : Except Flaw Unit := ((Text.fields '%' cs).drop 1).forM checkPiece

def checkThenReplace (scan : Bytes → Bytes) (s : String) : Except Fault Bytes := do
  (check s.toList).mapError fun flaw => .invalidLocator s flaw.reason
  return scan (.ofText s)

/-- The scan puts one octet in the place of an escape and copies what is no part of one. Of percent
signs without digits nothing is asked. -/
structure Replaces (scan : Bytes → Bytes) : Prop where
  nil : scan [] = []
  copy {b} (bs) : b ≠ mark → scan (b :: bs) = b :: scan bs
  replace {high low h l} (bs) : Numeral.hexDigit? (UInt8.toNat high) = some h →
    Numeral.hexDigit? (UInt8.toNat low) = some l →
      scan (mark :: high :: low :: bs) = .ofNat (16 * h + l) :: scan bs

/-- The scan that copies percent signs without digits. Fewer than three octets hold no escape. -/
def replaceEscapes : Bytes → Bytes
  | b :: high :: low :: rest =>
    match if b = mark then octet? high low else none with
    | some x => x :: replaceEscapes rest
    | none => b :: replaceEscapes (high :: low :: rest)
  | bs => bs

theorem replaces_replaceEscapes : Replaces replaceEscapes where
  nil := rfl
  copy {b} bs hb := by
    match bs with
    | [] => rfl
    | [_] => rfl
    | _ :: _ :: _ => rw [replaceEscapes, if_neg hb]
  replace {high low h l} bs hh hl := by
    have hx : octet? high low = some (.ofNat (16 * h + l)) :=
      octet?_eq_some_iff.mpr ⟨h, l, hh, hl, rfl⟩
    rw [replaceEscapes, if_pos rfl, hx]

section Tokens

variable {cs : List Char} {octets : Bytes}

theorem Token.spells (t : Token) {rest : List Char} {octets : Bytes} (h : Spells rest octets) :
    Spells (t.written ++ rest) (t.octets ++ octets) := by
  cases t with
  | literal c hc => exact .literal hc h
  | escape octet high low hhigh hlow => exact h.escape_octet hhigh hlow

theorem spells_tokens (ts : List Token) :
    Spells (ts.flatMap Token.written) (ts.flatMap Token.octets) := by
  induction ts with
  | nil => exact .nil
  | cons t ts ih => exact t.spells ih

theorem exists_escape {high low : Char} {h l : Nat}
    (hhigh : Numeral.hexDigit? high.toNat = some h) (hlow : Numeral.hexDigit? low.toNat = some l) :
    ∃ t : Token, t.written = ['%', high, low] ∧ t.octets = [.ofNat (16 * h + l)] := by
  obtain ⟨hh, hhigh⟩ := Numeral.hexDigit?_eq_some_iff.mp hhigh
  obtain ⟨hl, hlow⟩ := Numeral.hexDigit?_eq_some_iff.mp hlow
  have hoctet : (UInt8.ofNat (16 * h + l)).toNat = 16 * h + l :=
    UInt8.toNat_ofNat_of_lt' (by simp only [UInt8.size]; omega)
  refine ⟨.escape (.ofNat (16 * h + l)) high low ?_ ?_, rfl, rfl⟩
  · rwa [hoctet, Nat.mul_add_div (by decide), Nat.div_eq_of_lt hl]
  · rwa [hoctet, Nat.mul_add_mod, Nat.mod_eq_of_lt hl]

theorem spells_iff_tokens : Spells cs octets ↔
    ∃ ts : List Token, cs = ts.flatMap Token.written ∧ octets = ts.flatMap Token.octets := by
  constructor
  · intro h
    induction h with
    | nil => exact ⟨[], rfl, rfl⟩
    | @literal c cs octets hc _ ih =>
      obtain ⟨ts, rfl, rfl⟩ := ih
      exact ⟨.literal c hc :: ts, rfl, rfl⟩
    | escape hhigh hlow _ ih =>
      obtain ⟨ts, rfl, rfl⟩ := ih
      obtain ⟨t, hwritten, hoctets⟩ := exists_escape hhigh hlow
      refine ⟨t :: ts, ?_, ?_⟩
      · rw [List.flatMap_cons, hwritten]
        rfl
      · rw [List.flatMap_cons, hoctets]
        rfl
  · rintro ⟨ts, rfl, rfl⟩
    exact spells_tokens ts

end Tokens

section Passes

variable {scan : Bytes → Bytes} {c : Char} {cs piece rest : List Char} {fs : List (List Char)}
  {bs p r : Bytes} {high low x : UInt8}

theorem check_cons_of_ne (h : c ≠ '%') (cs : List Char) : check (c :: cs) = check cs := by
  obtain ⟨f, fs, hfields, hcons⟩ := Text.fields_cons_of_ne h cs
  rw [check, check, hfields, hcons]
  rfl

theorem check_percent (h : Text.fields '%' cs = piece :: fs) :
    check ('%' :: cs) = checkPiece piece >>= fun _ => check cs := by
  rw [check, check, Text.fields, if_pos rfl, h]
  rfl

theorem exists_piece (cs : List Char) : ∃ piece rest fs, Text.fields '%' cs = piece :: fs ∧
    cs = piece ++ rest ∧ '%' ∉ piece ∧ (rest = [] ∨ ∃ t, rest = '%' :: t) := by
  obtain ⟨piece, fs, hfields⟩ := List.exists_cons_of_ne_nil (Text.fields_ne_nil '%' cs)
  cases fs with
  | nil =>
    obtain ⟨rfl, hpiece⟩ := Text.fields_eq_singleton_iff.mp hfields
    exact ⟨cs, [], [], hfields, (List.append_nil cs).symm, hpiece, .inl rfl⟩
  | cons g gs =>
    obtain ⟨rest, rfl, hpiece, -⟩ := Text.fields_eq_cons_cons_iff.mp hfields
    exact ⟨piece, '%' :: rest, g :: gs, hfields, rfl, hpiece, .inr ⟨rest, rfl⟩⟩

theorem mark_notMem_flatMap (h : '%' ∉ piece) : mark ∉ piece.flatMap String.utf8EncodeChar := by
  intro hmem
  obtain ⟨c, hc, hmark⟩ := List.mem_flatMap.mp hmem
  exact mark_notMem_utf8EncodeChar (ne_of_mem_of_not_mem hc h) hmark

theorem decodeBytes_of_short (hp : p.length < 2) (hr : r = [] ∨ ∃ t, r = mark :: t) :
    decodeBytes (mark :: (p ++ r)) = .error .truncated := by
  match p, hp with
  | [], _ =>
    obtain rfl | ⟨t, rfl⟩ := hr
    · rfl
    · cases t with
      | nil => rfl
      | cons low t => rw [List.nil_append, decodeBytes_mark, if_pos (.inl rfl)]
  | [_], _ =>
    obtain rfl | ⟨t, rfl⟩ := hr
    · rfl
    · rw [List.singleton_append, decodeBytes_mark, if_pos (.inr rfl)]

theorem areHexDigits_iff : (isHexDigit high && isHexDigit low) = true ↔ ∃ h l,
    Numeral.hexDigit? high.toNat = some h ∧ Numeral.hexDigit? low.toNat = some l := by
  simp [isHexDigit, Option.isSome_iff_exists]

theorem decodeBytes_of_no_digits (hhigh : high ≠ mark) (hlow : low ≠ mark)
    (hdigits : ¬(isHexDigit high && isHexDigit low) = true) (bs : Bytes) :
    decodeBytes (mark :: high :: low :: bs) = .error .malformed := by
  rw [decodeBytes_mark, if_neg (not_or.mpr ⟨hhigh, hlow⟩)]
  cases hx : octet? high low with
  | none => rfl
  | some x =>
    obtain ⟨h, l, hh, hl, -⟩ := octet?_eq_some_iff.mp hx
    exact absurd (areHexDigits_iff.mpr ⟨h, l, hh, hl⟩) hdigits

theorem Replaces.copy_append (hscan : Replaces scan) (hp : mark ∉ p) (bs : Bytes) :
    scan (p ++ bs) = p ++ scan bs := by
  induction p with
  | nil => rfl
  | cons b p ih =>
    obtain ⟨hb, hp⟩ := not_or.mp (mt List.mem_cons.mpr hp)
    rw [List.cons_append, hscan.copy _ (Ne.symm hb), ih hp, List.cons_append]

/-- Behind a percent sign there are two digits, or the check and the decoder find the same fault. -/
theorem check_percent_cases (cs : List Char) :
    (∃ flaw, check ('%' :: cs) = .error flaw ∧
      decodeBytes (mark :: cs.flatMap String.utf8EncodeChar) = .error flaw) ∨
    ∃ high low rest h l, cs = high :: low :: rest ∧ Numeral.hexDigit? high.toNat = some h ∧
      Numeral.hexDigit? low.toNat = some l ∧ check ('%' :: cs) = check rest := by
  obtain ⟨piece, rest, fs, hfields, rfl, hpiece, hrest⟩ := exists_piece cs
  have hmark := mark_notMem_flatMap hpiece
  rw [check_percent hfields, checkPiece, Bytes.ofText_ofList, List.flatMap_append]
  have hnext : rest.flatMap String.utf8EncodeChar = [] ∨
      ∃ t, rest.flatMap String.utf8EncodeChar = mark :: t := by
    obtain rfl | ⟨t, rfl⟩ := hrest
    · exact .inl rfl
    · exact .inr ⟨_, flatMap_percent t⟩
  rcases hoctets : piece.flatMap String.utf8EncodeChar with _ | ⟨high, _ | ⟨low, tail⟩⟩
  · exact .inl ⟨.truncated, rfl, decodeBytes_of_short (by simp) hnext⟩
  · exact .inl ⟨.truncated, rfl, decodeBytes_of_short (by simp) hnext⟩
  · by_cases hdigits : (isHexDigit high && isHexDigit low) = true
    · obtain ⟨h, l, hh, hl⟩ := areHexDigits_iff.mp hdigits
      obtain ⟨d, ds, rfl, hd, hds⟩ := exists_digit_of_flatMap hoctets hh
      obtain ⟨e, es, rfl, he, rfl⟩ := exists_digit_of_flatMap hds.symm hl
      simp only [List.mem_cons, not_or] at hpiece
      refine .inr ⟨d, e, es ++ rest, h, l, rfl, hd, he, ?_⟩
      rw [checkDigits, if_pos hdigits, List.cons_append, List.cons_append,
        check_cons_of_ne (Ne.symm hpiece.1), check_cons_of_ne (Ne.symm hpiece.2.1)]
      rfl
    · rw [hoctets] at hmark
      simp only [List.mem_cons, not_or] at hmark
      refine .inl ⟨.malformed, ?_, ?_⟩
      · rw [checkDigits, if_neg hdigits]
        rfl
      · exact decodeBytes_of_no_digits (Ne.symm hmark.1) (Ne.symm hmark.2.1) hdigits _

theorem decodeBytes_eq_passes (hscan : Replaces scan) (cs : List Char) :
    decodeBytes (cs.flatMap String.utf8EncodeChar) =
      (check cs).map fun _ => scan (cs.flatMap String.utf8EncodeChar) := by
  -- by induction on the length of the text, as an escape takes three of its characters at once
  induction hn : cs.length using Nat.strongRecOn generalizing cs with
  | _ n ih =>
    subst hn
    cases cs with
    | nil => exact congrArg Except.ok hscan.nil.symm
    | cons c cs =>
      by_cases hc : c = '%'
      · subst hc
        rw [flatMap_percent]
        obtain ⟨flaw, hcheck, hdecode⟩ | ⟨high, low, rest, h, l, rfl, hhigh, hlow, hcheck⟩ :=
          check_percent_cases cs
        · rw [hcheck, hdecode]
          rfl
        · obtain ⟨b, hb, hbdigit⟩ := flatMap_digit hhigh (low :: rest)
          obtain ⟨b', hb', hbdigit'⟩ := flatMap_digit hlow rest
          rw [hcheck, hb, hb', decodeBytes_of_digits hbdigit hbdigit',
            hscan.replace _ hbdigit hbdigit',
            ih rest.length (by simp only [List.length_cons]; omega) rest rfl]
          cases check rest <;> rfl
      · have hmark := mark_notMem_utf8EncodeChar hc
        rw [List.flatMap_cons, check_cons_of_ne hc, decodeBytes_append_of_notMem hmark,
          hscan.copy_append hmark, ih cs.length (Nat.lt_succ_self _) cs rfl]
        cases check cs <;> rfl

theorem decode_eq_checkThenReplace (hscan : Replaces scan) (s : String) :
    decode s = checkThenReplace scan s := by
  have hoctets : Bytes.ofText s = s.toList.flatMap String.utf8EncodeChar := by
    rw [← Bytes.ofText_ofList, String.ofList_toList]
  rw [decode, checkThenReplace, hoctets, decodeBytes_eq_passes hscan]
  cases check s.toList <;> rfl

end Passes

/-! ## Acceptance -/

section Acceptance

variable {cs : List Char} {octets : Bytes} {s : String}

theorem Spells.complete (h : Spells cs octets) : Complete cs := by
  induction h with
  | nil => exact fun before after hcs => absurd hcs (by simp)
  | literal hc _ ih =>
    intro before after hcs
    cases before with
    | nil => exact absurd (List.cons.inj hcs).1 hc
    | cons b before => exact ih before after (List.cons.inj hcs).2
  | escape hhigh hlow _ ih =>
    intro before after hcs
    match before with
    | [] =>
      cases hcs
      exact ⟨_, _, _, rfl, ⟨_, Numeral.hexDigit?_eq_some_iff.mp hhigh⟩,
        _, Numeral.hexDigit?_eq_some_iff.mp hlow⟩
    | [_] =>
      cases hcs
      exact nomatch hhigh
    | [_, _] =>
      cases hcs
      exact nomatch hlow
    | _ :: _ :: _ :: before =>
      simp only [List.cons_append, List.cons.injEq] at hcs
      exact ih before after hcs.2.2.2

theorem exists_spells_of_complete (h : Complete cs) : ∃ octets, Spells cs octets := by
  -- by induction on the length of the text, as an escape takes three of its characters at once
  induction hn : cs.length using Nat.strongRecOn generalizing cs with
  | _ n ih =>
    subst hn
    cases cs with
    | nil => exact ⟨[], .nil⟩
    | cons c cs =>
      by_cases hc : c = '%'
      · subst hc
        obtain ⟨high, low, rest, rfl, ⟨d, hd, hhigh⟩, e, he, hlow⟩ := h [] cs rfl
        have hrest : Complete rest := fun before after hcs =>
          h ('%' :: high :: low :: before) after (by rw [hcs]; rfl)
        obtain ⟨octets, hoctets⟩ := ih rest.length (by simp only [List.length_cons]; omega) hrest rfl
        exact ⟨_, .escape (hhigh.hexDigit? hd) (hlow.hexDigit? he) hoctets⟩
      · have hrest : Complete cs := fun before after hcs => h (c :: before) after (by rw [hcs]; rfl)
        obtain ⟨octets, hoctets⟩ := ih cs.length (Nat.lt_succ_self _) hrest rfl
        exact ⟨_, .literal hc hoctets⟩

theorem Spells.append {ds : List Char} {octets' : Bytes} (h : Spells cs octets)
    (h' : Spells ds octets') : Spells (cs ++ ds) (octets ++ octets') := by
  obtain ⟨ts, rfl, rfl⟩ := spells_iff_tokens.mp h
  obtain ⟨us, rfl, rfl⟩ := spells_iff_tokens.mp h'
  rw [← List.flatMap_append, ← List.flatMap_append]
  exact spells_tokens (ts ++ us)

theorem decode_eq_ok_iff : decode s = .ok octets ↔ Spells s.toList octets := by
  rw [← decodeBytes_ofList_eq_ok_iff, String.ofList_toList, decode]
  cases decodeBytes (.ofText s) <;> simp

end Acceptance

/-- Checking and then replacing is the one pass of the decoder, whatever scan does the replacing. It
succeeds exactly if all escapes are complete, however a text is written in tokens it stands for their
octets and for nothing else, and texts are decoded one by one. -/
theorem decode_strict_and_once {scan : Bytes → Bytes} (hscan : Replaces scan) (s : String) :
    decode s = checkThenReplace scan s ∧
      ((∃ octets, decode s = .ok octets) ↔ Complete s.toList) ∧
      (∀ octets, decode s = .ok octets ↔ ∃ ts : List Token,
        s.toList = ts.flatMap Token.written ∧ octets = ts.flatMap Token.octets) ∧
      ∀ t octets octets', decode s = .ok octets → decode t = .ok octets' →
        decode (s ++ t) = .ok (octets ++ octets') := by
  refine ⟨decode_eq_checkThenReplace hscan s, ?_, fun octets => ?_, fun t octets octets' hs ht => ?_⟩
  · simp only [decode_eq_ok_iff]
    exact ⟨fun ⟨_, h⟩ => h.complete, exists_spells_of_complete⟩
  · rw [decode_eq_ok_iff, spells_iff_tokens]
  · rw [decode_eq_ok_iff] at hs ht ⊢
    rw [String.toList_append]
    exact hs.append ht

/-- A percent sign that comes from an escape, a plus sign and a character of two octets. -/
theorem decode_strict_and_once_of_mixed :
    Replaces replaceEscapes ∧ decode "%2541+é" = .ok [37, 52, 49, 43, 0xc3, 0xa9] ∧
      checkThenReplace replaceEscapes "%2541+é" = .ok [37, 52, 49, 43, 0xc3, 0xa9] ∧
      Complete "%2541+é".toList ∧ decode "%aF" = .ok [0xaf] ∧
      decode ("%2541+é" ++ "%aF") = .ok [37, 52, 49, 43, 0xc3, 0xa9, 0xaf] := by
  have h := decode_strict_and_once replaces_replaceEscapes "%2541+é"
  have hmixed : decode "%2541+é" = .ok [37, 52, 49, 43, 0xc3, 0xa9] := by decide +kernel
  have hescape : decode "%aF" = .ok [0xaf] := by decide +kernel
  exact ⟨replaces_replaceEscapes, hmixed, h.1 ▸ hmixed, h.2.1.mp ⟨_, hmixed⟩, hescape,
    h.2.2.2 _ _ _ hmixed hescape⟩

end FileCatalog.Escape

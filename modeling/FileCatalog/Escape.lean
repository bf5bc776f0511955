import FileCatalog.Bytes
import FileCatalog.Fault
import FileCatalog.Numeral

/-!
# Percent escapes

An escape is a percent sign and two hexadecimal digits, and it stands for one octet. All other
octets stand for themselves, the plus sign included. Decoding is one pass from left to right, so an
octet that an escape has produced is never looked at again. The two digits must be there before the
next percent sign; the first escape that breaks a rule is the one reported.
-/

namespace FileCatalog.Escape

/-- How an escape breaks the rules. -/
inductive Flaw where
  | truncated
  | malformed
  deriving DecidableEq, Repr

def Flaw.reason : Flaw → String
  | truncated => "truncated percent escape"
  | malformed => "invalid percent escape"

/-- The percent sign. -/
def mark : UInt8 := 37

/-- The octet that an escape with the two given digits stands for. -/
def octet? (high low : UInt8) : Option UInt8 := do
  let h ← Numeral.hexDigit? high.toNat
  let l ← Numeral.hexDigit? low.toNat
  return .ofNat (16 * h + l)

def decodeBytes : Bytes → Except Flaw Bytes
  | [] => .ok []
  | b :: bs =>
    if b = mark then
      match bs with
      | high :: low :: rest =>
        if high = mark ∨ low = mark then .error .truncated
        else
          match octet? high low with
          | some x => (decodeBytes rest).map (x :: ·)
          | none => .error .malformed
      | _ => .error .truncated
    else (decodeBytes bs).map (b :: ·)

/-- Decode the octets of a text; the fault names the whole text. -/
def decode (s : String) : Except Fault Bytes :=
  (decodeBytes (.ofText s)).mapError fun flaw => .invalidLocator s flaw.reason

@[simp] theorem decodeBytes_nil : decodeBytes [] = .ok [] := rfl

theorem decodeBytes_cons_of_ne {b : UInt8} (h : b ≠ mark) (bs : Bytes) :
    decodeBytes (b :: bs) = (decodeBytes bs).map (b :: ·) := by
  match bs with
  | [] => simp [decodeBytes, h]
  | [_] => simp [decodeBytes, h]
  | _ :: _ :: _ => simp [decodeBytes, h]

theorem decodeBytes_mark (high low : UInt8) (bs : Bytes) :
    decodeBytes (mark :: high :: low :: bs) =
      if high = mark ∨ low = mark then .error .truncated
      else
        match octet? high low with
        | some x => (decodeBytes bs).map (x :: ·)
        | none => .error .malformed := by
  simp [decodeBytes]

end FileCatalog.Escape

import FileCatalog.Fault
import FileCatalog.Layout.Format
import FileCatalog.Numeral

/-!
# Layout headers

Only the format and the generation of a stored layout are decoded. Nothing but the octets of these
two fields is looked at, and the layout may be longer than its header.
-/

namespace FileCatalog

structure Layout.Header where
  format : Format
  generation : UInt32
  deriving DecidableEq, Repr

namespace Layout.Header

/-- The field of the number that tells the format. -/
def magicField : Span := ⟨0, 4⟩

/-- The generation of a layout whose format stores none. -/
def noGeneration : UInt32 := 0xFFFFFFFF

def invalid {α : Type} (details : String) : Except Fault α :=
  .error (.invalidFormat "layout header" details)

/-- The number stored in a field, least significant octet first. -/
def word (field : Span) (raw : Bytes) : UInt32 := .ofNat (field.read raw).toNat

def decodeGeneration (format : Format) (raw : Bytes) : Except Fault UInt32 :=
  match format.generationField with
  | none => .ok noGeneration
  | some field =>
    if field.stop ≤ raw.length then .ok (word field raw)
    else
      invalid (format.name ++ " truncated to " ++ toString raw.length ++ " bytes (need " ++
        toString field.stop ++ ")")

def decode (raw : Bytes) : Except Fault Header :=
  if magicField.stop ≤ raw.length then
    match Format.ofMagic? (word magicField raw) with
    | none =>
      let digits := Numeral.paddedHexChars 8 (word magicField raw).toNat
      invalid ("unknown magic 0x" ++ String.ofList digits)
    | some format => (decodeGeneration format raw).map fun generation => ⟨format, generation⟩
  else
    invalid (toString raw.length ++ " bytes, too short for a magic")

end Layout.Header

end FileCatalog

import FileCatalog.EntryId
import FileCatalog.Fault
import FileCatalog.Numeral
import FileCatalog.Text

/-!
# Lustre file identifiers

A fid has a sequence number, an object number and a version. It is written `[0xSEQ:0xOBJ:0xVER]`
and stored in sixteen octets. The reader is more liberal than the writer: brackets are dropped
when both are there, the letter of the mark `0x` has either case, and a plus sign may stand between
the mark and the digits. Any number of leading zeros is allowed.
-/

namespace FileCatalog

structure Fid where
  sequence : UInt64
  object : UInt32
  version : UInt32
  deriving DecidableEq, Repr

namespace Fid

/-- The number of octets of a stored fid. -/
def size : Nat := 16

/-- The kind of the kernel handles that Lustre exports. -/
def handleKind : Int32 := 0x97

def bytes (f : Fid) : Bytes :=
  Bytes.ofNat 8 f.sequence.toNat ++ Bytes.ofNat 4 f.object.toNat ++
    Bytes.ofNat 4 f.version.toNat

@[simp] theorem length_bytes (f : Fid) : f.bytes.length = size := by
  simp [bytes, size]

/-- The handle that Lustre exports for a fid: the fid and then a parent fid of zeros. -/
def handle (f : Fid) : KernelHandle where
  kind := handleKind
  payload := f.bytes ++ List.replicate size 0

def entryId (f : Fid) : EntryId := .ofHandle f.handle

/-- One number of a fid as it is written. -/
def fieldChars (n : Nat) : List Char := '0' :: 'x' :: Numeral.hexChars n

/-- A fid as it is written, without its brackets. -/
def bareChars (f : Fid) : List Char :=
  fieldChars f.sequence.toNat ++ ':' :: fieldChars f.object.toNat ++
    ':' :: fieldChars f.version.toNat

def text (f : Fid) : String := String.ofList ('[' :: f.bareChars ++ [']'])

/-- Drop one pair of enclosing brackets if both are there. -/
def unbracket : List Char → List Char
  | '[' :: cs => if cs.getLast? = some ']' then cs.dropLast else '[' :: cs
  | cs => cs

/-- A hexadecimal numeral that may start with a plus sign. -/
def readNumber? : List Char → Option Nat
  | '+' :: cs => Numeral.read? 16 (fun c => Numeral.hexDigit? c.toNat) cs
  | cs => Numeral.read? 16 (fun c => Numeral.hexDigit? c.toNat) cs

/-- One field: the mark and a number below `bound`. -/
def readField? (bound : Nat) : List Char → Option Nat
  | '0' :: x :: cs =>
    if x = 'x' ∨ x = 'X' then (readNumber? cs).filter (· < bound) else none
  | _ => none

def read? (cs : List Char) : Option Fid :=
  match Text.fields ':' (unbracket cs) with
  | [s, o, v] => do
    let sequence ← readField? UInt64.size s
    let object ← readField? UInt32.size o
    let version ← readField? UInt32.size v
    return ⟨.ofNat sequence, .ofNat object, .ofNat version⟩
  | _ => none

def parse (s : String) : Except Fault Fid :=
  match read? s.toList with
  | some f => .ok f
  | none => .error (.invalidFormat "lustre fid" s)

end Fid

end FileCatalog

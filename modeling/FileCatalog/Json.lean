/-!
# JSON values

Numbers are kept exactly, as a mantissa and a count of decimal places, so that a number is an
integer just when it has no places at all.
-/

namespace FileCatalog

inductive Json where
  | null
  | bool (b : Bool)
  | number (mantissa : Int) (places : Nat)
  | string (s : String)
  | array (items : List Json)
  | object (members : List (String × Json))
  deriving Inhabited, Repr

namespace Json

def int (n : Int) : Json := .number n 0

def nat (n : Nat) : Json := .number n 0

def option {α : Type} (toJson : α → Json) : Option α → Json
  | none => .null
  | some a => toJson a

def asBool? : Json → Option Bool
  | .bool b => some b
  | _ => none

def asInt? : Json → Option Int
  | .number n 0 => some n
  | _ => none

/-- An integer from zero up to but not including `bound`. -/
def asNatBelow? (bound : Nat) (j : Json) : Option Nat := do
  let n ← j.asInt?
  if 0 ≤ n ∧ n.toNat < bound then some n.toNat else none

def asUInt64? (j : Json) : Option UInt64 := (j.asNatBelow? UInt64.size).map .ofNat

def asUInt32? (j : Json) : Option UInt32 := (j.asNatBelow? UInt32.size).map .ofNat

def asUInt8? (j : Json) : Option UInt8 := (j.asNatBelow? UInt8.size).map .ofNat

def asInt32? (j : Json) : Option Int32 := do
  let n ← j.asInt?
  if Int32.minValue.toInt ≤ n ∧ n ≤ Int32.maxValue.toInt then some (.ofInt n) else none

def asArray? : Json → Option (List Json)
  | .array items => some items
  | _ => none

/-- The fields of a structure, written as an object that has them all or as the array of their
values in order. Other members of the object are passed over. -/
def fields? (names : List String) : Json → Option (List Json)
  | .object members => names.mapM fun name => members.lookup name
  | .array items => if items.length = names.length then some items else none
  | _ => none

end Json

end FileCatalog
